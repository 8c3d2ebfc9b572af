import SqlAudit.Text.Quoted

/-
  What can go wrong when a template is filled in.

  Key definitions include:
    * `SqlAudit.Template.Error`
    * `SqlAudit.Template.Error.message`
-/

------------------------------------------------------------
-- Errors
------------------------------------------------------------

namespace SqlAudit

namespace Template

/- Why a template cannot be filled in. -/
inductive Error where
| loneOpening
| loneClosing
| openingInName
| unclosedField
| missingConversion
| longConversion
| unclosedLayout
| deepLayout
| noSuchNumber (n : Nat)
| noSuchName (name : List Char)
| numberTooLong
| emptyPart
| strayAfterIndex
| noSuchPart (holder name : List Char)
| notIndexed (holder : List Char)
| indexNotNumber
| indexTooLarge
| unknownConversion (c : Char)
| signInLayout
| spaceInLayout
| zeroSignInLayout
| alternateLayout
| signAwareLayout
| groupedDigits (mark kind : Char)
| groupedTwice
| missingPrecision
| longLayout (layout : List Char)
| unknownLayout (c : Char)
| noLayout (kind : String)
| noRoom
  deriving Repr, DecidableEq

/-
  The template is well formed, but asks for something that
  what it holds cannot do.
-/
def Error.isMisuse : Error → Bool
| .noSuchPart .. | .notIndexed _ | .indexNotNumber => true
| .noLayout _ | .noRoom => true
| _ => false

end Template

end SqlAudit

------------------------------------------------------------
-- Wording
------------------------------------------------------------

namespace SqlAudit

namespace Template

/-
  A character in a message: itself between the blank and the
  limit, and its code elsewhere.
-/
def shown
    (limit : Nat)
    (c : Char) : List Char :=
  if 32 < c.toNat && c.toNat < limit then [c]
  else '\\' :: 'x' :: Text.hexDigits 1 c.toNat

/- The wording of an error. -/
def Error.message : Error → List Char
| .loneOpening =>
    "Single '\x7b' encountered in format string".toList
| .loneClosing =>
    "Single '\x7d' encountered in format string".toList
| .openingInName =>
    "unexpected '\x7b' in field name".toList
| .unclosedField =>
    "expected '\x7d' before end of string".toList
| .missingConversion =>
    "end of string while looking for conversion ".toList ++
      "specifier".toList
| .longConversion =>
    "expected ':' after conversion specifier".toList
| .unclosedLayout =>
    "unmatched '\x7b' in format spec".toList
| .deepLayout => "Max string recursion exceeded".toList
| .noSuchNumber n =>
    "Replacement index ".toList ++ (toString n).toList ++
      " out of range for positional args tuple".toList
| .noSuchName name => Text.quoted name
| .numberTooLong =>
    "Too many decimal digits in format string".toList
| .emptyPart => "Empty attribute in format string".toList
| .strayAfterIndex =>
    "Only '.' or '[' may follow ']' in format ".toList ++
      "field specifier".toList
| .noSuchPart holder name =>
    holder ++ " has no attribute '".toList ++ name ++
      ['\x27']
| .notIndexed holder =>
    holder ++ " is not subscriptable".toList
| .indexNotNumber =>
    "string indices must be integers, not 'str'".toList
| .indexTooLarge => "string index out of range".toList
| .unknownConversion c =>
    "Unknown conversion specifier ".toList ++ shown 127 c
| .signInLayout =>
    "Sign not allowed in string format specifier".toList
| .spaceInLayout =>
    "Space not allowed in string format specifier".toList
| .zeroSignInLayout =>
    "Negative zero coercion (z) not allowed in ".toList ++
      "string format specifier".toList
| .alternateLayout =>
    "Alternate form (#) not allowed in string ".toList ++
      "format specifier".toList
| .signAwareLayout =>
    "'=' alignment not allowed in string format ".toList ++
      "specifier".toList
| .groupedDigits mark kind =>
    "Cannot specify '".toList ++ mark ::
      "' with '".toList ++ shown 128 kind ++ "'.".toList
| .groupedTwice =>
    "Cannot specify both ',' and '_'.".toList
| .missingPrecision =>
    "Format specifier missing precision".toList
| .longLayout layout =>
    "Invalid format specifier '".toList ++ layout ++
      "' for object of type 'str'".toList
| .unknownLayout c =>
    "Unknown format code '".toList ++ shown 128 c ++
      "' for object of type 'str'".toList
| .noLayout kind =>
    "unsupported format string passed to ".toList ++
      kind.toList ++ ".__format__".toList
| .noRoom => []

end Template

end SqlAudit
