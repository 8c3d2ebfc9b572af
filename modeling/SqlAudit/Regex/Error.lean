import SqlAudit.Regex.Basic
import SqlAudit.Text.Integer
import SqlAudit.Text.Quoted

/-
  What can be wrong with the text of a regular expression.

  Key definitions include:
    * `SqlAudit.Regex.Cause`
    * `SqlAudit.Regex.Error`
    * `SqlAudit.Regex.Error.message`
-/

------------------------------------------------------------
-- Errors
------------------------------------------------------------

namespace SqlAudit

namespace Regex

/-
  Why a text is no regular expression. The last three causes
  are about numbers and switches that are well formed, but
  out of bounds.
-/
inductive Cause where
| unclosedGroup
| unclosedComment
| unbalancedGroup
| nothingToRepeat
| multipleRepeat
| crossedBounds
| unclosedClass
| badRange (first last : List Char)
| danglingEscape
| badEscape (escape : List Char)
| incompleteEscape (escape : List Char)
| largeOctal (escape : List Char)
| missingBrace
| unknownCharacter (name : List Char)
| badReference (number : Nat)
| openReference
| lookReference
| zeroReference
| unknownExtension (extension : List Char)
| unexpectedEnd
| missingName (kind : String)
| unclosedName (mark : Char)
| badName (name : List Char)
| unknownName (name : List Char)
| repeatedName (name : List Char) (number earlier : Nat)
| thirdBranch
| missingSwitch
| missingSwitchEnd
| missingColon
| unknownSwitch
| localeSwitch
| alphabetSwitches
| alphabetOff
| globalOn
| globalOff
| onAndOff
| lateSwitches
| variableLook
| repetition (greed : Greed)
| manyRounds
| longNumber (digits : Nat)
| mixedAlphabets
  deriving Repr, DecidableEq

/-
  A cause and the place where it was noticed. Some causes
  are noticed only when the whole text has been read.
-/
structure Error where
  cause : Cause
  position : Option Nat
  deriving Repr, DecidableEq

/- The text is malformed, and no number is out of bounds. -/
def Error.isMalformed (e : Error) : Bool :=
  match e.cause with
  | .manyRounds | .longNumber _ | .mixedAlphabets => false
  | _ => true

end Regex

end SqlAudit

------------------------------------------------------------
-- Wording
------------------------------------------------------------

namespace SqlAudit

/- What a repetition is called. -/
def Greed.called : Greed → List Char
| .greedy => "MAX_REPEAT".toList
| .frugal => "MIN_REPEAT".toList
| .possessive => "POSSESSIVE_REPEAT".toList

namespace Regex

/- The wording of a cause. -/
def Cause.message : Cause → List Char
| .unclosedGroup =>
    "missing ), unterminated subpattern".toList
| .unclosedComment =>
    "missing ), unterminated comment".toList
| .unbalancedGroup => "unbalanced parenthesis".toList
| .nothingToRepeat => "nothing to repeat".toList
| .multipleRepeat => "multiple repeat".toList
| .crossedBounds =>
    "min repeat greater than max repeat".toList
| .unclosedClass => "unterminated character set".toList
| .badRange first last =>
    "bad character range ".toList ++ first ++ '-' :: last
| .danglingEscape => "bad escape (end of pattern)".toList
| .badEscape escape => "bad escape ".toList ++ escape
| .incompleteEscape escape =>
    "incomplete escape ".toList ++ escape
| .largeOctal escape =>
    "octal escape value ".toList ++ escape ++
      " outside of range 0-0o377".toList
| .missingBrace => "missing \x7b".toList
| .unknownCharacter name =>
    "undefined character name ".toList ++ Text.quoted name
| .badReference number =>
    "invalid group reference ".toList ++
      (toString number).toList
| .openReference =>
    "cannot refer to an open group".toList
| .lookReference =>
    "cannot refer to group defined in the same ".toList ++
      "lookbehind subpattern".toList
| .zeroReference => "bad group number".toList
| .unknownExtension extension =>
    "unknown extension ?".toList ++ extension
| .unexpectedEnd => "unexpected end of pattern".toList
| .missingName kind => "missing ".toList ++ kind.toList
| .unclosedName mark =>
    "missing ".toList ++ mark ::
      ", unterminated name".toList
| .badName name =>
    "bad character in group name ".toList ++
      Text.quoted name
| .unknownName name =>
    "unknown group name ".toList ++ Text.quoted name
| .repeatedName name number earlier =>
    "redefinition of group name ".toList ++
      Text.quoted name ++ " as group ".toList ++
      (toString number).toList ++ "; was group ".toList ++
      (toString earlier).toList
| .thirdBranch =>
    "conditional backref with more than two ".toList ++
      "branches".toList
| .missingSwitch => "missing flag".toList
| .missingSwitchEnd => "missing -, : or )".toList
| .missingColon => "missing :".toList
| .unknownSwitch => "unknown flag".toList
| .localeSwitch =>
    "bad inline flags: cannot use 'L' flag with a ".toList ++
      "str pattern".toList
| .alphabetSwitches =>
    "bad inline flags: flags 'a', 'u' and 'L' are ".toList ++
      "incompatible".toList
| .alphabetOff =>
    "bad inline flags: cannot turn off flags 'a', ".toList ++
      "'u' and 'L'".toList
| .globalOn =>
    "bad inline flags: cannot turn on global flag".toList
| .globalOff =>
    "bad inline flags: cannot turn off global flag".toList
| .onAndOff =>
    "bad inline flags: flag turned on and off".toList
| .lateSwitches =>
    "global flags not at the start of the ".toList ++
      "expression".toList
| .variableLook =>
    "look-behind requires fixed-width pattern".toList
| .repetition greed =>
    "internal: unsupported template operator ".toList ++
      greed.called
| .manyRounds => "the repetition number is too large".toList
| .longNumber digits =>
    "Exceeds the limit (".toList ++
      (toString Text.digitLimit).toList ++
      " digits) for integer string conversion: ".toList ++
      "value has ".toList ++ (toString digits).toList ++
      " digits; use sys.set_int_max_str_digits() to ".toList ++
      "increase the limit".toList
| .mixedAlphabets =>
    "ASCII and UNICODE flags are incompatible".toList

/-
  The line and column of a position, both from one on, which
  a message adds when the pattern has several lines.
-/
def lineAndColumn
    (pattern : List Char)
    (position : Nat) : List Char :=
  let seen := pattern.take position
  let line := seen.count '\n' + 1
  let column :=
    (seen.reverse.takeWhile (· != '\n')).length + 1
  " (line ".toList ++ (toString line).toList ++
    ", column ".toList ++ (toString column).toList ++ [')']

/- The wording of a position in the given pattern. -/
def placeText
    (pattern : List Char)
    (position : Nat) : List Char :=
  " at position ".toList ++ (toString position).toList ++
    if pattern.contains '\n' then
      lineAndColumn pattern position
    else
      []

/- The wording of an error in the given pattern. -/
def Error.message
    (pattern : List Char)
    (e : Error) : List Char :=
  e.cause.message ++
    match e.position with
    | some position => placeText pattern position
    | none => []

end Regex

end SqlAudit
