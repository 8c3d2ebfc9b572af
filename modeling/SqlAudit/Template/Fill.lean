import SqlAudit.Template.Content
import SqlAudit.Template.Layout

/-
  Filling in a template.

  A template is a text with fields in braces; a brace that is
  text is written twice. The one thing that a field can hold
  is the table, by name, followed by parts and indexes, a
  conversion after an exclamation mark, and a layout after a
  colon. A layout may hold fields of its own.

  Key definitions include:
    * `SqlAudit.Template.placeholder`
    * `SqlAudit.Template.Field`
    * `SqlAudit.Template.fill`
-/

------------------------------------------------------------
-- Fields
------------------------------------------------------------

namespace SqlAudit

namespace Template

/- The field that every template of a rule has to hold. -/
def placeholder : List Char :=
  "\x7btable\x7d".toList

/- The name that a field can hold. -/
def tableField : List Char :=
  "table".toList

/- A field between its braces. -/
structure Field where
  name : List Char
  conversion : Option Char
  layout : List Char
  deriving Repr, DecidableEq

/-
  The name of a field, the mark that ends it and the rest. A
  name in brackets may hold any mark but a closing bracket.
-/
def fieldName :
    (bracketed : Bool) → List Char → List Char →
      Except Error (List Char × Char × List Char)
| _, _, [] => .error .unclosedField
| bracketed, seen, c :: rest =>
    if bracketed then
      fieldName (c != ']') (c :: seen) rest
    else if c == '\x7b' then
      .error .openingInName
    else if c == '\x7d' || c == ':' || c == '!' then
      .ok (seen.reverse, c, rest)
    else
      fieldName (c == '[') (c :: seen) rest

/-
  The layout of a field up to the brace that closes it, and
  the rest. `depth` more braces have to close inside it.
-/
def fieldLayout :
    (depth : Nat) → List Char → List Char →
      Except Error (List Char × List Char)
| _, _, [] => .error .unclosedLayout
| depth, seen, c :: rest =>
    if c == '\x7b' then
      fieldLayout (depth + 1) (c :: seen) rest
    else if c == '\x7d' then
      match depth with
      | 0 => .ok (seen.reverse, rest)
      | depth + 1 => fieldLayout depth (c :: seen) rest
    else
      fieldLayout depth (c :: seen) rest

/- A field after its opening brace, and the rest. -/
def field
    (s : List Char) : Except Error (Field × List Char) := do
  let (name, mark, rest) ← fieldName false [] s
  if mark == '\x7d' then
    return (⟨name, none, []⟩, rest)
  if mark == ':' then
    let (layout, rest) ← fieldLayout 0 [] rest
    return (⟨name, none, layout⟩, rest)
  match rest with
  | [] => .error .missingConversion
  | [_] => .error .unclosedLayout
  | c :: d :: rest =>
      if d == '\x7d' then
        return (⟨name, some c, []⟩, rest)
      if d != ':' then
        .error .longConversion
      let (layout, rest) ← fieldLayout 0 [] rest
      return (⟨name, some c, layout⟩, rest)

end Template

end SqlAudit

------------------------------------------------------------
-- The Value Of A Field
------------------------------------------------------------

namespace SqlAudit

namespace Template

/- The number that digits go on with, if they are all. -/
def numberFrom :
    Nat → List Char → Except Error (Option Nat)
| n, [] => .ok (some n)
| n, c :: rest =>
    match Text.digitValue? c with
    | none => .ok none
    | some d =>
        if greatestNumber < n * 10 + d then
          .error .numberTooLong
        else
          numberFrom (n * 10 + d) rest

/- The number that a whole text is. -/
def wholeNumber?
    (s : List Char) : Except Error (Option Nat) :=
  if s.isEmpty then .ok none else numberFrom 0 s

/- Marks before a part and before an index. -/
def isMark (c : Char) : Bool :=
  c == '.' || c == '['

/- The parts and indexes after a name, applied to content. -/
def follow :
    (fuel : Nat) → Content → List Char →
      Except Error Content
| _, content, [] => .ok content
| 0, _, _ => .error .emptyPart
| fuel + 1, content, '.' :: rest => do
    let name := rest.takeWhile fun c => !isMark c
    if name.isEmpty then
      .error .emptyPart
    follow fuel (← content.part name)
      (rest.drop name.length)
| fuel + 1, content, '[' :: rest => do
    let index := rest.takeWhile (· != ']')
    let n? ← wholeNumber? index
    if index.isEmpty then
      .error .emptyPart
    follow fuel (← content.item n?)
      (rest.drop (index.length + 1))
| _, _, _ => .error .strayAfterIndex

/- What a field's name stands for, given the table. -/
def lookup
    (table name : List Char) : Except Error Content := do
  let first := name.takeWhile fun c => !isMark c
  match ← wholeNumber? first with
  | some n => .error (.noSuchNumber n)
  | none =>
      if first.isEmpty then
        .error (.noSuchNumber 0)
      else if first != tableField then
        .error (.noSuchName first)
      else
        follow name.length (.text table)
          (name.drop first.length)

/- The text with all beyond ASCII by code point. -/
def asciiOnly (s : List Char) : List Char :=
  s.flatMap fun c =>
    if c.toNat < 0x80 then [c] else Text.escapeCode c.toNat

/- The content after the field's conversion. -/
def convert
    (content : Content) :
    Option Char → Except Error Content
| none => .ok content
| some 's' => .ok (.text content.shown)
| some 'r' => .ok (.text content.literal)
| some 'a' => .ok (.text (asciiOnly content.literal))
| some c => .error (.unknownConversion c)

/- The content laid out. Only texts have a layout. -/
def layOut
    (spec : List Char) :
    Content → Except Error (List Char)
| .text s => (Layout.parse spec).map fun l => l.apply s
| content =>
    if spec.isEmpty then .ok content.shown
    else .error (.noLayout content.kindName)

end Template

end SqlAudit

------------------------------------------------------------
-- Filling In
------------------------------------------------------------

namespace SqlAudit

namespace Template

/-
  Fill in the rest of a template. Fields in a layout take
  `depth`; every step takes a character of the template, so
  `fuel` need not exceed its length.
-/
def fillFrom
    (table : List Char) :
    (depth fuel : Nat) → List Char → Except Error (List Char)
| _, _, [] => .ok []
| _, 0, _ => .error .deepLayout
| 0, _, _ => .error .deepLayout
| depth + 1, fuel + 1, c :: rest =>
    if c == '\x7d' then
      match rest with
      | d :: rest =>
          if d == '\x7d' then
            (fillFrom table (depth + 1) fuel rest).map (c :: ·)
          else
            .error .loneClosing
      | [] => .error .loneClosing
    else if c == '\x7b' then
      match rest with
      | [] => .error .loneOpening
      | d :: after =>
          if d == '\x7b' then
            (fillFrom table (depth + 1) fuel after).map (c :: ·)
          else do
            let (f, rest) ← field rest
            let content ← convert (← lookup table f.name)
              f.conversion
            let spec ←
              if f.layout.contains '\x7b' then
                fillFrom table depth fuel f.layout
              else
                pure f.layout
            let value ← layOut spec content
            let tail ← fillFrom table (depth + 1) fuel rest
            return value ++ tail
    else
      (fillFrom table (depth + 1) fuel rest).map (c :: ·)

/- The template with the table in its fields. -/
def fill
    (template table : List Char) :
    Except Error (List Char) :=
  fillFrom table 2 template.length template

end Template

end SqlAudit
