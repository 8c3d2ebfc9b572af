import SqlAudit.Value

/-
  Values as JSON text.

  Each item and field stands on a line of its own, indented
  by two spaces for each level. All characters but the
  printable ones of ASCII are written by letter or by the
  numbers of their UTF-16 units.

  Key definitions include:
    * `SqlAudit.Value.json`
-/

------------------------------------------------------------
-- Text
------------------------------------------------------------

namespace SqlAudit.Json

/- One UTF-16 unit by its number. -/
def unit (n : Nat) : List Char :=
  '\\' :: 'u' :: Text.hexDigits 4 n

/- One character inside quotes. -/
def char (c : Char) : List Char :=
  let n := c.toNat
  if c == '"' || c == '\\' then ['\\', c]
  else if c == '\n' then ['\\', 'n']
  else if c == '\r' then ['\\', 'r']
  else if c == '\t' then ['\\', 't']
  else if n == 8 then ['\\', 'b']
  else if n == 12 then ['\\', 'f']
  else if 32 ≤ n && n < 127 then [c]
  else if n < 0x10000 then unit n
  else
    unit (0xd800 + (n - 0x10000) / 0x400) ++
      unit (0xdc00 + (n - 0x10000) % 0x400)

/- Text in quotes. -/
def text (s : List Char) : List Char :=
  '"' :: s.flatMap char ++ ['"']

end SqlAudit.Json

------------------------------------------------------------
-- Values
------------------------------------------------------------

namespace SqlAudit.Json

/-
  A number that is no integer. One that is not finite has a
  name.
-/
def real (x : Binary64) : List Char :=
  if x.isFinite then x.render
  else if x.fractionField != 0 then "NaN".toList
  else if x.negative then "-Infinity".toList
  else "Infinity".toList

/- A line feed and the indentation of a level. -/
def newLine (level : Nat) : List Char :=
  '\n' :: List.replicate (2 * level) ' '

/- Parts between brackets, one on each line. -/
def block
    (left right : Char)
    (level : Nat)
    (parts : List (List Char)) : List Char :=
  if parts.isEmpty then
    [left, right]
  else
    left :: newLine (level + 1) ++
      (',' :: newLine (level + 1)).intercalate parts ++
      newLine level ++ [right]

mutual

/- A value at a level of indentation. -/
def value (level : Nat) : Value → List Char
| .null => "null".toList
| .flag true => "true".toList
| .flag false => "false".toList
| .integer n => (toString n).toList
| .real x => real x
| .text s => text s.toList
| .list items =>
    block '[' ']' level (values (level + 1) items)
| .record fields =>
    block '\x7b' '\x7d' level (members (level + 1) fields)

/- The items of a list. -/
def values (level : Nat) : List Value → List (List Char)
| [] => []
| v :: vs => value level v :: values level vs

/- The fields of a record. -/
def members
    (level : Nat) :
    List (String × Value) → List (List Char)
| [] => []
| (name, v) :: fields =>
    (text name.toList ++ ':' :: ' ' :: value level v) ::
      members level fields

end

end SqlAudit.Json

namespace SqlAudit

/- The value as a JSON document. -/
def Value.json (v : Value) : List Char :=
  Json.value 0 v

end SqlAudit
