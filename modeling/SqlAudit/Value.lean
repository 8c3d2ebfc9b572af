import SqlAudit.Decimal.Binary64
import SqlAudit.Text.Quoted

/-
  Values of the data in which rules are drafted, runs are
  configured and reports are written.

  A draft or a configuration may give any value for any
  setting, so the checks on them look at values. Values that
  can identify a rule have a key: a truth value counts as
  zero or one, and a number is the same key whether it is
  written as an integer or not. Lists and records have none.

  Key definitions include:
    * `SqlAudit.Value`
    * `SqlAudit.Value.isTruthy`
    * `SqlAudit.Value.key?`
    * `SqlAudit.Value.literal`
    * `SqlAudit.Value.display`
-/

------------------------------------------------------------
-- Values
------------------------------------------------------------

namespace SqlAudit

/- A value of a setting or of a report. -/
inductive Value where
| null
| flag (b : Bool)
| integer (n : Int)
| real (x : Binary64)
| text (s : String)
| list (items : List Value)
| record (fields : List (String × Value))
  deriving Repr, Inhabited

namespace Value

/- Nothing, zero and all that is empty do not count. -/
def isTruthy : Value → Bool
| .null => false
| .flag b => b
| .integer n => n != 0
| .real x => !x.isZero
| .text s => s != ""
| .list items => !items.isEmpty
| .record fields => !fields.isEmpty

/- The word for a kind of value in messages. -/
def typeName : Value → String
| .null => "NoneType"
| .flag _ => "bool"
| .integer _ => "int"
| .real _ => "float"
| .text _ => "str"
| .list _ => "list"
| .record _ => "dict"

/- The integer that a truth value or integer counts as. -/
def toInt? : Value → Option Int
| .flag b => some (if b then 1 else 0)
| .integer n => some n
| _ => none

end Value

end SqlAudit

------------------------------------------------------------
-- Keys
------------------------------------------------------------

namespace SqlAudit

/- What two equal values have in common as identifiers. -/
inductive Key where
| null
| integer (n : Int)
| real (x : Binary64)
| text (s : String)
  deriving Repr, DecidableEq

/- The key of a value, if the value can be one. -/
def Value.key? : Value → Option Key
| .null => some .null
| .flag b => some (.integer (if b then 1 else 0))
| .integer n => some (.integer n)
| .real x =>
    match x.toInt? with
    | some n => some (.integer n)
    | none => some (.real x)
| .text s => some (.text s)
| .list _ => none
| .record _ => none

end SqlAudit

------------------------------------------------------------
-- Literals
------------------------------------------------------------

namespace SqlAudit

/- Pieces of text with a comma and a space between them. -/
def commaSeparated
    (pieces : List (List Char)) : List Char :=
  [',', ' '].intercalate pieces

namespace Value

mutual

/- The value as messages spell it. -/
def literal : Value → List Char
| .null => "None".toList
| .flag true => "True".toList
| .flag false => "False".toList
| .integer n => (toString n).toList
| .real x => x.render
| .text s => Text.quoted s.toList
| .list items =>
    '[' :: commaSeparated (literals items) ++ [']']
| .record fields =>
    '\x7b' ::
      commaSeparated (fieldLiterals fields) ++ ['\x7d']

/- The spellings of the items of a list. -/
def literals : List Value → List (List Char)
| [] => []
| v :: vs => literal v :: literals vs

/- The spellings of the fields of a record. -/
def fieldLiterals :
    List (String × Value) → List (List Char)
| [] => []
| (name, v) :: fields =>
    (Text.quoted name.toList ++ ':' :: ' ' :: literal v) ::
      fieldLiterals fields

end

/- The value inside running text: a text as it is. -/
def display : Value → List Char
| .text s => s.toList
| v => v.literal

end Value

end SqlAudit
