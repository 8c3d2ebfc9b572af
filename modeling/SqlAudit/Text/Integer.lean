import SqlAudit.Text.Blank
import SqlAudit.Text.Letter

/-
  Reading integers.

  An integer may have blanks around it and a sign. Its digits
  may be those of any script, and single underscores may
  stand between them. In base 2 and 16 the digits may have
  the mark of the base before them, with an underscore after
  the mark.

  Key definitions include:
    * `SqlAudit.Text.parseInt?`
    * `SqlAudit.Text.parseShortInt?`
-/

------------------------------------------------------------
-- Digits
------------------------------------------------------------

namespace SqlAudit.Text

/-
  Blanks that may stand around an integer. The information
  separators may not.
-/
def isMargin (c : Char) : Bool :=
  isBlank c && !(0x1c ≤ c.toNat && c.toNat ≤ 0x1f)

/- The value of a digit in the base. -/
def digitIn?
    (base : Nat)
    (c : Char) : Option Nat :=
  let value :=
    if 'a' ≤ c && c ≤ 'z' then some (c.toNat - 'a'.toNat + 10)
    else if 'A' ≤ c && c ≤ 'Z' then
      some (c.toNat - 'A'.toNat + 10)
    else digitValue? c
  value.filter (· < base)

/-
  The number that digits stand for, with single underscores
  between them. The flag says that a digit was read last.
-/
def digitsFrom?
    (base : Nat) :
    (value : Nat) → (afterDigit : Bool) → List Char → Option Nat
| value, afterDigit, [] => if afterDigit then some value else none
| value, afterDigit, c :: rest =>
    if c == '_' then
      if afterDigit then digitsFrom? base value false rest
      else none
    else
      match digitIn? base c with
      | some d => digitsFrom? base (value * base + d) true rest
      | none => none

/- The letter is the mark of the base. -/
def isMark
    (base : Nat)
    (c : Char) : Bool :=
  (base == 16 && (c == 'x' || c == 'X')) ||
    (base == 2 && (c == 'b' || c == 'B'))

/-
  Digits without the mark of the base before them. The zero
  of a mark may be that of any script.
-/
def dropMark
    (base : Nat) :
    List Char → List Char
| zero :: c :: rest =>
    if digitValue? zero == some 0 && isMark base c then
      match rest with
      | '_' :: rest => rest
      | rest => rest
    else
      zero :: c :: rest
| s => s

/- The integer that a text stands for in the base. -/
def parseInt?
    (base : Nat)
    (s : List Char) : Option Int :=
  let number := fun s => digitsFrom? base 0 false (dropMark base s)
  match trimming isMargin s with
  | '-' :: rest => (number rest).map fun n => -(n : Int)
  | '+' :: rest => (number rest).map fun n => (n : Int)
  | s => (number s).map fun n => (n : Int)

/- The most digits that a short number may have. -/
def digitLimit : Nat := 4300

/- The decimal integer that a text of bounded length is. -/
def parseShortInt? (s : List Char) : Option Int :=
  let digits := (s.filter isDecimalDigit).length
  if digits ≤ digitLimit then parseInt? 10 s else none

end SqlAudit.Text
