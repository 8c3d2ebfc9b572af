import SqlAudit.Dialect.Basic
import SqlAudit.Text.Blank
import SqlAudit.Text.Letter

/-
  Reading numbers.

  A number has digits, at most one point, and an exponent
  that may have a sign. Digits and signs can follow an
  exponent in turn, so that `1e5+3` is one token.

  Key definitions include:
    * `SqlAudit.Dialect.readNumber`
-/

------------------------------------------------------------
-- Numbers
------------------------------------------------------------

namespace SqlAudit.Dialect

/- The digits that numbers are made of. -/
def isFigure (c : Char) : Bool :=
  '0' ≤ c && c ≤ '9'

/- Where a number is with its exponent. -/
inductive Exponent where
| absent
| begun
| signed
  deriving Repr, DecidableEq

/- The character goes on a word. -/
def inWord
    (d : Dialect)
    (c : Char) : Bool :=
  !Text.isBlank c && !d.isSingle c

/-
  The text after a number of which `last` has been read.
  After the mark of a parameter a number has no point.
-/
def numberEnd
    (d : Dialect)
    (afterMark : Bool) :
    (point : Bool) → Exponent → (last : Char) →
      List Char → List Char
| _, _, _, [] => []
| point, exponent, last, c :: rest =>
    let beforeFigure := rest.head?.any isFigure
    if isFigure c then
      numberEnd d afterMark point exponent c rest
    else if c == '.' && !point then
      if afterMark then c :: rest
      else numberEnd d afterMark true exponent c rest
    else if (c == '-' || c == '+') && exponent == .begun then
      if beforeFigure then
        numberEnd d afterMark point .signed c rest
      else c :: rest
    else if (c == 'e' || c == 'E') && exponent == .absent &&
        !(d.groupsDigits && rest.head? == some '_') then
      numberEnd d afterMark point .begun c rest
    else if c == '_' && d.groupsDigits && isFigure last &&
        beforeFigure then
      numberEnd d afterMark point exponent c rest
    else if d.namesWithDigits && Text.startsName c then
      (c :: rest).dropWhile d.inWord
    else
      c :: rest

/- A number in base 2 or 16 may follow its mark. -/
def hasBase
    (d : Dialect)
    (c : Char) : Bool :=
  (d.hasBinary && (c == 'b' || c == 'B')) ||
    (d.hasHexadecimal && (c == 'x' || c == 'X'))

/- The text after a number that the text begins with. -/
def readNumber
    (d : Dialect)
    (afterMark : Bool) :
    List Char → List Char
| [] => []
| '0' :: c :: rest =>
    if d.hasBase c then rest.dropWhile d.inWord
    else if c == 'x' || c == 'X' then c :: rest
    else numberEnd d afterMark false .absent '0' (c :: rest)
| c :: rest => numberEnd d afterMark false .absent c rest

end SqlAudit.Dialect
