import SqlAudit.Decimal.Shortest

/-
  Binary numbers of 64 bits and their decimal text.

  A number is held by its bits, so that two numbers are
  equal when they are the same number, zeros of both signs
  apart. Its text has the fewest digits that read back. It
  is positional from 0.0001 up to 16 digits before the
  point, where an integer keeps one zero after the point;
  beyond, it has a signed exponent of two digits or more.

  Key definitions include:
    * `SqlAudit.Binary64`
    * `SqlAudit.Binary64.ofFloat`
    * `SqlAudit.Binary64.toInt?`
    * `SqlAudit.Binary64.render`
-/

------------------------------------------------------------
-- Numbers
------------------------------------------------------------

namespace SqlAudit

/- A binary number of 64 bits, by its bits. -/
structure Binary64 where
  bits : UInt64
  deriving Repr, DecidableEq

namespace Binary64

/- The bits of a machine number. -/
def ofFloat (x : Float) : Binary64 where
  bits := x.toBits

/- The number is negative, or the zero below zero. -/
def negative (x : Binary64) : Bool :=
  x.bits.toNat / Nat.pow 2 63 == 1

/- The eleven bits of the exponent. -/
def exponentField (x : Binary64) : Nat :=
  x.bits.toNat / Nat.pow 2 52 % Nat.pow 2 11

/- The 52 bits of the fraction. -/
def fractionField (x : Binary64) : Nat :=
  x.bits.toNat % Nat.pow 2 52

/- The integer `m` of the size `m * 2^q`. -/
def mantissa (x : Binary64) : Nat :=
  if x.exponentField == 0 then
    x.fractionField
  else
    Nat.pow 2 52 + x.fractionField

/- The exponent `q` of the size `m * 2^q`. -/
def exponent (x : Binary64) : Int :=
  if x.exponentField == 0 then
    -1074
  else
    (x.exponentField : Int) - 1075

/- The number is neither infinite nor undefined. -/
def isFinite (x : Binary64) : Bool :=
  x.exponentField != 2047

/- The number is zero, of either sign. -/
def isZero (x : Binary64) : Bool :=
  x.exponentField == 0 && x.fractionField == 0

/- The integer that the number is, if it is one. -/
def toInt? (x : Binary64) : Option Int :=
  let size :=
    if 0 ≤ x.exponent then
      some (x.mantissa * Nat.pow 2 x.exponent.toNat)
    else
      let d := Nat.pow 2 (-x.exponent).toNat
      if x.mantissa % d == 0 then some (x.mantissa / d)
      else none
  if x.isFinite then
    size.map fun n => if x.negative then -(n : Int) else n
  else
    none

end Binary64

end SqlAudit

------------------------------------------------------------
-- Decimal Text
------------------------------------------------------------

namespace SqlAudit

namespace Binary64

/- An exponent with its sign and two digits or more. -/
def renderExponent (e : Int) : List Char :=
  let digits := Nat.toDigits 10 e.natAbs
  let padded :=
    if digits.length < 2 then '0' :: digits else digits
  'e' :: (if e < 0 then '-' else '+') :: padded

/- One digit, a point if more follow, and the exponent. -/
def renderScientific (d : Decimal.Digits) : List Char :=
  let mantissa :=
    match d.digits with
    | first :: second :: rest =>
        first :: '.' :: second :: rest
    | digits => digits
  mantissa ++ renderExponent (d.point - 1)

/- The digits around a point in their true place. -/
def renderPositional (d : Decimal.Digits) : List Char :=
  let n := d.digits.length
  if d.point ≤ 0 then
    '0' :: '.' ::
      (List.replicate (-d.point).toNat '0' ++ d.digits)
  else if (n : Int) ≤ d.point then
    d.digits ++
      List.replicate (d.point - n).toNat '0' ++ ['.', '0']
  else
    d.digits.take d.point.toNat ++
      '.' :: d.digits.drop d.point.toNat

/- The sizes that are written with an exponent. -/
def isScientific (d : Decimal.Digits) : Bool :=
  d.point ≤ -4 || 16 < d.point

/- The text of a number's size. -/
def renderSize (x : Binary64) : List Char :=
  if !x.isFinite then
    if x.fractionField == 0 then "inf".toList
    else "nan".toList
  else if x.isZero then
    "0.0".toList
  else
    let narrow :=
      x.fractionField == 0 && 1 < x.exponentField
    let d := Decimal.shortest x.mantissa x.exponent narrow
    if isScientific d then renderScientific d
    else renderPositional d

/- The text of a number. -/
def render (x : Binary64) : List Char :=
  if x.negative then '-' :: x.renderSize else x.renderSize

end Binary64

end SqlAudit
