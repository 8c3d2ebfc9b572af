/-
  The shortest decimal that reads back as a given binary
  number.

  A positive binary number `m * 2^q` is the nearest one to
  every real number in an interval around it, whose ends
  belong to it when `m` is even. The shortest decimal is the
  one with the fewest digits in that interval, and the
  nearest to the number among those.

  Key definitions include:
    * `SqlAudit.Decimal.Digits`
    * `SqlAudit.Decimal.shortest`
-/

------------------------------------------------------------
-- Decimals
------------------------------------------------------------

namespace SqlAudit.Decimal

/-
  The decimal `0.d₁d₂… * 10^point`, whose digits begin and
  end with a digit other than zero.
-/
structure Digits where
  digits : List Char
  point : Int
  deriving Repr, DecidableEq

/- The decimal `n * 10^e`, without the zeros at its end. -/
def Digits.ofScaled
    (n : Nat)
    (e : Int) : Digits :=
  let all := Nat.toDigits 10 n
  let kept := (all.reverse.dropWhile (· == '0')).reverse
  ⟨kept, all.length + e⟩

end SqlAudit.Decimal

------------------------------------------------------------
-- The Interval Of A Binary Number
------------------------------------------------------------

namespace SqlAudit.Decimal

/-
  A number with the reals around it that it is nearest to,
  as numerators over one denominator.
-/
structure Window where
  low : Nat
  value : Nat
  high : Nat
  den : Nat
  closed : Bool
  deriving Repr, DecidableEq

/-
  The window of `m * 2^q`. The number below a power of two
  is nearer than the number above it, except at the least
  exponent; `narrow` tells such a power.
-/
def Window.ofBinary
    (m : Nat)
    (q : Int)
    (narrow : Bool) : Window :=
  let up := Nat.pow 2 (q - 2).toNat
  let below := if narrow then 1 else 2
  { low := (4 * m - below) * up
    value := 4 * m * up
    high := (4 * m + 2) * up
    den := Nat.pow 2 (2 - q).toNat
    closed := m % 2 == 0 }

/- The real number `n / d` lies in the window. -/
def Window.has
    (w : Window)
    (n d : Nat) : Bool :=
  if w.closed then
    w.low * d ≤ n * w.den && n * w.den ≤ w.high * d
  else
    w.low * d < n * w.den && n * w.den < w.high * d

/- The exponent `e` with `10^e ≤ value < 10^(e + 1)`. -/
def Window.magnitude (w : Window) : Int :=
  if w.den ≤ w.value then
    ((Nat.toDigits 10 (w.value / w.den)).length : Int) - 1
  else
    let k := (Nat.toDigits 10 (w.den / w.value)).length
    if w.value * Nat.pow 10 (k - 1) == w.den then
      1 - (k : Int)
    else
      -(k : Int)

end SqlAudit.Decimal

------------------------------------------------------------
-- The Shortest Decimal
------------------------------------------------------------

namespace SqlAudit.Decimal

/-
  The decimal of the window whose last digit stands at
  `10^e`: the neighbour of the value on that grid, below or
  above, that lies in the window. Of two, the nearer counts,
  and of two equally near the even one.
-/
def onGrid
    (w : Window)
    (e : Int) : Option Nat :=
  let num := w.value * Nat.pow 10 (-e).toNat
  let den := w.den * Nat.pow 10 e.toNat
  let n := num / den
  let has := fun k =>
    w.has (k * Nat.pow 10 e.toNat) (Nat.pow 10 (-e).toNat)
  let twice := 2 * (num % den)
  let nearer :=
    if twice < den || (twice == den && n % 2 == 0) then n
    else n + 1
  match has n, has (n + 1) with
  | true, true => some nearer
  | true, false => some n
  | false, true => some (n + 1)
  | false, false => none

/-
  The decimal with the fewest digits in the window, from
  `count` digits up; `tries` more counts are looked at.
-/
def shortestFrom
    (w : Window)
    (count : Nat) :
    Nat → Digits
| 0 =>
    let e := w.magnitude - count + 1
    let num := w.value * Nat.pow 10 (-e).toNat
    let den := w.den * Nat.pow 10 e.toNat
    Digits.ofScaled (num / den) e
| tries + 1 =>
    let e := w.magnitude - count + 1
    match onGrid w e with
    | some n => Digits.ofScaled n e
    | none => shortestFrom w (count + 1) tries

/-
  The shortest decimal that reads back as `m * 2^q`.
  Seventeen digits always suffice.
-/
def shortest
    (m : Nat)
    (q : Int)
    (narrow : Bool) : Digits :=
  shortestFrom (Window.ofBinary m q narrow) 1 17

end SqlAudit.Decimal
