import SqlAudit.Template.Error
import SqlAudit.Text.Letter

/-
  How a text is laid out in a field of a template: padded to
  a width on one side or both, and cut to a length.

  A layout is written as a padding character, an alignment
  mark, the width, a point with the greatest length, and a
  type letter, each of them optional. The marks that only
  numbers have are read too, and refused.

  Key definitions include:
    * `SqlAudit.Template.Layout`
    * `SqlAudit.Template.Layout.parse`
    * `SqlAudit.Template.Layout.apply`
-/

------------------------------------------------------------
-- Layouts
------------------------------------------------------------

namespace SqlAudit

namespace Template

/- Which side of a field a text is put on. -/
inductive Align where
| left
| right
| middle
| signAware
  deriving Repr, DecidableEq

/- The padding, the width and the greatest length. -/
structure Layout where
  padding : Char
  align : Align
  width : Option Nat
  precision : Option Nat
  deriving Repr, DecidableEq

/- The alignment that a mark stands for. -/
def align? : Char → Option Align
| '<' => some .left
| '>' => some .right
| '^' => some .middle
| '=' => some .signAware
| _ => none

/- The numbers that a field or a layout can hold. -/
def greatestNumber : Nat := 9223372036854775807

/- The widths that there is room for. -/
def greatestWidth : Nat := Nat.pow 2 40

/- A number's digits, if there are any, and what follows. -/
def number?
    (s : List Char) :
    Except Error (Option Nat × List Char) :=
  let ds := s.takeWhile Text.isDecimalDigit
  let n := ds.foldl
    (fun n c => n * 10 + (Text.digitValue? c).getD 0) 0
  if ds.isEmpty then
    .ok (none, s)
  else if greatestNumber < n then
    .error .numberTooLong
  else
    .ok (some n, s.dropWhile Text.isDecimalDigit)

end Template

end SqlAudit

------------------------------------------------------------
-- Reading A Layout
------------------------------------------------------------

namespace SqlAudit

namespace Template

namespace Layout

/- The padding and the alignment at the start of a layout. -/
def alignment :
    List Char → Option Char × Option Align × List Char
| a :: b :: rest =>
    match align? b, align? a with
    | some align, _ => (some a, some align, rest)
    | none, some align => (none, some align, b :: rest)
    | none, none => (none, none, a :: b :: rest)
| [a] =>
    match align? a with
    | some align => (none, some align, [])
    | none => (none, none, [a])
| [] => (none, none, [])

/- A mark at the start of a text, and what follows it. -/
def mark?
    (wanted : Char → Bool) :
    List Char → Option Char × List Char
| c :: rest =>
    if wanted c then (some c, rest) else (none, c :: rest)
| [] => (none, [])

/- The mark between groups of digits. -/
def grouping
    (s : List Char) :
    Except Error (Option Char × List Char) := do
  let (comma, s) := mark? (· == ',') s
  let (line, s) := mark? (· == '_') s
  if comma.isSome && line.isSome then
    .error .groupedTwice
  if line.isSome && s.head? == some ',' then
    .error .groupedTwice
  return (comma.or line, s)

/- The greatest length after a point. -/
def greatestLength
    (s : List Char) :
    Except Error (Option Nat × List Char) := do
  match s with
  | '.' :: rest =>
      let (n, rest) ← number? rest
      if n.isNone then
        .error .missingPrecision
      return (n, rest)
  | _ => return (none, s)

/- The type letters whose digits the mark can group. -/
def groups
    (mark kind : Char) : Bool :=
  "defgEG%F".toList.contains kind ||
    (mark == '_' && "boxX".toList.contains kind)

/- The layout that a text stands for. -/
def parse (text : List Char) : Except Error Layout := do
  let (fill, align, s) := alignment text
  let (sign, s) := mark? (fun c => "+- ".toList.contains c) s
  let (zeroSign, s) := mark? (· == 'z') s
  let (alternate, s) := mark? (· == '#') s
  let (zero, s) :=
    if fill.isSome then (none, s) else mark? (· == '0') s
  let (width, s) ← number? s
  let (group, s) ← grouping s
  let (precision, s) ← greatestLength s
  let kind ←
    match s with
    | [] => pure 's'
    | [c] => pure c
    | _ => .error (.longLayout text)
  if let some mark := group then
    if !groups mark kind then
      .error (.groupedDigits mark kind)
  if kind != 's' then
    .error (.unknownLayout kind)
  if let some c := sign then
    .error (if c == ' ' then .spaceInLayout
      else .signInLayout)
  if zeroSign.isSome then
    .error .zeroSignInLayout
  if alternate.isSome then
    .error .alternateLayout
  if align == some .signAware then
    .error .signAwareLayout
  if width.any (greatestWidth < ·) then
    .error .noRoom
  return {
    padding := (fill.or zero).getD ' '
    align := align.getD .left
    width := width
    precision := precision }

end Layout

end Template

end SqlAudit

------------------------------------------------------------
-- Laying Out A Text
------------------------------------------------------------

namespace SqlAudit

namespace Template

namespace Layout

/- The text cut and padded as the layout says. -/
def apply
    (layout : Layout)
    (s : List Char) : List Char :=
  let s :=
    match layout.precision with
    | some n => s.take n
    | none => s
  let room := layout.width.getD 0 - s.length
  let pad := fun n => List.replicate n layout.padding
  match layout.align with
  | .right => pad room ++ s
  | .middle =>
      pad (room / 2) ++ s ++ pad (room - room / 2)
  | .left | .signAware => s ++ pad room

end Layout

end Template

end SqlAudit
