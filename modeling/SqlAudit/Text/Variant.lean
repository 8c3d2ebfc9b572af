import SqlAudit.Text.Lowercase

/-
  The variants of a letter: its small form, its capital and
  the few letters that share one of them.

  Key definitions include:
    * `SqlAudit.Text.small`
    * `SqlAudit.Text.variants`
-/

------------------------------------------------------------
-- Small Forms
------------------------------------------------------------

namespace SqlAudit.Text

/- The small form of a character on its own. -/
def small (c : Char) : Char :=
  (lowerChar c).headD c

/- Small letters that share a capital. -/
def sharedCapitals : List (List Nat) :=
  [ [0x0069, 0x0131], [0x0073, 0x017f], [0x00b5, 0x03bc],
    [0x0345, 0x03b9, 0x1fbe], [0x0390, 0x1fd3],
    [0x03b0, 0x1fe3], [0x03b2, 0x03d0], [0x03b5, 0x03f5],
    [0x03b8, 0x03d1], [0x03ba, 0x03f0], [0x03c0, 0x03d6],
    [0x03c1, 0x03f1], [0x03c2, 0x03c3], [0x03c6, 0x03d5],
    [0x0432, 0x1c80], [0x0434, 0x1c81], [0x043e, 0x1c82],
    [0x0441, 0x1c83], [0x0442, 0x1c84, 0x1c85],
    [0x044a, 0x1c86], [0x0463, 0x1c87], [0x1c88, 0xa64b],
    [0x1e61, 0x1e9b], [0xfb05, 0xfb06] ]

/- The character and the small letters with its capital. -/
def withSharedCapital (c : Char) : List Char :=
  match sharedCapitals.find? (·.contains c.toNat) with
  | some letters => letters.map Char.ofNat
  | none => [c]

end SqlAudit.Text

------------------------------------------------------------
-- Variants
------------------------------------------------------------

namespace SqlAudit.Text

/- The capital of a small letter in a run of capitals. -/
def CaseRun.capitalOf?
    (run : CaseRun)
    (c : Char) : Option Char :=
  let n := (c.toNat : Int) - run.offset
  if 0 ≤ n && run.has n.toNat then
    some (Char.ofNat n.toNat)
  else
    none

/- The characters whose small form is the given one. -/
def capitalForms (c : Char) : List Char :=
  let apart :=
    if c == 'σ' then ['Σ']
    else if c == 'i' then ['I', 'İ']
    else if c.toUpper != c then [c.toUpper]
    else []
  apart ++ caseRuns.filterMap fun run => run.capitalOf? c

/- The character and all other forms of the same letter. -/
def variants (c : Char) : List Char :=
  (withSharedCapital (small c)).flatMap fun d =>
    d :: capitalForms d

end SqlAudit.Text
