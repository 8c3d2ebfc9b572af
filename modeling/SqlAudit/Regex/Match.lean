import SqlAudit.Regex.Search

/-
  Matches of regular expressions in a text.

  Key definitions include:
    * `SqlAudit.Regex.occursIn`
    * `SqlAudit.Regex.findAll`
    * `SqlAudit.Regex.count`
-/

------------------------------------------------------------
-- Searching And Counting
------------------------------------------------------------

namespace SqlAudit

namespace Regex

/- The expression matches somewhere in the text. -/
def occursIn
    (r : Regex)
    (text : List Char) : Bool :=
  (Cursor.start text).onward.any fun c =>
    (r.search Cursor some c).isSome

/- One match: where it begins and where it ends. -/
structure Span where
  first : Cursor
  last : Cursor
  deriving Repr, DecidableEq

/- The match is empty. -/
def Span.isEmpty (m : Span) : Bool :=
  m.last.left == m.first.left

/-
  The match that begins at the place. If it has to move, the
  best end farther on counts. What groups hold is forgotten
  after it.
-/
def matchAt?
    (r : Regex)
    (mustMove : Bool)
    (c : Cursor) : Option Span :=
  r.search Span
    (fun e =>
      let m := Span.mk c e.forget
      if mustMove && m.isEmpty then none else some m)
    c

/-
  The matches from a place on, each beginning where the one
  before it ends or later. After an empty match, the next
  one at the same place has to move. A place is looked at
  twice at most, so `fuel` need not exceed twice the number
  of places.
-/
def matchesFrom
    (r : Regex) :
    (fuel : Nat) → (mustMove : Bool) → Cursor → List Span
| 0, _, _ => []
| fuel + 1, mustMove, c =>
    match r.matchAt? mustMove c with
    | some m => m :: matchesFrom r fuel m.isEmpty m.last
    | none =>
        match c.next? with
        | some (_, d) => matchesFrom r fuel false d
        | none => []

/- The matches in a text, left to right, none overlapping. -/
def findAll
    (r : Regex)
    (text : List Char) : List Span :=
  r.matchesFrom (2 * (text.length + 1)) false
    (Cursor.start text)

/- How often the expression matches in the text. -/
def count
    (r : Regex)
    (text : List Char) : Nat :=
  (r.findAll text).length

end Regex

end SqlAudit
