import SqlAudit.Regex.Cursor

/-
  The meaning of regular expressions.

  From a place, an expression can end at several places. They
  are listed in the order in which they are preferred, so the
  match is the first one, and an expression after another
  one tries its ends in that order.

  Key definitions include:
    * `SqlAudit.Regex.repetition`
    * `SqlAudit.Regex.ends`
-/

------------------------------------------------------------
-- Repetition
------------------------------------------------------------

namespace SqlAudit

namespace Regex

/- The ends of exactly `n` rounds. -/
def rounds
    (body : Cursor → List Cursor) :
    Nat → Cursor → List Cursor
| 0, c => [c]
| n + 1, c => (body c).flatMap (rounds body n)

/-
  The ends of at most `n` rounds, more rounds first. A round
  that does not move on is the last one.
-/
def mostRounds
    (body : Cursor → List Cursor) :
    Nat → Cursor → List Cursor
| 0, c => [c]
| n + 1, c =>
    (body c).flatMap (fun e =>
      if e.left == c.left then [e]
      else mostRounds body n e) ++ [c]

/-
  The ends of at most `n` rounds, fewer rounds first. A
  round that does not move on is the last one.
-/
def fewestRounds
    (body : Cursor → List Cursor) :
    Nat → Cursor → List Cursor
| 0, c => [c]
| n + 1, c =>
    c :: (body c).flatMap (fun e =>
      if e.left == c.left then [e]
      else fewestRounds body n e)

/-
  How many rounds may follow the required ones. Without a
  limit, no more rounds than there are characters move on.
-/
def extraRounds
    (least : Nat)
    (most : Option Nat)
    (c : Cursor) : Nat :=
  match most with
  | some n => n - least
  | none => c.left + 1

/- The ends of a repetition of the body. -/
def repetition
    (body : Cursor → List Cursor)
    (least : Nat)
    (most : Option Nat) :
    Greed → Cursor → List Cursor
| .greedy, c =>
    (rounds body least c).flatMap fun e =>
      mostRounds body (extraRounds least most e) e
| .frugal, c =>
    (rounds body least c).flatMap fun e =>
      fewestRounds body (extraRounds least most e) e
| .possessive, c =>
    let once := fun c => (body c).take 1
    ((rounds once least c).flatMap fun e =>
      mostRounds once (extraRounds least most e) e).take 1

end Regex

end SqlAudit

------------------------------------------------------------
-- Ends Of An Expression
------------------------------------------------------------

namespace SqlAudit

namespace Regex

/- Where a look begins that is made from a place. -/
def lookFrom?
    (c : Cursor) : Side → Option Cursor
| .ahead => some c
| .behind width => c.back? width

/-
  The end of a look, given what it found: the place itself,
  if that is what was wanted.
-/
def lookEnd?
    (wanted : Bool)
    (c : Cursor) : Option Cursor → Option Cursor
| some e => if wanted then some (c.holdAs e) else none
| none => if wanted then none else some c

/- The places where the expression can end, best first. -/
def ends : Regex → Cursor → List Cursor
| .empty, c => [c]
| .char cls, c =>
    match c.next? with
    | some (x, d) => if cls.has x then [d] else []
    | none => []
| .anchor a, c => if a.holds c then [c] else []
| .seq r s, c => (r.ends c).flatMap s.ends
| .alt r s, c => r.ends c ++ s.ends c
| .repeated r least most greed, c =>
    repetition r.ends least most greed c
| .atomic r, c => (r.ends c).take 1
| .group n r, c => (r.ends c).map fun e => e.hold n c
| .echo n letters, c =>
    ((c.held? n).bind fun t => Cursor.after? letters t c).toList
| .look wanted side r, c =>
    let found := (lookFrom? c side).bind fun d =>
      (r.ends d).head?
    (lookEnd? wanted c found).toList
| .given n r s, c =>
    if (c.held? n).isSome then r.ends c else s.ends c

end Regex

end SqlAudit
