import SqlAudit.Proofs.Regex.Language

/-
  The matches that a scan of a text enumerates.

  A scan goes from place to place. Where there is a match, it
  takes the best one and goes on at its end, and after an
  empty match the next one at that place has to move. Where
  there is none, it goes on at the next place. The rules of a
  scan determine its matches, and they are the ones that are
  found. There is none exactly if nothing occurs.

  Key definitions include:
    * `SqlAudit.Regex.bestEnd?`
    * `SqlAudit.Regex.Enumerates`

  Key theorems include:
    * `SqlAudit.Regex.Enumerates.unique`
    * `SqlAudit.Regex.enumerates_findAll`
    * `SqlAudit.Regex.occursIn_iff_count_ne_zero`
-/

------------------------------------------------------------
-- Scans
------------------------------------------------------------

namespace SqlAudit

namespace Regex

/-
  The best end of a match from a place, or if the match has
  to move, the best one that is farther on.
-/
def bestEnd?
    (r : Regex)
    (mustMove : Bool)
    (c : Cursor) : Option Cursor :=
  (r.ends c).find? fun e => !(mustMove && e.left == c.left)

/- The matches of a scan from a place to the end. -/
inductive Enumerates (r : Regex) :
    Bool → Cursor → List Span → Prop where
| found
    {mustMove : Bool}
    {c e : Cursor}
    {spans : List Span}
    (hBest : r.bestEnd? mustMove c = some e)
    (hRest :
      Enumerates r (e.left == c.left) e.forget spans) :
    Enumerates r mustMove c (⟨c, e.forget⟩ :: spans)
| passed
    {mustMove : Bool}
    {c d : Cursor}
    {x : Char}
    {spans : List Span}
    (hNone : r.bestEnd? mustMove c = none)
    (hNext : c.next? = some (x, d))
    (hRest : Enumerates r false d spans) :
    Enumerates r mustMove c spans
| ended
    {mustMove : Bool}
    {c : Cursor}
    (hNone : r.bestEnd? mustMove c = none)
    (hEnd : c.next? = none) :
    Enumerates r mustMove c []

/- The rules of a scan leave no choice. -/
theorem Enumerates.unique
    {r : Regex}
    {mustMove : Bool}
    {c : Cursor}
    {spans others : List Span}
    (hSpans : r.Enumerates mustMove c spans)
    (hOthers : r.Enumerates mustMove c others) :
    spans = others := by
  induction hSpans generalizing others with
  | found hBest _ ih =>
      cases hOthers with
      | found hBest' hRest' =>
          rw [hBest] at hBest'
          cases hBest'
          rw [ih hRest']
      | passed hNone' _ _ =>
          rw [hBest] at hNone'
          cases hNone'
      | ended hNone' _ =>
          rw [hBest] at hNone'
          cases hNone'
  | passed hNone hNext _ ih =>
      cases hOthers with
      | found hBest' _ =>
          rw [hNone] at hBest'
          cases hBest'
      | passed _ hNext' hRest' =>
          rw [hNext] at hNext'
          cases hNext'
          exact ih hRest'
      | ended _ hEnd' =>
          rw [hNext] at hEnd'
          cases hEnd'
  | ended hNone hEnd =>
      cases hOthers with
      | found hBest' _ =>
          rw [hNone] at hBest'
          cases hBest'
      | passed _ hNext' _ =>
          rw [hEnd] at hNext'
          cases hNext'
      | ended _ _ => rfl

end Regex

end SqlAudit

------------------------------------------------------------
-- The Matches That Are Found
------------------------------------------------------------

namespace SqlAudit

namespace Regex

variable {r : Regex}

/- The match at a place goes to the best end. -/
theorem matchAt?_eq
    (mustMove : Bool)
    (c : Cursor) :
    r.matchAt? mustMove c =
      (r.bestEnd? mustMove c).map fun e =>
        ⟨c, e.forget⟩ := by
  rw [matchAt?, bestEnd?, search_eq r Span]
  induction r.ends c with
  | nil => rfl
  | cons e es ih =>
      have hEmpty :
          (Span.mk c e.forget).isEmpty =
            (e.left == c.left) := rfl
      simp only [List.findSome?_cons, List.find?_cons, hEmpty]
      cases mustMove && e.left == c.left with
      | true => exact ih
      | false => rfl

/- A best end is no farther from the end of the text. -/
theorem left_of_bestEnd?
    {mustMove : Bool}
    {c e : Cursor}
    (hBest : r.bestEnd? mustMove c = some e) :
    e.left ≤ c.left ∧ (mustMove = true → e.left ≠ c.left) := by
  constructor
  · rcases r.ends_within c e (List.mem_of_find?_eq_some hBest)
      with ⟨w, _, hReads⟩
    have hLeft := hReads.left_eq
    omega
  · intro hMust
    simpa [hMust] using List.find?_some hBest

/-
  With fuel for two looks at each place that is left, all
  matches are found. A look that must move is the second one
  at its place, so one look fewer is left there.
-/
theorem enumerates_matchesFrom
    {fuel : Nat}
    {mustMove : Bool}
    {c : Cursor}
    (hFuel :
      2 * c.left + (if mustMove then 1 else 2) ≤ fuel) :
    r.Enumerates mustMove c
      (r.matchesFrom fuel mustMove c) := by
  induction fuel generalizing mustMove c with
  | zero => cases mustMove <;> simp at hFuel
  | succ fuel ih =>
      rw [matchesFrom, matchAt?_eq]
      cases hBest : r.bestEnd? mustMove c with
      | some e =>
          rcases left_of_bestEnd? hBest with ⟨hLe, hMoves⟩
          apply Enumerates.found hBest
          apply ih
          change
            2 * e.left +
                (if (e.left == c.left) = true then 1 else 2) ≤
              fuel
          by_cases hStays : e.left = c.left
          · have hFree : mustMove = false := by
              cases mustMove with
              | false => rfl
              | true => exact absurd hStays (hMoves rfl)
            simp only [hFree, Bool.false_eq_true,
              if_false] at hFuel
            simp only [hStays, beq_self_eq_true, if_true]
            omega
          · simp only [beq_false_of_ne hStays,
              Bool.false_eq_true, if_false]
            split at hFuel <;> omega
      | none =>
          cases hNext : c.next? with
          | none => exact .ended hBest hNext
          | some next =>
              have hLeft :=
                (Cursor.reads_of_next? hNext).left_eq
              apply Enumerates.passed hBest hNext
              apply ih
              simp only [List.length_singleton] at hLeft
              simp only [Bool.false_eq_true, if_false]
              split at hFuel <;> omega

/- What is found in a text is what a scan enumerates. -/
theorem enumerates_findAll
    (r : Regex)
    (text : List Char) :
    r.Enumerates false (.start text) (r.findAll text) := by
  apply enumerates_matchesFrom
  simp only [Cursor.start, Bool.false_eq_true, if_false]
  omega

end Regex

end SqlAudit

------------------------------------------------------------
-- Finding Nothing
------------------------------------------------------------

namespace SqlAudit

namespace Cursor

variable {c d : Cursor}

theorem held_of_next?
    {x : Char}
    (hNext : c.next? = some (x, d)) :
    d.held = c.held := by
  rcases c with ⟨before, rest, left, hLeft, held⟩
  cases rest with
  | nil => cases hNext
  | cons y rest => cases hNext; rfl

theorem onward_of_next?
    {x : Char}
    (hHeld : c.held = [])
    (hNext : c.next? = some (x, d)) :
    c.onward = c :: d.onward := by
  rcases c with ⟨before, rest, left, hLeft, held⟩
  cases hHeld
  cases rest with
  | nil => cases hNext
  | cons y rest => cases hNext; rfl

theorem onward_of_end
    (hHeld : c.held = [])
    (hEnd : c.next? = none) :
    c.onward = [c] := by
  rcases c with ⟨before, rest, left, hLeft, held⟩
  cases hHeld
  cases rest with
  | nil => rfl
  | cons y rest => cases hEnd

theorem mem_onward
    (hHeld : c.held = []) :
    c ∈ c.onward := by
  cases hNext : c.next? with
  | none => simp [onward_of_end hHeld hNext]
  | some next => simp [onward_of_next? hHeld hNext]

end Cursor

namespace Regex

variable {r : Regex}

theorem bestEnd?_free_eq_none_iff
    {c : Cursor} :
    r.bestEnd? false c = none ↔ r.ends c = [] := by
  simp [bestEnd?, List.eq_nil_iff_forall_not_mem]

/-
  A scan that is free to stay enumerates nothing exactly if
  there is no end from any place on its way.
-/
theorem Enumerates.eq_nil_iff
    {c : Cursor}
    {spans : List Span}
    (hSpans : r.Enumerates false c spans)
    (hHeld : c.held = []) :
    spans = [] ↔ ∀ d ∈ c.onward, r.ends d = [] := by
  generalize hFree : false = mustMove at hSpans
  induction hSpans with
  | found hBest _ _ =>
      subst hFree
      simp only [reduceCtorEq, false_iff]
      intro hNone
      have hHere := hNone _ (Cursor.mem_onward hHeld)
      rw [bestEnd?_free_eq_none_iff.mpr hHere] at hBest
      cases hBest
  | passed hNone hNext _ ih =>
      subst hFree
      have hThere :=
        ih ((Cursor.held_of_next? hNext).trans hHeld) rfl
      rw [hThere, Cursor.onward_of_next? hHeld hNext,
        List.forall_mem_cons]
      exact (and_iff_right
        (bestEnd?_free_eq_none_iff.mp hNone)).symm
  | ended hNone hEnd =>
      subst hFree
      simp [Cursor.onward_of_end hHeld hEnd,
        bestEnd?_free_eq_none_iff.mp hNone]

/- An expression occurs exactly if it is found. -/
theorem occursIn_iff_count_ne_zero
    {text : List Char} :
    r.occursIn text = true ↔ r.count text ≠ 0 := by
  have hNone :=
    (enumerates_findAll r text).eq_nil_iff rfl
  rw [occursIn_iff_exists_ends, count, Ne,
    List.length_eq_zero_iff, hNone]
  simp

end Regex

end SqlAudit
