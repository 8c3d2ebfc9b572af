import Mathlib.Data.List.Infix
import SqlAudit.Text.Occurrence

/-
  Occurrences of a text are its contiguous pieces, and there
  is one way to divide a text at the first of them.

  Key definitions include:
    * `SqlAudit.Text.FirstAt`

  Key theorems include:
    * `SqlAudit.Text.occurs_iff_isInfix`
    * `SqlAudit.Text.FirstAt.unique`
    * `SqlAudit.Text.after?_eq_some_iff`
-/

------------------------------------------------------------
-- Occurrences And Pieces
------------------------------------------------------------

namespace SqlAudit.Text

/- A text occurs in another if it is a piece of it. -/
theorem occurs_iff_isInfix
    {w text : List Char} :
    occurs w text = true ↔ w <:+: text := by
  induction text with
  | nil => simp [occurs]
  | cons c rest ih =>
      simp [occurs, List.infix_cons_iff, ih]

end SqlAudit.Text

------------------------------------------------------------
-- The First Occurrence
------------------------------------------------------------

namespace SqlAudit.Text

/- The text is divided where `w` occurs for the first time. -/
structure FirstAt
    (w text before rest : List Char) : Prop where
  split : text = before ++ w ++ rest
  first : ∀ i < before.length, ¬ w <+: text.drop i

namespace FirstAt

variable {w text before rest : List Char}

theorem nil
    (w rest : List Char) :
    FirstAt w (w ++ rest) [] rest where
  split := rfl
  first := by simp

theorem cons
    {c : Char}
    (hFirst : FirstAt w text before rest)
    (hNot : ¬ w <+: c :: text) :
    FirstAt w (c :: text) (c :: before) rest where
  split := by rw [hFirst.split]; rfl
  first := by
    intro i hi
    cases i with
    | zero => exact hNot
    | succ i => exact hFirst.first i (by simpa using hi)

theorem isPrefix_drop
    (hFirst : FirstAt w text before rest) :
    w <+: text.drop before.length := by
  rw [hFirst.split, List.append_assoc, List.drop_left]
  exact List.prefix_append _ _

/- A text is divided in one way only. -/
theorem unique
    {before' rest' : List Char}
    (hFirst : FirstAt w text before rest)
    (hFirst' : FirstAt w text before' rest') :
    before = before' ∧ rest = rest' := by
  have hLength : before.length = before'.length := by
    apply Nat.le_antisymm
    · by_contra hLt
      exact hFirst.first _ (by omega) hFirst'.isPrefix_drop
    · by_contra hLt
      exact hFirst'.first _ (by omega) hFirst.isPrefix_drop
  have hSplit := hFirst.split.symm.trans hFirst'.split
  rw [List.append_assoc, List.append_assoc] at hSplit
  rcases List.append_inj hSplit hLength with ⟨hBefore, hRest⟩
  exact ⟨hBefore, List.append_cancel_left hRest⟩

end FirstAt

/- There is nothing after a text that does not occur. -/
theorem after?_eq_none_iff
    {w text : List Char} :
    after? w text = none ↔ ¬ w <:+: text := by
  induction text with
  | nil => simp [after?]
  | cons c text ih =>
      by_cases hPrefix : w <+: c :: text
      · simp [after?, hPrefix, hPrefix.isInfix]
      · simp [after?, hPrefix, List.infix_cons_iff, ih]

theorem exists_firstAt_of_after?
    {w text rest : List Char}
    (hAfter : after? w text = some rest) :
    ∃ before, FirstAt w text before rest := by
  induction text with
  | nil =>
      simp only [after?, Option.ite_none_right_eq_some,
        Option.some.injEq, List.isEmpty_iff] at hAfter
      rcases hAfter with ⟨rfl, rfl⟩
      exact ⟨[], .nil [] []⟩
  | cons c text ih =>
      by_cases hPrefix : w <+: c :: text
      · rcases hPrefix with ⟨tail, hTail⟩
        have hRest : tail = rest := by
          simpa [after?, ← hTail] using hAfter
        rw [← hTail, hRest]
        exact ⟨[], .nil w rest⟩
      · have hRest : after? w text = some rest := by
          simpa [after?, hPrefix] using hAfter
        rcases ih hRest with ⟨before, hFirst⟩
        exact ⟨c :: before, hFirst.cons hPrefix⟩

/- What is found is what follows the first occurrence. -/
theorem after?_eq_some_iff
    {w text rest : List Char} :
    after? w text = some rest ↔
      ∃ before, FirstAt w text before rest := by
  constructor
  · exact exists_firstAt_of_after?
  · rintro ⟨before, hFirst⟩
    cases hAfter : after? w text with
    | none =>
        have hOccurs : w <:+: text :=
          ⟨before, rest, hFirst.split.symm⟩
        exact absurd hOccurs (after?_eq_none_iff.mp hAfter)
    | some rest' =>
        rcases exists_firstAt_of_after? hAfter with
          ⟨before', hFirst'⟩
        rw [(hFirst'.unique hFirst).2]

end SqlAudit.Text
