import SqlAudit.Text.Cut

/-
  What cutting a text at a mark leaves.

  Key theorems include:
    * `SqlAudit.Text.intercalate_cutAt`
    * `SqlAudit.Text.flatten_cutAt`
-/

------------------------------------------------------------
-- Parts Between Marks
------------------------------------------------------------

namespace SqlAudit.Text

theorem cutAt_ne_nil
    (mark : Char)
    (s : List Char) :
    cutAt mark s ≠ [] := by
  cases s with
  | nil => exact List.cons_ne_nil _ _
  | cons c s =>
      unfold cutAt
      split
      · exact List.cons_ne_nil _ _
      · split
        · exact List.cons_ne_nil _ _
        · exact List.cons_ne_nil _ _

/- The parts with the marks between them are the text. -/
theorem intercalate_cutAt
    (mark : Char)
    (s : List Char) :
    [mark].intercalate (cutAt mark s) = s := by
  induction s with
  | nil => rfl
  | cons c s ih =>
      rcases List.exists_cons_of_ne_nil
        (cutAt_ne_nil mark s) with ⟨part, parts, hParts⟩
      rw [hParts] at ih
      by_cases hMark : c = mark
      · rw [cutAt, if_pos (by simpa using hMark), hParts,
          List.intercalate_cons_cons, ih, hMark]
        rfl
      · rw [cutAt, if_neg (by simpa using hMark), hParts]
        cases parts with
        | nil => simpa using ih
        | cons next parts =>
            rw [List.intercalate_cons_cons] at ih ⊢
            rw [← ih]
            rfl

/- The parts alone are the text without the marks. -/
theorem flatten_cutAt
    (mark : Char)
    (s : List Char) :
    (cutAt mark s).flatten = s.filter (· != mark) := by
  induction s with
  | nil => rfl
  | cons c s ih =>
      rcases List.exists_cons_of_ne_nil
        (cutAt_ne_nil mark s) with ⟨part, parts, hParts⟩
      rw [hParts] at ih
      by_cases hMark : c = mark
      · rw [cutAt, if_pos (by simpa using hMark), hParts]
        simpa [hMark] using ih
      · rw [cutAt, if_neg (by simpa using hMark), hParts]
        simpa [hMark] using ih

/- Cutting a text loses nothing but the marks. -/
theorem mem_cutAt_iff
    {mark c : Char}
    (hMark : c ≠ mark)
    {s : List Char} :
    (∃ part ∈ cutAt mark s, c ∈ part) ↔ c ∈ s := by
  rw [← List.mem_flatten, flatten_cutAt, List.mem_filter]
  simp [hMark]

theorem cutAt_of_not_mem
    {mark : Char}
    {s : List Char}
    (hNot : mark ∉ s) :
    cutAt mark s = [s] := by
  induction s with
  | nil => rfl
  | cons c s ih =>
      rw [List.mem_cons, not_or] at hNot
      have hMark : (c == mark) = false := by
        simpa using Ne.symm hNot.1
      rw [cutAt, hMark, ih hNot.2]
      rfl

end SqlAudit.Text
