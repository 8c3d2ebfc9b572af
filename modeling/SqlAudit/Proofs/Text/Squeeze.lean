import SqlAudit.Proofs.Text.LetterCase

/-
  What is left of a text without its blanks and semicolons.

  The normal form of an ASCII text differs from the text in
  its blanks and in the case of its letters only.

  Key definitions include:
    * `SqlAudit.Text.IsAscii`
    * `SqlAudit.Text.squeeze`

  Key theorems include:
    * `SqlAudit.Text.lower_eq_map`
    * `SqlAudit.Text.squeeze_lower`
    * `SqlAudit.Text.squeeze_normalize`
-/

------------------------------------------------------------
-- Squeezed Text
------------------------------------------------------------

namespace SqlAudit.Text

/- The text without its blanks and semicolons. -/
def squeeze (s : List Char) : List Char :=
  s.filter fun c => !isBlank c && c != ';'

@[simp] theorem squeeze_nil : squeeze [] = [] := rfl

@[simp] theorem squeeze_append
    (s s' : List Char) :
    squeeze (s ++ s') = squeeze s ++ squeeze s' := by
  simp [squeeze]

@[simp] theorem squeeze_flatten
    (ss : List (List Char)) :
    squeeze ss.flatten = ss.flatMap squeeze := by
  induction ss with
  | nil => rfl
  | cons s ss ih => simp [ih]

theorem squeeze_eq_nil
    {s : List Char}
    (hBlank : s.all isBlank = true) :
    squeeze s = [] := by
  rw [List.all_eq_true] at hBlank
  rw [squeeze, List.filter_eq_nil_iff]
  intro c hc
  simp [hBlank c hc]

/- Spaces between words are squeezed out. -/
theorem squeeze_unwords
    (ws : List (List Char)) :
    squeeze (unwords ws) = ws.flatMap squeeze := by
  have hSpace : squeeze [' '] = [] := by decide
  unfold unwords
  induction ws with
  | nil => rfl
  | cons w ws ih =>
      cases ws with
      | nil => simp [List.intercalate]
      | cons v ws =>
          rw [List.intercalate_cons_cons, squeeze_append,
            squeeze_append, ih, hSpace]
          simp

/- So are the blanks that words are cut at. -/
theorem squeeze_words
    (s : List Char) :
    (words s).flatMap squeeze = squeeze s := by
  rw [← squeeze_flatten, words, flatten_pieces, squeeze,
    squeeze, List.filter_filter]
  refine List.filter_congr ?_
  intro c _
  cases isBlank c <;> simp

end SqlAudit.Text

------------------------------------------------------------
-- Small Letters
------------------------------------------------------------

namespace SqlAudit.Text

/- The characters of the text are ASCII. -/
def IsAscii (s : List Char) : Prop :=
  ∀ c ∈ s, c.toNat < 0x80

instance
    (s : List Char) :
    Decidable (IsAscii s) :=
  decidable_of_iff
    (s.all (fun c => decide (c.toNat < 0x80)) = true)
    (by simp [IsAscii])

theorem isAscii_nil : IsAscii [] := by
  decide

theorem isAscii_append_iff
    {s s' : List Char} :
    IsAscii (s ++ s') ↔ IsAscii s ∧ IsAscii s' := by
  unfold IsAscii
  exact List.forall_mem_append

theorem lowerAt_eq_toLower
    {c : Char}
    (before : Bool)
    (after : List Char)
    (hAscii : c.toNat < 0x80) :
    lowerAt before c after = [c.toLower] := by
  have hSigma : (c == 'Σ') = false := by
    rw [beq_eq_false_iff_ne]
    rintro rfl
    exact absurd hAscii (by decide)
  simp [lowerAt, lowerChar, hSigma, hAscii]

theorem lowerFrom_eq_map
    {s : List Char}
    (before : Bool)
    (hAscii : IsAscii s) :
    lowerFrom before s = s.map Char.toLower := by
  induction s generalizing before with
  | nil => rfl
  | cons c s ih =>
      have hHead := hAscii c List.mem_cons_self
      have hTail : IsAscii s := by
        intro x hx
        exact hAscii x (List.mem_cons_of_mem c hx)
      rw [lowerFrom, lowerAt_eq_toLower _ _ hHead,
        ih _ hTail]
      rfl

/- An ASCII text is lowercased letter by letter. -/
theorem lower_eq_map
    {s : List Char}
    (hAscii : IsAscii s) :
    lower s = s.map Char.toLower :=
  lowerFrom_eq_map false hAscii

/- Letter case is of no account for what is squeezed out. -/
theorem squeezed_toLower
    (c : Char) :
    (!isBlank c.toLower && c.toLower != ';') =
      (!isBlank c && c != ';') :=
  eq_toLower_of_table
    (f := fun c => !isBlank c && c != ';') (by decide) c

theorem squeeze_lower
    {s : List Char}
    (hAscii : IsAscii s) :
    squeeze (lower s) = (squeeze s).map Char.toLower := by
  rw [lower_eq_map hAscii, squeeze, List.filter_map,
    squeeze]
  refine congrArg (List.map Char.toLower) ?_
  refine List.filter_congr ?_
  intro c _
  exact squeezed_toLower c

theorem mem_unwords
    {ws : List (List Char)}
    {c : Char}
    (hMem : c ∈ unwords ws) :
    c = ' ' ∨ c ∈ ws.flatten := by
  unfold unwords at hMem
  induction ws with
  | nil => simp [List.intercalate] at hMem
  | cons w ws ih =>
      cases ws with
      | nil => exact .inr (by simpa using hMem)
      | cons v ws =>
          rw [List.intercalate_cons_cons, List.mem_append,
            List.mem_append, List.mem_singleton] at hMem
          rw [List.flatten_cons, List.mem_append]
          rcases hMem with (hWord | hSpace) | hLater
          · exact .inr (.inl hWord)
          · exact .inl hSpace
          · exact (ih hLater).imp_right .inr

theorem isAscii_unwords_words
    {s : List Char}
    (hAscii : IsAscii s) :
    IsAscii (unwords (words s)) := by
  intro c hc
  rcases mem_unwords hc with rfl | hWord
  · decide
  · rw [words, flatten_pieces] at hWord
    exact hAscii c (List.mem_filter.mp hWord).1

/-
  The normal form of an ASCII text keeps all but blanks, in
  small letters.
-/
theorem squeeze_normalize
    {s : List Char}
    (hAscii : IsAscii s) :
    squeeze (normalize s) =
      (squeeze s).map Char.toLower := by
  rw [normalize, squeeze_lower (isAscii_unwords_words hAscii),
    squeeze_unwords, squeeze_words]

end SqlAudit.Text
