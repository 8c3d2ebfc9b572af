import SqlAudit.Proofs.Text.LetterCase

/-
  Texts that differ in layout only.

  Two texts are alike when they differ in the case of ASCII
  letters and in the blanks of which their gaps are made.
  Alike texts have the same words up to letter case, and so
  they have the same normal form.

  Key definitions include:
    * `SqlAudit.Text.Alike`

  Key theorems include:
    * `SqlAudit.Text.Alike.append`
    * `SqlAudit.Text.Alike.map_words_append`
    * `SqlAudit.Text.Alike.normalize_eq`
-/

------------------------------------------------------------
-- Alike Texts
------------------------------------------------------------

namespace SqlAudit.Text

/-
  The texts are equal up to the case of ASCII letters, and up
  to blanks in the place of other blanks where both have one
  at least.
-/
inductive Alike : List Char → List Char → Prop
| nil : Alike [] []
| letter
    {c d : Char}
    {s t : List Char} :
    c.toLower = d.toLower →
    Alike s t →
    Alike (c :: s) (d :: t)
| blanks
    {b b' s t : List Char} :
    b ≠ [] →
    b' ≠ [] →
    (∀ c ∈ b, isBlank c = true) →
    (∀ c ∈ b', isBlank c = true) →
    Alike s t →
    Alike (b ++ s) (b' ++ t)

namespace Alike

/- Texts that are equal up to letter case are alike. -/
theorem of_toLower_eq
    {s t : List Char}
    (hSame : s.map Char.toLower = t.map Char.toLower) :
    Alike s t := by
  induction s generalizing t with
  | nil =>
      cases t with
      | nil => exact .nil
      | cons d t => cases hSame
  | cons c s ih =>
      cases t with
      | nil => cases hSame
      | cons d t =>
          rw [List.map_cons, List.map_cons,
            List.cons.injEq] at hSame
          exact .letter hSame.1 (ih hSame.2)

theorem append
    {s t s' t' : List Char}
    (hFirst : Alike s t)
    (hSecond : Alike s' t') :
    Alike (s ++ s') (t ++ t') := by
  induction hFirst with
  | nil => exact hSecond
  | letter hSame _ ih => exact .letter hSame ih
  | blanks hNe hNe' hBlank hBlank' _ ih =>
      rw [List.append_assoc, List.append_assoc]
      exact .blanks hNe hNe' hBlank hBlank' ih

/-
  Alike texts have the same words up to letter case, also
  after texts that are the same up to letter case.
-/
theorem map_words_append
    {s t before before' : List Char}
    (hAlike : Alike s t)
    (hBefore :
      before.map Char.toLower =
        before'.map Char.toLower) :
    (words (before ++ s)).map (List.map Char.toLower) =
      (words (before' ++ t)).map
        (List.map Char.toLower) := by
  induction hAlike generalizing before before' with
  | nil =>
      rw [List.append_nil, List.append_nil,
        ← words_map_toLower, hBefore, words_map_toLower]
  | @letter c d s t hSame _ ih =>
      -- the letter joins what stands before
      have hGrown :
          (before ++ [c]).map Char.toLower =
            (before' ++ [d]).map Char.toLower := by
        simp [hBefore, hSame]
      have hWords := ih hGrown
      rwa [List.append_assoc, List.append_assoc] at hWords
  | @blanks b b' s t hNe hNe' hBlank hBlank' _ ih =>
      -- blanks end the words that stand before
      have hLeft : words (before ++ (b ++ s)) =
          words before ++ words s := by
        rw [← List.append_assoc]
        exact pieces_append_cuts_append before s hNe hBlank
      have hRight : words (before' ++ (b' ++ t)) =
          words before' ++ words t := by
        rw [← List.append_assoc]
        exact pieces_append_cuts_append before' t hNe'
          hBlank'
      have hRest := @ih [] [] rfl
      rw [hLeft, hRight, List.map_append, List.map_append,
        ← words_map_toLower before, hBefore,
        words_map_toLower]
      exact congrArg (_ ++ ·) hRest

/- Alike texts have one normal form. -/
theorem normalize_eq
    {s t : List Char}
    (hAlike : Alike s t) :
    normalize s = normalize t := by
  refine normalize_eq_of_words ?_
  exact @map_words_append s t [] [] hAlike rfl

end Alike

end SqlAudit.Text
