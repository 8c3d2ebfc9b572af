import Mathlib.Data.List.Basic
import SqlAudit.Proofs.Pieces
import SqlAudit.Statement

/-
  The case of ASCII letters has no part in a normal form.

  Nothing that lowercasing asks about a character depends on
  the case of an ASCII letter.  That goes for the neighbours
  of a capital sigma too, which decide whether it stands at
  the end of a word.

  Key theorems include:
    * `SqlAudit.Text.eq_toLower_of_table`
    * `SqlAudit.Text.lower_map_toLower`
    * `SqlAudit.Text.words_map_toLower`
    * `SqlAudit.Text.normalize_eq_of_words`
-/

------------------------------------------------------------
-- Letter Case Of Characters
------------------------------------------------------------

namespace SqlAudit.Text

theorem toLower_eq_self
    {c : Char}
    (hNot : ¬ c.toNat < 0x80) :
    c.toLower = c := by
  refine dif_neg ?_
  rintro ⟨_, hLe⟩
  have hNat : c.toNat ≤ 90 := hLe
  omega

/-
  A property that does not see the case of the first 128
  characters does not see the case of any ASCII letter.
-/
theorem eq_toLower_of_table
    {α : Type}
    {f : Char → α}
    (hTable :
      ∀ n : Fin 128,
        f (Char.ofNat n).toLower = f (Char.ofNat n))
    (c : Char) :
    f c.toLower = f c := by
  by_cases hAscii : c.toNat < 0x80
  · have hChar := hTable ⟨c.toNat, hAscii⟩
    rwa [Char.ofNat_toNat] at hChar
  · rw [toLower_eq_self hAscii]

theorem isBlank_toLower
    (c : Char) :
    isBlank c.toLower = isBlank c :=
  eq_toLower_of_table (by decide) c

theorem isCased_toLower
    (c : Char) :
    isCased c.toLower = isCased c :=
  eq_toLower_of_table (by decide) c

theorem isIgnorable_toLower
    (c : Char) :
    isIgnorable c.toLower = isIgnorable c :=
  eq_toLower_of_table (by decide) c

theorem lowerChar_toLower
    (c : Char) :
    lowerChar c.toLower = lowerChar c :=
  eq_toLower_of_table (by decide) c

theorem beq_sigma_toLower
    (c : Char) :
    (c.toLower == 'Σ') = (c == 'Σ') :=
  eq_toLower_of_table (f := (· == 'Σ')) (by decide) c

end SqlAudit.Text

------------------------------------------------------------
-- Letter Case Of Texts
------------------------------------------------------------

namespace SqlAudit.Text

theorem startsCased_map_toLower
    (s : List Char) :
    startsCased (s.map Char.toLower) = startsCased s := by
  have hIgnorable :
      isIgnorable ∘ Char.toLower = isIgnorable :=
    funext isIgnorable_toLower
  unfold startsCased
  rw [List.dropWhile_map, hIgnorable]
  cases s.dropWhile isIgnorable with
  | nil => rfl
  | cons c rest => exact isCased_toLower c

/- Neither a letter nor those after it show their case. -/
theorem lowerAt_toLower
    (before : Bool)
    (c : Char)
    (after : List Char) :
    lowerAt before c.toLower (after.map Char.toLower) =
      lowerAt before c after := by
  unfold lowerAt
  rw [beq_sigma_toLower, startsCased_map_toLower,
    lowerChar_toLower]

theorem casedAfter_toLower
    (before : Bool)
    (c : Char) :
    casedAfter before c.toLower = casedAfter before c := by
  unfold casedAfter
  rw [isIgnorable_toLower, isCased_toLower]

theorem lowerFrom_map_toLower
    (before : Bool)
    (s : List Char) :
    lowerFrom before (s.map Char.toLower) =
      lowerFrom before s := by
  induction s generalizing before with
  | nil => rfl
  | cons c rest ih =>
      rw [List.map_cons, lowerFrom, lowerFrom,
        lowerAt_toLower, casedAfter_toLower, ih]

/- Small ASCII letters do not change the lowercased text. -/
theorem lower_map_toLower
    (s : List Char) :
    lower (s.map Char.toLower) = lower s :=
  lowerFrom_map_toLower false s

theorem words_map_toLower
    (s : List Char) :
    words (s.map Char.toLower) =
      (words s).map (List.map Char.toLower) :=
  pieces_map fun c _ => isBlank_toLower c

theorem map_toLower_unwords
    (ws : List (List Char)) :
    (unwords ws).map Char.toLower =
      unwords (ws.map (List.map Char.toLower)) := by
  unfold unwords
  induction ws with
  | nil => rfl
  | cons w ws ih =>
      cases ws with
      | nil => simp
      | cons v ws =>
          rw [List.intercalate_cons_cons, List.map_append,
            List.map_append, ih]
          exact List.intercalate_cons_cons.symm

/- Words that differ in case only make one normal form. -/
theorem normalize_eq_of_words
    {s t : List Char}
    (hWords :
      (words s).map (List.map Char.toLower) =
        (words t).map (List.map Char.toLower)) :
    normalize s = normalize t := by
  unfold normalize
  rw [← lower_map_toLower, map_toLower_unwords, hWords,
    ← map_toLower_unwords, lower_map_toLower]

end SqlAudit.Text
