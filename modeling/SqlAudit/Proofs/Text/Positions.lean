import Mathlib.Data.List.Infix
import SqlAudit.Text.Blank

/-
  The positions at which a word starts in a text.

  A word without a border does not overlap itself, so none of
  the positions lies inside an occurrence. A text has no fewer
  positions than its pieces have, and a character that is none
  of the word's keeps the positions on either side apart.

  Key definitions include:
    * `SqlAudit.Text.positions`
    * `SqlAudit.Text.isUnbordered`

  Key theorems include:
    * `SqlAudit.Text.length_positions_append_word`
    * `SqlAudit.Text.length_positions_append_cons`
    * `SqlAudit.Text.length_positions_le_of_isInfix`
-/

------------------------------------------------------------
-- Positions
------------------------------------------------------------

namespace SqlAudit.Text

/- The positions of a text at which a word starts. -/
def positions (w text : List Char) : List Nat :=
  (List.range text.length).filter fun i =>
    w.isPrefixOf (text.drop i)

@[simp] theorem positions_nil
    (w : List Char) :
    positions w [] = [] := rfl

/- A word starts at once or after the first character. -/
theorem length_positions_cons
    (w : List Char)
    (c : Char)
    (text : List Char) :
    (positions w (c :: text)).length =
      (w.isPrefixOf (c :: text)).toNat +
        (positions w text).length := by
  rw [positions, List.length_cons, List.range_succ_eq_map,
    List.filter_cons, List.filter_map]
  cases hStarts : w.isPrefixOf (c :: text) with
  | true =>
      simp [hStarts, positions, Function.comp_def,
        Nat.add_comm]
  | false =>
      simp [hStarts, positions, Function.comp_def]

end SqlAudit.Text

------------------------------------------------------------
-- Words Without A Border
------------------------------------------------------------

namespace SqlAudit.Text

/-
  No part of the word both begins and ends it, the word
  itself and the empty part left aside.
-/
def isUnbordered (w : List Char) : Bool :=
  w.tails.all fun s =>
    s.isEmpty || s == w || !s.isPrefixOf w

theorem eq_nil_or_eq_of_isUnbordered
    {w s : List Char}
    (hUnbordered : isUnbordered w = true)
    (hSuffix : s <:+ w)
    (hPrefix : s <+: w) :
    s = [] ∨ s = w := by
  have hTail :=
    List.all_eq_true.mp hUnbordered s
      ((List.mem_tails s w).mpr hSuffix)
  have hStarts := List.isPrefixOf_iff_prefix.mpr hPrefix
  simpa [hStarts] using hTail

/-
  A word does not start inside an occurrence of it: the rest
  of the occurrence would be a border.
-/
theorem not_isPrefixOf_of_isSuffix
    {w s : List Char}
    (hUnbordered : isUnbordered w = true)
    (hSuffix : s <:+ w)
    (hSome : s ≠ [])
    (hProper : s ≠ w)
    (rest : List Char) :
    w.isPrefixOf (s ++ rest) = false := by
  rw [Bool.eq_false_iff, Ne, List.isPrefixOf_iff_prefix]
  intro hStarts
  have hPrefix : s <+: w :=
    List.prefix_of_prefix_length_le (List.prefix_append s rest)
      hStarts hSuffix.length_le
  rcases eq_nil_or_eq_of_isUnbordered hUnbordered hSuffix
    hPrefix with hNil | hWhole
  · exact hSome hNil
  · exact hProper hWhole

theorem length_positions_append_of_isSuffix
    {w s : List Char}
    (hUnbordered : isUnbordered w = true)
    (hSuffix : s <:+ w)
    (hProper : s ≠ w)
    (rest : List Char) :
    (positions w (s ++ rest)).length =
      (positions w rest).length := by
  induction s with
  | nil => rfl
  | cons c s ih =>
      have hNot :=
        not_isPrefixOf_of_isSuffix hUnbordered hSuffix
          (List.cons_ne_nil c s) hProper rest
      have hShorter : s <:+ w :=
        (List.suffix_cons c s).trans hSuffix
      have hNotWhole : s ≠ w := by
        rintro rfl
        have hLength := hSuffix.length_le
        rw [List.length_cons] at hLength
        omega
      rw [List.cons_append] at hNot ⊢
      rw [length_positions_cons, hNot, ih hShorter hNotWhole]
      simp

/- Behind an occurrence, the count goes on at its end. -/
theorem length_positions_append_word
    {w : List Char}
    (hUnbordered : isUnbordered w = true)
    (hSome : w ≠ [])
    (rest : List Char) :
    (positions w (w ++ rest)).length =
      1 + (positions w rest).length := by
  rcases List.exists_cons_of_ne_nil hSome with ⟨c, s, rfl⟩
  have hStarts :
      (c :: s).isPrefixOf (c :: (s ++ rest)) = true :=
    List.isPrefixOf_iff_prefix.mpr (List.prefix_append _ rest)
  have hInside :=
    length_positions_append_of_isSuffix hUnbordered
      (List.suffix_cons c s) (List.ne_cons_self) rest
  rw [List.cons_append, length_positions_cons, hStarts,
    hInside]
  rfl

end SqlAudit.Text

------------------------------------------------------------
-- Positions In Pieces
------------------------------------------------------------

namespace SqlAudit.Text

theorem isPrefixOf_append_cons
    {w : List Char}
    {x : Char}
    (hNot : x ∉ w)
    (s rest : List Char) :
    w.isPrefixOf (s ++ x :: rest) = w.isPrefixOf s := by
  induction w generalizing s with
  | nil => simp
  | cons c w ih =>
      rcases List.ne_and_not_mem_of_not_mem_cons hNot with
        ⟨hOther, hRest⟩
      cases s with
      | nil => simp [List.isPrefixOf, hOther.symm]
      | cons d s => simp [List.isPrefixOf, ih hRest s]

/- A character that is none of the word's keeps it apart. -/
theorem length_positions_append_cons
    {w : List Char}
    {x : Char}
    (hSome : w ≠ [])
    (hNot : x ∉ w)
    (s rest : List Char) :
    (positions w (s ++ x :: rest)).length =
      (positions w s).length + (positions w rest).length := by
  induction s with
  | nil =>
      have hHead := isPrefixOf_append_cons hNot [] rest
      rw [List.nil_append] at hHead
      rw [List.nil_append, length_positions_cons, hHead]
      cases w with
      | nil => exact absurd rfl hSome
      | cons c w => simp
  | cons c s ih =>
      have hHead := isPrefixOf_append_cons hNot (c :: s) rest
      rw [List.cons_append] at hHead ⊢
      rw [length_positions_cons, length_positions_cons, hHead,
        ih, Nat.add_assoc]

theorem length_positions_le_append
    (w s rest : List Char) :
    (positions w s).length ≤
      (positions w (s ++ rest)).length := by
  induction s with
  | nil => simp
  | cons c s ih =>
      have hHead :
          (w.isPrefixOf (c :: s)).toNat ≤
            (w.isPrefixOf (c :: (s ++ rest))).toNat := by
        cases hStarts : w.isPrefixOf (c :: s) with
        | false => simp
        | true =>
            have hPrefix :=
              (List.isPrefixOf_iff_prefix.mp hStarts).trans
                (List.prefix_append (c :: s) rest)
            rw [List.cons_append] at hPrefix
            rw [List.isPrefixOf_iff_prefix.mpr hPrefix]
      rw [List.cons_append, length_positions_cons,
        length_positions_cons]
      omega

/- A text has all the positions of its pieces. -/
theorem length_positions_le_of_isInfix
    {s text : List Char}
    (w : List Char)
    (hInfix : s <:+: text) :
    (positions w s).length ≤ (positions w text).length := by
  rcases hInfix with ⟨front, back, rfl⟩
  rw [List.append_assoc]
  induction front with
  | nil => exact length_positions_le_append w s back
  | cons c front ih =>
      rw [List.cons_append, length_positions_cons]
      omega

end SqlAudit.Text
