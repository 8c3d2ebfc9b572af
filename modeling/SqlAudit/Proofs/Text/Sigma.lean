import SqlAudit.Proofs.Text.Lowercase
import SqlAudit.Proofs.Text.Occurrence
import SqlAudit.Proofs.Text.Positions

/-
  The two small sigmas.

  What stands around a text can change which small sigma its
  capital sigmas become, and nothing else about it. So a text
  in small letters is a piece of every larger text in small
  letters, if one sigma is as good as the other. All that is
  said about words without a sigma carries over from a piece
  to the whole.

  Key definitions include:
    * `SqlAudit.Text.plain`
    * `SqlAudit.Text.PieceOf`
    * `SqlAudit.Text.isSigmaFree`

  Key theorems include:
    * `SqlAudit.Text.map_plain_lower_append`
    * `SqlAudit.Text.pieceOf_lower_append`
    * `SqlAudit.Text.PieceOf.occurs`
    * `SqlAudit.Text.PieceOf.length_positions_le`
-/

------------------------------------------------------------
-- Plain Sigmas
------------------------------------------------------------

namespace SqlAudit.Text

/- The character, with an ordinary sigma for a final one. -/
def plain (c : Char) : Char :=
  if c == 'ς' then 'σ' else c

theorem map_plain_lowerAt
    (before : Bool)
    (c : Char)
    (after : List Char) :
    (lowerAt before c after).map plain =
      (lowerChar c).map plain := by
  rcases lowerAt_cases before c after with
    ⟨rfl, hFinal⟩ | hOther
  · rw [hFinal]
    rfl
  · rw [hOther]

/- With plain sigmas, no character sees its neighbours. -/
theorem map_plain_lowerFrom
    (before : Bool)
    (s : List Char) :
    (lowerFrom before s).map plain =
      s.flatMap fun c => (lowerChar c).map plain := by
  induction s generalizing before with
  | nil => rfl
  | cons c s ih =>
      rw [lowerFrom, List.map_append, map_plain_lowerAt, ih,
        List.flatMap_cons]

theorem map_plain_lower_append
    (s t : List Char) :
    (lower (s ++ t)).map plain =
      (lower s).map plain ++ (lower t).map plain := by
  unfold lower
  rw [map_plain_lowerFrom, map_plain_lowerFrom,
    map_plain_lowerFrom, List.flatMap_append]

end SqlAudit.Text

------------------------------------------------------------
-- Pieces Up To Sigmas
------------------------------------------------------------

namespace SqlAudit.Text

/- The first text is a piece of the second, up to sigmas. -/
def PieceOf (s t : List Char) : Prop :=
  s.map plain <:+: t.map plain

/- In small letters, a text is a piece of what holds it. -/
theorem pieceOf_lower_append
    (before text after : List Char) :
    PieceOf (lower text) (lower (before ++ text ++ after)) := by
  unfold PieceOf
  rw [map_plain_lower_append, map_plain_lower_append]
  exact ⟨_, _, rfl⟩

theorem PieceOf.length_le
    {s t : List Char}
    (hPiece : PieceOf s t) :
    s.length ≤ t.length := by
  have hLength := List.IsInfix.length_le hPiece
  rwa [List.length_map, List.length_map] at hLength

end SqlAudit.Text

------------------------------------------------------------
-- Words Without A Sigma
------------------------------------------------------------

namespace SqlAudit.Text

/- The word has neither of the small sigmas. -/
def isSigmaFree (w : List Char) : Bool :=
  w.all fun c => c != 'σ' && c != 'ς'

theorem beq_plain
    {c : Char}
    (hFree : (c != 'σ' && c != 'ς') = true)
    (d : Char) :
    (c == plain d) = (c == d) := by
  simp only [Bool.and_eq_true, bne_iff_ne] at hFree
  by_cases hFinal : d = 'ς'
  · have hPlain : plain d = 'σ' := by simp [plain, hFinal]
    rw [hPlain, hFinal, beq_false_of_ne hFree.1,
      beq_false_of_ne hFree.2]
  · have hPlain : plain d = d := by simp [plain, hFinal]
    rw [hPlain]

section

variable {w : List Char}
variable (hFree : isSigmaFree w = true)

include hFree

theorem isPrefixOf_map_plain
    (text : List Char) :
    w.isPrefixOf (text.map plain) = w.isPrefixOf text := by
  induction w generalizing text with
  | nil => simp
  | cons c w ih =>
      simp only [isSigmaFree, List.all_cons,
        Bool.and_eq_true] at hFree
      cases text with
      | nil => rfl
      | cons d text =>
          have hHead :=
            beq_plain (Bool.and_eq_true_iff.mpr hFree.1) d
          simp only [List.map_cons, List.isPrefixOf, hHead,
            ih hFree.2 text]

theorem occurs_map_plain
    (text : List Char) :
    occurs w (text.map plain) = occurs w text := by
  induction text with
  | nil => rfl
  | cons d text ih =>
      have hHead := isPrefixOf_map_plain hFree (d :: text)
      rw [List.map_cons] at hHead ⊢
      rw [occurs, occurs, hHead, ih]

theorem positions_map_plain
    (text : List Char) :
    positions w (text.map plain) = positions w text := by
  unfold positions
  rw [List.length_map]
  apply List.filter_congr
  intro i _
  rw [← List.map_drop, isPrefixOf_map_plain hFree]

variable {s t : List Char}
variable (hPiece : PieceOf s t)

include hPiece

/- What occurs in a piece occurs in the whole. -/
theorem PieceOf.occurs
    (hOccurs : Text.occurs w s = true) :
    Text.occurs w t = true := by
  rw [← occurs_map_plain hFree, occurs_iff_isInfix]
    at hOccurs ⊢
  exact hOccurs.trans hPiece

theorem PieceOf.length_positions_le :
    (positions w s).length ≤ (positions w t).length := by
  rw [← positions_map_plain hFree s,
    ← positions_map_plain hFree t]
  exact length_positions_le_of_isInfix w hPiece

end

end SqlAudit.Text
