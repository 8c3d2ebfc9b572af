import SqlAudit.Proofs.Regex.Language
import SqlAudit.Proofs.Text.Sigma

/-
  Expressions that do not see which small sigma they match.

  If no class of an expression holds one of the small sigmas
  without the other, then neither does its language. If such
  an expression is regular and occurs in a text, it occurs in
  every text that has this one as a piece, up to sigmas.

  Key definitions include:
    * `SqlAudit.Regex.isBlind`

  Key theorems include:
    * `SqlAudit.Regex.plain_language`
    * `SqlAudit.Regex.occursIn_of_pieceOf`
-/

------------------------------------------------------------
-- Languages Without A Choice Of Sigma
------------------------------------------------------------

namespace SqlAudit

namespace Regex

/- Plain sigmas neither take a text away nor add one. -/
def Plain (L : Language Char) : Prop :=
  ∀ w, w.map Text.plain ∈ L ↔ w ∈ L

namespace Plain

variable {L M : Language Char}

theorem one : Plain 1 := by
  intro w
  rw [Language.mem_one, Language.mem_one,
    List.map_eq_nil_iff]

theorem add
    (hFirst : Plain L)
    (hSecond : Plain M) :
    Plain (L + M) := by
  intro w
  rw [Language.mem_add, Language.mem_add, hFirst w, hSecond w]

theorem mul
    (hFirst : Plain L)
    (hSecond : Plain M) :
    Plain (L * M) := by
  intro w
  rw [Language.mem_mul, Language.mem_mul]
  constructor
  · rintro ⟨u, hU, v, hV, hBoth⟩
    rcases List.map_eq_append_iff.mp hBoth.symm with
      ⟨a, b, rfl, rfl, rfl⟩
    exact ⟨a, (hFirst a).mp hU, b, (hSecond b).mp hV, rfl⟩
  · rintro ⟨u, hU, v, hV, rfl⟩
    exact ⟨_, (hFirst u).mpr hU, _, (hSecond v).mpr hV,
      List.map_append.symm⟩

theorem pow
    (hPlain : Plain L)
    (n : Nat) :
    Plain (L ^ n) := by
  induction n with
  | zero => exact one
  | succ n ih =>
      rw [pow_succ]
      exact ih.mul hPlain

end Plain

end Regex

end SqlAudit

------------------------------------------------------------
-- Blind Expressions
------------------------------------------------------------

namespace SqlAudit

/- The class holds both small sigmas or neither. -/
def CharClass.isBlind (cls : CharClass) : Bool :=
  cls.has 'σ' == cls.has 'ς'

theorem CharClass.has_plain
    {cls : CharClass}
    (hBlind : cls.isBlind = true)
    (c : Char) :
    cls.has (Text.plain c) = cls.has c := by
  by_cases hFinal : c = 'ς'
  · subst hFinal
    exact beq_iff_eq.mp hBlind
  · have hPlain : Text.plain c = c := by
      simp [Text.plain, hFinal]
    rw [hPlain]

namespace Regex

/- No class of the expression tells the sigmas apart. -/
def isBlind : Regex → Bool
| .char cls => cls.isBlind
| .seq r s | .alt r s | .given _ r s => r.isBlind && s.isBlind
| .repeated r _ _ _ | .atomic r | .group _ r => r.isBlind
| .empty | .anchor _ | .echo .. | .look .. => true

theorem plain_language
    {r : Regex}
    (hBlind : r.isBlind = true) :
    Plain r.language := by
  induction r with
  | empty | anchor | look => exact .one
  | char cls =>
      intro w
      constructor
      · rintro ⟨x, hHas, hWord⟩
        rcases List.map_eq_singleton_iff.mp hWord with
          ⟨c, rfl, rfl⟩
        exact ⟨c, by rwa [← CharClass.has_plain hBlind c],
          rfl⟩
      · rintro ⟨x, hHas, rfl⟩
        exact ⟨Text.plain x,
          by rwa [CharClass.has_plain hBlind x], rfl⟩
  | seq r s ihR ihS =>
      rcases Bool.and_eq_true_iff.mp hBlind with ⟨hR, hS⟩
      exact (ihR hR).mul (ihS hS)
  | alt r s ihR ihS | given n r s ihR ihS =>
      rcases Bool.and_eq_true_iff.mp hBlind with ⟨hR, hS⟩
      exact (ihR hR).add (ihS hS)
  | repeated r least most greed ih =>
      intro w
      exact exists_congr fun n => and_congr_right fun _ =>
        and_congr_right fun _ => (ih hBlind).pow n w
  | atomic r ih | group n r ih => exact ih hBlind
  | echo => exact fun w => Iff.rfl

section

variable {r : Regex}
variable (hRegular : r.isRegular = true)
variable (hBlind : r.isBlind = true)

include hRegular hBlind

theorem occursIn_map_plain_iff
    {text : List Char} :
    r.occursIn (text.map Text.plain) = true ↔
      r.occursIn text = true := by
  rw [occursIn_iff hRegular, occursIn_iff hRegular]
  constructor
  · rintro ⟨w, hWord, hInfix⟩
    rcases List.infix_map_iff.mp hInfix with ⟨v, hPiece, rfl⟩
    exact ⟨v, (plain_language hBlind v).mp hWord, hPiece⟩
  · rintro ⟨w, hWord, hInfix⟩
    exact ⟨_, (plain_language hBlind w).mpr hWord,
      hInfix.map Text.plain⟩

/- What occurs in a piece occurs in the whole. -/
theorem occursIn_of_pieceOf
    {s t : List Char}
    (hPiece : Text.PieceOf s t)
    (hOccurs : r.occursIn s = true) :
    r.occursIn t = true := by
  rw [← occursIn_map_plain_iff hRegular hBlind,
    occursIn_iff hRegular] at hOccurs ⊢
  rcases hOccurs with ⟨w, hWord, hInfix⟩
  exact ⟨w, hWord, hInfix.trans hPiece⟩

end

end Regex

end SqlAudit
