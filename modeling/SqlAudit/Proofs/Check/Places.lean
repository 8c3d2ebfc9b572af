import Mathlib.Data.List.Forall2
import Mathlib.Order.Lex
import SqlAudit.Proofs.Check.Outcome

/-
  The places of a check: a statement and a rule by their
  positions.

  A check asks its rules statement by statement, and for each
  statement rule by rule.  `places` lists the places at which
  a property of the rule and the statement holds, in that
  order.

  Key definitions include:
    * `SqlAudit.places`

  Key theorems include:
    * `SqlAudit.mem_places_iff`
    * `SqlAudit.places_pairwise`
    * `SqlAudit.forall₂_places`
-/

------------------------------------------------------------
-- Places
------------------------------------------------------------

namespace SqlAudit

/- The places at which the property holds, in order. -/
def places
    (holds : Rule → Statement → Bool)
    (catalog : List Rule)
    (texts : List (List Char)) : List (Nat × Nat) :=
  texts.zipIdx.flatMap fun t =>
    catalog.zipIdx.filterMap fun r =>
      if holds r.1 (.ofText t.1) then some (t.2, r.2)
      else none

theorem mem_places_iff
    {holds : Rule → Statement → Bool}
    {catalog : List Rule}
    {texts : List (List Char)}
    {i k : Nat} :
    (i, k) ∈ places holds catalog texts ↔
      ∃ text rule,
        texts[i]? = some text ∧ catalog[k]? = some rule ∧
          holds rule (.ofText text) = true := by
  simp only [places, List.mem_flatMap, List.mem_filterMap]
  constructor
  · rintro ⟨t, hText, r, hRule, hHolds⟩
    rw [List.mem_zipIdx_iff_getElem?] at hText hRule
    by_cases h : holds r.1 (.ofText t.1) = true
    · simp only [h, if_true, Option.some.injEq,
        Prod.mk.injEq] at hHolds
      rcases hHolds with ⟨rfl, rfl⟩
      exact ⟨t.1, r.1, hText, hRule, h⟩
    · simp [h] at hHolds
  · rintro ⟨text, rule, hText, hRule, hHolds⟩
    refine ⟨(text, i), ?_, (rule, k), ?_, ?_⟩
    · exact List.mk_mem_zipIdx_iff_getElem?.mpr hText
    · exact List.mk_mem_zipIdx_iff_getElem?.mpr hRule
    · simp [hHolds]

/- Positions grow along a list with its positions. -/
theorem zipIdx_pairwise_snd
    {α : Type}
    (xs : List α) :
    xs.zipIdx.Pairwise fun a b => a.2 < b.2 := by
  have hRange :
      (xs.zipIdx.map Prod.snd).Pairwise (· < ·) := by
    rw [List.zipIdx_map_snd]
    exact List.pairwise_lt_range'
  exact List.pairwise_map.mp hRange

/- Places come by statement, and then by rule. -/
theorem places_pairwise
    (holds : Rule → Statement → Bool)
    (catalog : List Rule)
    (texts : List (List Char)) :
    (places holds catalog texts).Pairwise
      (Prod.Lex (· < ·) (· < ·)) := by
  rw [places, List.pairwise_flatMap]
  constructor
  · intro t _
    rw [List.pairwise_filterMap]
    refine (zipIdx_pairwise_snd catalog).imp ?_
    intro r r' hLt p hp p' hp'
    simp only [Option.ite_none_right_eq_some,
      Option.some.injEq] at hp hp'
    rw [← hp.2, ← hp'.2]
    exact Prod.Lex.right _ hLt
  · refine (zipIdx_pairwise_snd texts).imp ?_
    intro t t' hLt p hp p' hp'
    rcases List.mem_filterMap.mp hp with ⟨r, _, hr⟩
    rcases List.mem_filterMap.mp hp' with ⟨r', _, hr'⟩
    simp only [Option.ite_none_right_eq_some,
      Option.some.injEq] at hr hr'
    rw [← hr.2, ← hr'.2]
    exact Prod.Lex.left _ _ hLt

theorem places_nodup
    (holds : Rule → Statement → Bool)
    (catalog : List Rule)
    (texts : List (List Char)) :
    (places holds catalog texts).Nodup := by
  refine (places_pairwise holds catalog texts).imp ?_
  intro p q hLex hSame
  subst hSame
  cases hLex with
  | left _ _ hLt => exact Nat.lt_irrefl _ hLt
  | right _ hLt => exact Nat.lt_irrefl _ hLt

end SqlAudit

------------------------------------------------------------
-- What Is Made At The Places
------------------------------------------------------------

namespace SqlAudit

variable {α β γ : Type}

theorem forall₂_flatMap
    {R : β → γ → Prop}
    {f : α → List β}
    {g : α → List γ}
    {xs : List α}
    (hAll : ∀ x ∈ xs, List.Forall₂ R (f x) (g x)) :
    List.Forall₂ R (xs.flatMap f) (xs.flatMap g) := by
  induction xs with
  | nil => exact .nil
  | cons x xs ih =>
      rw [List.flatMap_cons, List.flatMap_cons]
      refine List.rel_append (hAll x List.mem_cons_self) ?_
      exact ih fun y hy => hAll y (List.mem_cons_of_mem _ hy)

/-
  Two lists picked from the elements of one list go together
  if they are picked at the same elements.
-/
theorem forall₂_filterMap
    {R : β → γ → Prop}
    {f : α → Option β}
    {g : α → Option γ}
    {xs : List α}
    (hAll : ∀ x ∈ xs, Option.Rel R (f x) (g x)) :
    List.Forall₂ R (xs.filterMap f) (xs.filterMap g) := by
  induction xs with
  | nil => exact .nil
  | cons x xs ih =>
      have hRest :=
        ih fun y hy => hAll y (List.mem_cons_of_mem _ hy)
      have hHead := hAll x List.mem_cons_self
      cases hf : f x with
      | none =>
          cases hg : g x with
          | none => simpa [hf, hg] using hRest
          | some c => rw [hf, hg] at hHead; cases hHead
      | some b =>
          cases hg : g x with
          | none => rw [hf, hg] at hHead; cases hHead
          | some c =>
              rw [hf, hg] at hHead
              cases hHead with
              | some hR => simpa [hf, hg] using ⟨hR, hRest⟩

/-
  What is made of rules and statements goes with the places
  at which something is made.
-/
theorem forall₂_places
    {R : Nat × Nat → β → Prop}
    {holds : Rule → Statement → Bool}
    {make : Nat → Statement → Rule → Option β}
    {catalog : List Rule}
    {texts : List (List Char)}
    (hSome :
      ∀ i k text rule, texts[i]? = some text →
        catalog[k]? = some rule →
        holds rule (.ofText text) = true →
        ∃ b, make i (.ofText text) rule = some b ∧
          R (i, k) b)
    (hNone :
      ∀ i s rule, holds rule s = false →
        make i s rule = none) :
    List.Forall₂ R (places holds catalog texts)
      (texts.zipIdx.flatMap fun t =>
        catalog.filterMap (make t.2 (.ofText t.1))) := by
  refine forall₂_flatMap ?_
  intro t hText
  have hRules :
      catalog.filterMap (make t.2 (.ofText t.1)) =
        catalog.zipIdx.filterMap fun r =>
          make t.2 (.ofText t.1) r.1 := by
    conv => lhs; rw [← List.zipIdx_map_fst 0 catalog]
    rw [List.filterMap_map]
    rfl
  rw [hRules]
  refine forall₂_filterMap ?_
  intro r hRule
  rw [List.mem_zipIdx_iff_getElem?] at hText hRule
  cases hHolds : holds r.1 (.ofText t.1) with
  | false =>
      rw [hNone t.2 _ r.1 hHolds]
      simp
  | true =>
      rcases hSome t.2 r.2 t.1 r.1 hText hRule hHolds with
        ⟨b, hMake, hR⟩
      rw [hMake]
      simpa using hR

end SqlAudit
