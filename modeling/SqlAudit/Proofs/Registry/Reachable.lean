import Mathlib.Data.List.Nodup
import SqlAudit.Catalog.Standard
import SqlAudit.Proofs.Except

/-
  Registries that can be reached by registering rules.

  A registry starts empty or with the built-in rules.  It
  changes when a draft is registered, and it is emptied when
  it is cleared.  Rules of a registry that can be reached
  have different keys, so an identifier belongs to one rule.

  Key definitions include:
    * `SqlAudit.Registry.Reachable`
    * `SqlAudit.Registry.DistinctKeys`

  Key theorems include:
    * `SqlAudit.Draft.build_eq_ok`
    * `SqlAudit.Registry.register_eq_ok`
    * `SqlAudit.Registry.Reachable.distinctKeys`
    * `SqlAudit.Registry.sublist_of_select`
-/

------------------------------------------------------------
-- Identifiers Of Drafts
------------------------------------------------------------

namespace SqlAudit

namespace Draft

theorem present_eq_ok
    {setting : Option Value}
    {e : Error}
    {v : Value}
    (hPresent : present setting e = .ok v) :
    setting = some v ∧ v.isTruthy = true := by
  unfold present at hPresent
  cases setting with
  | none => simp at hPresent
  | some w =>
      by_cases hTruthy : w.isTruthy = true
      · simp only [hTruthy, if_true, Except.ok.injEq]
          at hPresent
        subst hPresent
        exact ⟨rfl, hTruthy⟩
      · simp [hTruthy] at hPresent

/-
  What making a rule does: every setting is checked, and the
  rule holds the settings of its draft.
-/
theorem build_eq_ok
    {d : Draft}
    {rule : Rule}
    (hBuild : d.build = .ok rule) :
    d.kind ≠ .bare ∧
      d.id = some rule.id ∧ rule.id.isTruthy = true ∧
      d.title = some rule.title ∧
      rule.title.isTruthy = true ∧
      d.category.bind Category.ofValue? =
        some rule.category ∧
      d.risk.bind Risk.ofValue? = some rule.risk ∧
      d.message = some rule.message ∧
      rule.message.isTruthy = true ∧
      rule.guard = d.guardOrDefault ∧
      d.test rule.id = .ok rule.test := by
  unfold build at hBuild
  by_cases hBare : d.kind = .bare
  · simp [hBare, bind, Except.bind] at hBuild
  simp only [beq_iff_eq, hBare, if_false] at hBuild
  rcases ok_of_bind_eq_ok hBuild with ⟨id, hId, hBuild⟩
  rcases ok_of_bind_eq_ok hBuild with
    ⟨title, hTitle, hBuild⟩
  cases hCategory : d.category.bind Category.ofValue? with
  | none => simp [hCategory, bind, Except.bind] at hBuild
  | some category =>
      cases hRisk : d.risk.bind Risk.ofValue? with
      | none =>
          simp [hCategory, hRisk, bind, Except.bind, pure,
            Except.pure] at hBuild
      | some risk =>
          simp only [hCategory, hRisk, pure_bind] at hBuild
          rcases ok_of_bind_eq_ok hBuild with
            ⟨message, hMessage, hBuild⟩
          rcases ok_of_bind_eq_ok hBuild with
            ⟨test, hTest, hBuild⟩
          have hRule := Except.ok.inj hBuild
          subst hRule
          rcases present_eq_ok hId with ⟨hIdOf, hIdTrue⟩
          rcases present_eq_ok hTitle with
            ⟨hTitleOf, hTitleTrue⟩
          rcases present_eq_ok hMessage with
            ⟨hMessageOf, hMessageTrue⟩
          exact ⟨hBare, hIdOf, hIdTrue, hTitleOf,
            hTitleTrue, rfl, rfl, hMessageOf,
            hMessageTrue, rfl, hTest⟩

end Draft

end SqlAudit

------------------------------------------------------------
-- Registration
------------------------------------------------------------

namespace SqlAudit

namespace Registry

theorem freshKey_eq_ok
    {registry : Registry}
    {id : Value}
    {key : Key}
    (hFresh : registry.freshKey id = .ok key) :
    id.key? = some key ∧ registry.find? key = none := by
  unfold freshKey at hFresh
  cases hKey : id.key? with
  | none => simp [hKey] at hFresh
  | some k =>
      cases hFind : registry.find? k with
      | some rule => simp [hKey, hFind] at hFresh
      | none =>
          simp only [hKey, hFind, Option.isSome_none,
            Bool.false_eq_true, if_false, Except.ok.injEq]
            at hFresh
          subst hFresh
          exact ⟨rfl, hFind⟩

/-
  What a registration does: the draft's rule is put last, and
  no rule before it has its key.
-/
theorem register_eq_ok
    {registry result : Registry}
    {d : Draft}
    (hRegister : registry.register d = .ok result) :
    ∃ rule key,
      d.build = .ok rule ∧
        rule.id.key? = some key ∧
        registry.find? key = none ∧
        result.rules = registry.rules ++ [rule] := by
  unfold register at hRegister
  rcases ok_of_bind_eq_ok hRegister with
    ⟨id, hId, hRegister⟩
  rcases ok_of_bind_eq_ok hRegister with
    ⟨key, hKey, hRegister⟩
  rcases ok_of_bind_eq_ok hRegister with
    ⟨rule, hBuild, hRegister⟩
  have hResult := Except.ok.inj hRegister
  have hSame : id = rule.id := by
    have hDraft := (Draft.present_eq_ok hId).1
    rw [(Draft.build_eq_ok hBuild).2.1] at hDraft
    exact (Option.some.inj hDraft).symm
  rcases freshKey_eq_ok hKey with ⟨hKeyOf, hNone⟩
  exact ⟨rule, key, hBuild, hSame ▸ hKeyOf, hNone,
    by rw [← hResult]⟩

end Registry

end SqlAudit

------------------------------------------------------------
-- Reachable Registries
------------------------------------------------------------

namespace SqlAudit

namespace Registry

/-
  The registries that registering can lead to.  A registry
  that is cleared is empty again, and a registration that
  fails leaves the registry as it was.
-/
inductive Reachable : Registry → Prop
| empty : Reachable .empty
| standard : Reachable .standard
| register
    {registry result : Registry}
    {d : Draft} :
    Reachable registry →
    registry.register d = .ok result →
    Reachable result

/- No two rules have the same key. -/
def DistinctKeys (registry : Registry) : Prop :=
  (registry.rules.map fun rule => rule.id.key?).Nodup

/- A registration keeps the keys apart. -/
theorem DistinctKeys.of_register
    {registry result : Registry}
    {d : Draft}
    (hKeys : registry.DistinctKeys)
    (hRegister : registry.register d = .ok result) :
    result.DistinctKeys := by
  rcases register_eq_ok hRegister with
    ⟨rule, key, _, hKey, hNone, hRules⟩
  unfold DistinctKeys at hKeys ⊢
  rw [hRules, List.map_append, List.map_singleton]
  refine List.Nodup.append hKeys (List.nodup_singleton _) ?_
  intro k hOld hNew
  rcases List.mem_map.mp hOld with ⟨old, hMem, hOldKey⟩
  have hSame : old.id.key? = some key := by
    rw [hOldKey, List.mem_singleton.mp hNew, hKey]
  exact List.find?_eq_none.mp hNone old hMem
    (by simp [hSame])

/- Registering drafts one after the other keeps them apart. -/
theorem DistinctKeys.of_foldlM
    {drafts : List Draft}
    {registry result : Registry}
    (hKeys : registry.DistinctKeys)
    (hFold : drafts.foldlM Registry.register registry =
      .ok result) :
    result.DistinctKeys :=
  holds_of_foldlM DistinctKeys DistinctKeys.of_register hKeys hFold

theorem distinctKeys_ofDrafts
    {drafts : List Draft}
    {registry : Registry}
    (hDrafts : ofDrafts drafts = .ok registry) :
    registry.DistinctKeys := by
  have hEmpty : empty.DistinctKeys := List.nodup_nil
  exact hEmpty.of_foldlM hDrafts

theorem distinctKeys_toOption_getD
    (drafts : List Draft) :
    ((ofDrafts drafts).toOption.getD
      empty).DistinctKeys := by
  cases hDrafts : ofDrafts drafts with
  | error e => exact List.nodup_nil
  | ok registry => exact distinctKeys_ofDrafts hDrafts

theorem Reachable.distinctKeys
    {registry : Registry}
    (hReachable : registry.Reachable) :
    registry.DistinctKeys := by
  induction hReachable with
  | empty => exact List.nodup_nil
  | standard => exact distinctKeys_toOption_getD _
  | register _ hRegister ih => exact ih.of_register hRegister

end Registry

end SqlAudit

------------------------------------------------------------
-- Selections
------------------------------------------------------------

namespace SqlAudit

namespace Registry

/- A selection keeps the order and repeats no rule. -/
theorem sublist_of_select
    {registry : Registry}
    {ids categories : List Value}
    {catalog : List Rule}
    (hSelect : registry.select ids categories = .ok catalog) :
    catalog.Sublist registry.rules := by
  unfold select at hSelect
  split at hSelect
  · rcases ok_of_bind_eq_ok hSelect with ⟨_, _, hFilter⟩
    exact Except.ok.inj hFilter ▸ List.filter_sublist
  · split at hSelect
    · rcases ok_of_bind_eq_ok hSelect with ⟨_, _, hFilter⟩
      exact Except.ok.inj hFilter ▸ List.filter_sublist
    · exact Except.ok.inj hSelect ▸ List.Sublist.refl _

end Registry

end SqlAudit
