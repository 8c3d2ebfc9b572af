import Mathlib.Data.List.DropRight
import SqlAudit.Proofs.Registry.Selection
import SqlAudit.Proofs.Rule.WellFormed
import SqlAudit.Registry.Request

/-
  A registry is what its history has made of it.

  Whatever requests are made to a registry, it holds the
  rules of the drafts that it accepted since it was cleared,
  in order, after those of the start if it never was.  Its
  rules are well formed and have different keys, a key leads
  to the rule that has it, and all ways to read the registry
  agree.

  Key definitions include:
    * `SqlAudit.Registry.accepted?`
    * `SqlAudit.Registry.sinceClear`
    * `SqlAudit.Registry.Lawful`

  Key theorems include:
    * `SqlAudit.Registry.serve_cases`
    * `SqlAudit.Registry.rules_after`
    * `SqlAudit.Registry.Lawful.after`
    * `SqlAudit.Registry.registry_is_its_history`
-/

------------------------------------------------------------
-- One Request
------------------------------------------------------------

namespace SqlAudit

namespace Registry

/- The request only reads the registry. -/
def Request.isLookup : Request → Bool
| .register _ => false
| .clear => false
| _ => true

/- The draft that an exchange registered, if it did so. -/
def accepted? : Request × Reply → Option Draft
| (.register d, .done) => some d
| _ => none

/-
  A draft is registered if it can be built and its key is
  not taken yet.
-/
theorem register_of_build
    {registry : Registry}
    {d : Draft}
    {rule : Rule}
    {key : Key}
    (hBuild : d.build = .ok rule)
    (hKey : rule.id.key? = some key)
    (hFresh : registry.find? key = none) :
    registry.register d = .ok ⟨registry.rules ++ [rule]⟩ := by
  have hId := (Draft.build_eq_ok hBuild).2.1
  have hTruthy := (Draft.build_eq_ok hBuild).2.2.1
  simp [register, Draft.present, freshKey, hId, hTruthy,
    hKey, hFresh, hBuild, bind, Except.bind, pure,
    Except.pure]

/-
  What a request can do: its draft is built and put last,
  the registry is cleared, or it stays as it was.
-/
theorem serve_cases
    (registry : Registry)
    (q : Request) :
    (∃ d rule key,
      q = .register d ∧ d.build = .ok rule ∧
        rule.id.key? = some key ∧
        registry.find? key = none ∧
        registry.serve q =
          (⟨registry.rules ++ [rule]⟩, .done)) ∨
    (q = .clear ∧ registry.serve q = (.empty, .done)) ∨
    (q.isClear = false ∧ (registry.serve q).1 = registry ∧
      accepted? (q, (registry.serve q).2) = none) := by
  cases q with
  | register d =>
      cases hRegister : registry.register d with
      | error e =>
          refine .inr (.inr ⟨rfl, ?_, ?_⟩)
          · simp [serve, hRegister]
          · simp [serve, hRegister, accepted?]
      | ok result =>
          rcases register_eq_ok hRegister with
            ⟨rule, key, hBuild, hKey, hFresh, hRules⟩
          refine .inl ⟨d, rule, key, rfl, hBuild, hKey,
            hFresh, ?_⟩
          simp [serve, hRegister, ← hRules]
  | clear => exact .inr (.inl ⟨rfl, rfl⟩)
  | all => exact .inr (.inr ⟨rfl, rfl, rfl⟩)
  | titles => exact .inr (.inr ⟨rfl, rfl, rfl⟩)
  | get id => exact .inr (.inr ⟨rfl, rfl, rfl⟩)
  | byCategory category =>
      exact .inr (.inr ⟨rfl, rfl, rfl⟩)
  | select ids categories =>
      exact .inr (.inr ⟨rfl, rfl, rfl⟩)

theorem serve_of_isLookup
    (registry : Registry)
    {q : Request}
    (hLookup : q.isLookup = true) :
    (registry.serve q).1 = registry := by
  rcases registry.serve_cases q with
    ⟨d, _, _, rfl, _⟩ | ⟨rfl, _⟩ | ⟨_, hSame, _⟩
  · cases hLookup
  · cases hLookup
  · exact hSame

/- A draft is accepted if it can be built and is new. -/
theorem serve_register_eq_done_iff
    (registry : Registry)
    (d : Draft) :
    (registry.serve (.register d)).2 = .done ↔
      ∃ rule key,
        d.build = .ok rule ∧ rule.id.key? = some key ∧
          registry.find? key = none := by
  constructor
  · intro hDone
    rcases registry.serve_cases (.register d) with
      ⟨d', rule, key, hSame, hBuild, hKey, hFresh, _⟩ |
      ⟨hClear, _⟩ | ⟨_, _, hNone⟩
    · cases hSame
      exact ⟨rule, key, hBuild, hKey, hFresh⟩
    · cases hClear
    · simp [accepted?, hDone] at hNone
  · rintro ⟨rule, key, hBuild, hKey, hFresh⟩
    simp [serve, register_of_build hBuild hKey hFresh]

end Registry

end SqlAudit

------------------------------------------------------------
-- Many Requests
------------------------------------------------------------

namespace SqlAudit

namespace Registry

theorem after_concat
    (registry : Registry)
    (requests : List Request)
    (q : Request) :
    registry.after (requests ++ [q]) =
      ((registry.after requests).serve q).1 := by
  simp [after]

theorem exchanges_concat
    (registry : Registry)
    (requests : List Request)
    (q : Request) :
    registry.exchanges (requests ++ [q]) =
      registry.exchanges requests ++
        [(q, ((registry.after requests).serve q).2)] := by
  induction requests generalizing registry with
  | nil => rfl
  | cons r requests ih =>
      simp [exchanges, ih, after]

/- The exchanges since the registry was last cleared. -/
def sinceClear
    (exchanged : List (Request × Reply)) :
    List (Request × Reply) :=
  exchanged.rtakeWhile fun e => !e.1.isClear

/-
  The rules after requests: those of the start, if they were
  never cleared, then those of the drafts accepted since.
-/
theorem rules_after
    (start : Registry)
    (requests : List Request) :
    ∃ made,
      List.Forall₂ (fun d rule => d.build = .ok rule)
        ((sinceClear (start.exchanges requests)).filterMap
          accepted?)
        made ∧
      (start.after requests).rules =
        (if requests.any Request.isClear then []
          else start.rules) ++ made := by
  -- A history grows at its end, so the induction does too.
  induction requests using List.reverseRecOn with
  | nil => exact ⟨[], .nil, by simp [after]⟩
  | append_singleton requests q ih =>
      rcases ih with ⟨made, hMade, hRules⟩
      rw [after_concat, exchanges_concat]
      unfold sinceClear at hMade ⊢
      rcases (start.after requests).serve_cases q with
        ⟨d, rule, key, rfl, hBuild, hKey, hFresh, hServe⟩ |
        ⟨rfl, hServe⟩ | ⟨hClear, hSame, hNone⟩
      · refine ⟨made ++ [rule], ?_, ?_⟩
        · rw [List.rtakeWhile_concat_pos _ _ _ (by rfl),
            List.filterMap_append]
          exact List.rel_append hMade
            (by simp [hServe, accepted?, hBuild])
        · simp [hServe, hRules, Request.isClear]
      · refine ⟨[], ?_, ?_⟩
        · rw [List.rtakeWhile_concat_neg _ _ _
            (by simp [Request.isClear])]
          exact .nil
        · simp [hServe, Request.isClear, empty]
      · refine ⟨made, ?_, ?_⟩
        · rw [List.rtakeWhile_concat_pos _ _ _
              (by simp [hClear]),
            List.filterMap_append]
          simpa [hNone] using hMade
        · simp [hSame, hRules, hClear]

end Registry

end SqlAudit

------------------------------------------------------------
-- Lawful Registries
------------------------------------------------------------

namespace SqlAudit

namespace Registry

/-
  All rules are well formed and have keys, and no two have
  the same one.
-/
structure Lawful (registry : Registry) : Prop where
  distinctKeys : registry.DistinctKeys
  keyed :
    ∀ rule ∈ registry.rules, ∃ key, rule.id.key? = some key
  wellFormed : ∀ rule ∈ registry.rules, rule.WellFormed

namespace Lawful

theorem of_empty : empty.Lawful where
  distinctKeys := List.nodup_nil
  keyed := by simp [empty]
  wellFormed := by simp [empty]

/- A registration keeps a registry lawful. -/
theorem of_register
    {registry result : Registry}
    {d : Draft}
    (hLawful : registry.Lawful)
    (hRegister : registry.register d = .ok result) :
    result.Lawful := by
  rcases register_eq_ok hRegister with
    ⟨rule, key, hBuild, hKey, _, hRules⟩
  refine ⟨hLawful.distinctKeys.of_register hRegister,
    ?_, ?_⟩
  · intro r hMem
    rw [hRules, List.mem_append, List.mem_singleton] at hMem
    rcases hMem with hOld | rfl
    · exact hLawful.keyed r hOld
    · exact ⟨key, hKey⟩
  · intro r hMem
    rw [hRules, List.mem_append, List.mem_singleton] at hMem
    rcases hMem with hOld | rfl
    · exact hLawful.wellFormed r hOld
    · exact Draft.build_wellFormed hBuild

theorem of_foldlM
    {drafts : List Draft}
    {registry result : Registry}
    (hLawful : registry.Lawful)
    (hFold : drafts.foldlM Registry.register registry =
      .ok result) :
    result.Lawful :=
  holds_of_foldlM Lawful Lawful.of_register hLawful hFold

theorem of_standard : standard.Lawful := by
  unfold standard
  cases hDrafts : ofDrafts Catalog.drafts with
  | error e => exact of_empty
  | ok registry => exact of_empty.of_foldlM hDrafts

/- A request keeps a registry lawful. -/
theorem serve
    {registry : Registry}
    (hLawful : registry.Lawful)
    (q : Request) :
    (registry.serve q).1.Lawful := by
  rcases registry.serve_cases q with
    ⟨d, rule, key, rfl, hBuild, hKey, hFresh, hServe⟩ |
    ⟨rfl, hServe⟩ | ⟨_, hSame, _⟩
  · rw [hServe]
    exact hLawful.of_register
      (register_of_build hBuild hKey hFresh)
  · rw [hServe]
    exact of_empty
  · rw [hSame]
    exact hLawful

/- So do requests one after the other. -/
theorem after
    {registry : Registry}
    (hLawful : registry.Lawful)
    (requests : List Request) :
    (registry.after requests).Lawful := by
  induction requests using List.reverseRecOn with
  | nil => exact hLawful
  | append_singleton requests q ih =>
      rw [after_concat]
      exact ih.serve q

/- A key leads to the one rule that has it. -/
theorem find?_eq_some_iff
    {registry : Registry}
    (hLawful : registry.Lawful)
    (key : Key)
    (rule : Rule) :
    registry.find? key = some rule ↔
      rule ∈ registry.rules ∧ rule.id.key? = some key := by
  constructor
  · intro hFind
    exact ⟨List.mem_of_find?_eq_some hFind,
      by simpa using List.find?_some hFind⟩
  · rintro ⟨hMem, hKey⟩
    cases hFind : registry.find? key with
    | none =>
        have hNot := List.find?_eq_none.mp hFind rule hMem
        simp [hKey] at hNot
    | some found =>
        have hFound : found.id.key? = some key := by
          simpa using List.find?_some hFind
        have hSame :=
          List.inj_on_of_nodup_map hLawful.distinctKeys
            (List.mem_of_find?_eq_some hFind) hMem
            (hFound.trans hKey.symm)
        rw [hSame]

theorem get_of_mem
    {registry : Registry}
    {rule : Rule}
    (hLawful : registry.Lawful)
    (hMem : rule ∈ registry.rules) :
    registry.get rule.id = .ok rule := by
  rcases hLawful.keyed rule hMem with ⟨key, hKey⟩
  have hFind :=
    (hLawful.find?_eq_some_iff key rule).mpr ⟨hMem, hKey⟩
  simp [get, hKey, hFind]

end Lawful

end Registry

end SqlAudit

------------------------------------------------------------
-- Histories
------------------------------------------------------------

namespace SqlAudit

namespace Registry

/- All built-in drafts can be registered. -/
theorem length_standard : standard.rules.length = 29 := by
  decide +kernel

/-
  Whatever requests are made to an empty registry or to that
  of the 29 built-in rules, the registry then holds the rules
  that it started with, unless it was cleared, and after them
  those of the drafts accepted since it was cleared, in
  order.  The keys of the rules are different, a key leads to
  the rule that has it, and every rule is well formed.  A
  draft that is refused changes nothing, and it is accepted
  exactly if it can be built and its key is new.  Lookups
  change nothing, and all of them read the same rules.
-/
theorem registry_is_its_history
    (start : Registry)
    (hStart : start = .empty ∨ start = .standard)
    (requests : List Request) :
    let registry := start.after requests
    let drafts :=
      (sinceClear (start.exchanges requests)).filterMap
        accepted?
    standard.rules.length = 29 ∧
    (∃ made,
      List.Forall₂ (fun d rule => d.build = .ok rule)
        drafts made ∧
      registry.rules =
        (if requests.any Request.isClear then []
          else start.rules) ++ made) ∧
    (registry.rules.map fun rule => rule.id.key?).Nodup ∧
    (∀ key rule, registry.find? key = some rule ↔
      rule ∈ registry.rules ∧ rule.id.key? = some key) ∧
    (∀ rule ∈ registry.rules,
      rule.WellFormed ∧ registry.get rule.id = .ok rule) ∧
    (∀ d e, registry.register d = .error e →
      registry.serve (.register d) =
        (registry, .refused e)) ∧
    (∀ d, (registry.serve (.register d)).2 = .done ↔
      ∃ rule key,
        d.build = .ok rule ∧ rule.id.key? = some key ∧
          registry.find? key = none) ∧
    (∀ q : Request, q.isLookup = true →
      (registry.serve q).1 = registry) ∧
    (registry.serve .all).2 = .rules registry.rules ∧
    (registry.serve (.select [] [])).2 =
      .rules registry.rules ∧
    (registry.serve .titles).2 =
      .titles (registry.rules.map fun rule =>
        (rule.id, rule.title)) ∧
    (∀ c : Category,
      (registry.serve (.byCategory (.text c.name))).2 =
        .rules (registry.rules.filter fun rule =>
          rule.category == c)) := by
  intro registry drafts
  have hFirst : start.Lawful := by
    rcases hStart with hEmpty | hStandard
    · rw [hEmpty]
      exact Lawful.of_empty
    · rw [hStandard]
      exact Lawful.of_standard
  have hLawful : registry.Lawful := hFirst.after requests
  refine ⟨length_standard, start.rules_after requests,
    hLawful.distinctKeys, hLawful.find?_eq_some_iff, ?_, ?_,
    registry.serve_register_eq_done_iff, ?_, rfl, rfl, rfl,
    ?_⟩
  · intro rule hMem
    exact ⟨hLawful.wellFormed rule hMem,
      hLawful.get_of_mem hMem⟩
  · intro d e hError
    simp [serve, hError]
  · intro q hLookup
    exact registry.serve_of_isLookup hLookup
  · intro c
    simp only [serve, byCategory_name, Reply.ofLookup]

/-
  A draft is accepted and then refused as a duplicate, the
  registry is cleared, and of two more drafts the one with a
  pattern that is no regular expression is refused.  The
  other one is all that is left.
-/
theorem registry_is_its_history_of_five_requests :
    let long : Draft := .longSample
    let malformed : Draft :=
      { long with kind := .text,
                  pattern := some (.text "(") }
    let absent : Draft :=
      { long with kind := .absent,
                  pattern := some (.text "x") }
    let requests : List Request :=
      [.register long, .register long, .clear,
        .register malformed, .register absent]
    let registry := Registry.empty.after requests
    (∃ rule,
      absent.build = .ok rule ∧ registry.rules = [rule]) ∧
    (∀ rule ∈ registry.rules, rule.WellFormed) ∧
    registry.serve (.register malformed) =
      (registry, .refused (.duplicate (.text "a"))) := by
  intro long malformed absent requests registry
  have hHistory :=
    registry_is_its_history .empty (.inl rfl) requests
  refine ⟨?_, ?_, ?_⟩
  · rcases hHistory.2.1 with ⟨made, hMade, hRules⟩
    have hDrafts :
        (sinceClear (Registry.empty.exchanges
          requests)).filterMap accepted? = [absent] := by
      rfl
    rw [hDrafts, List.forall₂_cons_left_iff] at hMade
    rcases hMade with ⟨rule, rest, hBuild, hRest, rfl⟩
    rw [List.forall₂_nil_left_iff] at hRest
    subst hRest
    exact ⟨rule, hBuild, hRules⟩
  · intro rule hMem
    exact (hHistory.2.2.2.2.1 rule hMem).1
  · exact hHistory.2.2.2.2.2.1 malformed _ rfl

end Registry

end SqlAudit
