import Mathlib.Data.List.Perm.Basic
import SqlAudit.Proofs.Registry.Reachable
import SqlAudit.Proofs.Rule.Sample

/-
  Which rules are selected from a registry.

  A selection by identifiers or by categories takes the rules
  that are asked for out of the registry and leaves them in
  its order. It depends on what is asked for, and not on how
  often or in which order. It fails with the first thing that
  does not exist.

  Key definitions include:
    * `SqlAudit.Registry.Registers`
    * `SqlAudit.Registry.Picks`

  Key theorems include:
    * `SqlAudit.Registry.select_ids`
    * `SqlAudit.Registry.select_ids_eq_error_iff`
    * `SqlAudit.Registry.select_categories`
    * `SqlAudit.Registry.select_categories_eq_error_iff`
    * `SqlAudit.Registry.catalog_is_part_of_registry`
-/

------------------------------------------------------------
-- Registered Identifiers
------------------------------------------------------------

namespace SqlAudit

namespace Registry

/- Some rule is registered with the identifier. -/
def Registers
    (registry : Registry)
    (id : Value) : Prop :=
  ∃ key, id.key? = some key ∧
    ∃ rule ∈ registry.rules, rule.id.key? = some key

theorem get_of_registers
    {registry : Registry}
    {id : Value}
    (hRegisters : registry.Registers id) :
    ∃ rule, registry.get id = .ok rule ∧
      rule.id.key? = id.key? := by
  rcases hRegisters with ⟨key, hKey, rule, hMem, hRule⟩
  cases hFind : registry.find? key with
  | none =>
      have hNot := List.find?_eq_none.mp hFind rule hMem
      simp [hRule] at hNot
  | some found =>
      have hFound : found.id.key? = some key := by
        simpa using List.find?_some hFind
      exact ⟨found, by simp [get, hKey, hFind],
        hFound.trans hKey.symm⟩

/- Identifiers are looked up with success or not at all. -/
theorem registers_iff
    {registry : Registry}
    {id : Value} :
    registry.Registers id ↔
      ∃ rule, registry.get id = .ok rule := by
  constructor
  · intro hRegisters
    rcases get_of_registers hRegisters with ⟨rule, hRule, _⟩
    exact ⟨rule, hRule⟩
  · rintro ⟨rule, hGet⟩
    unfold get at hGet
    cases hKey : id.key? with
    | none => simp [hKey] at hGet
    | some key =>
        cases hFind : registry.find? key with
        | none => simp [hKey, hFind] at hGet
        | some found =>
            have hFound : found.id.key? = some key := by
              simpa using List.find?_some hFind
            exact ⟨key, hKey, found,
              List.mem_of_find?_eq_some hFind, hFound⟩

/- What can be a key can only be missing. -/
theorem get_eq_error_iff
    {registry : Registry}
    {id : Value}
    {key : Key}
    (hKey : id.key? = some key)
    {e : Selection.Error} :
    registry.get id = .error e ↔
      ¬ registry.Registers id ∧
        e = .unknownRule id registry.ids := by
  rw [registers_iff]
  simp only [get, hKey]
  cases registry.find? key with
  | none => simp [eq_comm]
  | some rule => simp

theorem of_get_eq_error
    {registry : Registry}
    {id : Value}
    {e : Selection.Error}
    (hGet : registry.get id = .error e) :
    ¬ registry.Registers id ∧
      (id.key?.isSome = true →
        e = .unknownRule id registry.ids) := by
  constructor
  · rw [registers_iff, hGet]
    simp
  · intro hKey
    rcases Option.isSome_iff_exists.mp hKey with ⟨key, hKey⟩
    exact ((get_eq_error_iff hKey).mp hGet).2

end Registry

end SqlAudit

------------------------------------------------------------
-- Selections By Identifiers
------------------------------------------------------------

namespace SqlAudit

namespace Registry

theorem select_of_ids
    (registry : Registry)
    {ids : List Value}
    (categories : List Value)
    (hNe : ids ≠ []) :
    registry.select ids categories =
      ids.mapM registry.get >>= fun wanted =>
        pure (registry.rules.filter fun rule =>
          (wanted.map fun rule => rule.id.key?).contains
            rule.id.key?) := by
  have hSome : (!ids.isEmpty) = true := by simpa using hNe
  simp only [select, hSome, if_true]

/- Identifiers select the rules that have their keys. -/
theorem select_ids
    {registry : Registry}
    {ids : List Value}
    (categories : List Value)
    (hNe : ids ≠ [])
    (hIds : ∀ id ∈ ids, registry.Registers id) :
    registry.select ids categories =
      .ok (registry.rules.filter fun rule =>
        (ids.map Value.key?).contains rule.id.key?) := by
  rcases exists_mapM_eq_ok fun id hid =>
    get_of_registers (hIds id hid) with
    ⟨wanted, hWanted, hKeys⟩
  rw [select_of_ids registry categories hNe, hWanted, ← hKeys]
  rfl

/- The first identifier that no rule has is the error. -/
theorem select_ids_eq_error_iff
    {registry : Registry}
    {ids : List Value}
    (categories : List Value)
    (hNe : ids ≠ [])
    {e : Selection.Error} :
    registry.select ids categories = .error e ↔
      ∃ before id after,
        ids = before ++ id :: after ∧
          (∀ x ∈ before, registry.Registers x) ∧
          registry.get id = .error e := by
  rw [select_of_ids registry categories hNe,
    bind_pure_eq_error_iff, mapM_eq_error_iff]
  simp only [registers_iff]

end Registry

end SqlAudit

------------------------------------------------------------
-- Selections By Categories
------------------------------------------------------------

namespace SqlAudit

/- A category is named by its name only. -/
theorem Category.ofValue?_eq_some_iff
    {v : Value}
    {c : Category} :
    ofValue? v = some c ↔ v = .text c.name := by
  constructor
  · intro hValue
    cases v with
    | text s =>
        have hName := List.find?_some hValue
        rw [beq_iff_eq] at hName
        rw [hName]
    | _ => cases hValue
  · rintro rfl
    cases c with
    | logicalDesign => rfl
    | physicalDesign => rfl
    | query => rfl
    | application => rfl

namespace Registry

theorem category_eq_ok_iff
    {v : Value}
    {c : Category} :
    category v = .ok c ↔ Category.ofValue? v = some c := by
  unfold category
  cases Category.ofValue? v with
  | none => simp
  | some d => simp

theorem category_eq_error_iff
    {v : Value}
    {e : Selection.Error} :
    category v = .error e ↔
      (∀ c : Category, v ≠ .text c.name) ∧
        e = .unknownCategory v := by
  simp only [ne_eq, ← Category.ofValue?_eq_some_iff]
  unfold category
  cases Category.ofValue? v with
  | none => simp [eq_comm]
  | some d => simp

theorem select_of_categories
    (registry : Registry)
    {categories : List Value}
    (hNe : categories ≠ []) :
    registry.select [] categories =
      categories.mapM category >>= fun wanted =>
        pure (registry.rules.filter fun rule =>
          wanted.contains rule.category) := by
  have hSome : (!categories.isEmpty) = true := by
    simpa using hNe
  simp only [select, List.isEmpty_nil, Bool.not_true,
    Bool.false_eq_true, if_false, hSome, if_true]

/- Categories select the rules that belong to them. -/
theorem select_categories
    {registry : Registry}
    {categories : List Value}
    (hNe : categories ≠ [])
    (hNames :
      ∀ v ∈ categories, (Category.ofValue? v).isSome) :
    registry.select [] categories =
      .ok (registry.rules.filter fun rule =>
        (categories.map Category.ofValue?).contains
          (some rule.category)) := by
  have hEach :
      ∀ v ∈ categories, ∃ c, category v = .ok c ∧
        some c = Category.ofValue? v := by
    intro v hv
    rcases Option.isSome_iff_exists.mp (hNames v hv) with
      ⟨c, hc⟩
    exact ⟨c, category_eq_ok_iff.mpr hc, hc.symm⟩
  rcases exists_mapM_eq_ok hEach with
    ⟨wanted, hWanted, hSame⟩
  have hContains :
      ∀ c, (categories.map Category.ofValue?).contains
        (some c) = wanted.contains c := by
    intro c
    rw [← hSame, Bool.eq_iff_iff]
    simp
  rw [select_of_categories registry hNe, hWanted]
  simp only [hContains]
  rfl

/- The first value that names no category is the error. -/
theorem select_categories_eq_error_iff
    {registry : Registry}
    {categories : List Value}
    (hNe : categories ≠ [])
    {e : Selection.Error} :
    registry.select [] categories = .error e ↔
      ∃ before v after,
        categories = before ++ v :: after ∧
          (∀ x ∈ before, ∃ c : Category, x = .text c.name) ∧
          (∀ c : Category, v ≠ .text c.name) ∧
          e = .unknownCategory v := by
  rw [select_of_categories registry hNe,
    bind_pure_eq_error_iff, mapM_eq_error_iff]
  simp only [category_eq_ok_iff, category_eq_error_iff,
    Category.ofValue?_eq_some_iff]

theorem byCategory_name
    (registry : Registry)
    (c : Category) :
    registry.byCategory (.text c.name) =
      .ok (registry.rules.filter fun rule =>
        rule.category == c) := by
  have hCategory : category (.text c.name) = .ok c :=
    category_eq_ok_iff.mpr
      (Category.ofValue?_eq_some_iff.mpr rfl)
  rw [byCategory, hCategory]
  rfl

end Registry

end SqlAudit

------------------------------------------------------------
-- Parts Of A Registry
------------------------------------------------------------

namespace SqlAudit

namespace Registry

/-
  The catalog holds the wanted rules of the registry, in the
  order of the registry and none of them twice.
-/
structure Picks
    (registry : Registry)
    (wanted : Rule → Prop)
    (catalog : List Rule) : Prop where
  sublist : catalog.Sublist registry.rules
  nodup : (catalog.map fun rule => rule.id.key?).Nodup
  mem_iff :
    ∀ rule, rule ∈ catalog ↔
      rule ∈ registry.rules ∧ wanted rule

theorem DistinctKeys.picks_filter
    {registry : Registry}
    (hKeys : registry.DistinctKeys)
    {wanted : Rule → Prop}
    {chosen : Rule → Bool}
    (hChosen : ∀ rule, chosen rule = true ↔ wanted rule) :
    registry.Picks wanted (registry.rules.filter chosen) where
  sublist := List.filter_sublist
  nodup := hKeys.sublist (List.filter_sublist.map _)
  mem_iff rule := by rw [List.mem_filter, hChosen]

section Identifiers

variable {registry : Registry}
variable {ids categories : List Value}
variable {catalog : List Rule}

theorem registers_of_select
    (hNe : ids ≠ [])
    (hSelect : registry.select ids categories = .ok catalog) :
    ∀ id ∈ ids, registry.Registers id := by
  intro id hMem
  rw [select_of_ids registry categories hNe] at hSelect
  rcases ok_of_bind_eq_ok hSelect with ⟨wanted, hMap, _⟩
  exact registers_iff.mpr (ok_of_mapM_eq_ok hMap id hMem)

theorem DistinctKeys.picks_of_select_ids
    (hKeys : registry.DistinctKeys)
    (hNe : ids ≠ [])
    (hSelect : registry.select ids categories = .ok catalog) :
    registry.Picks
      (fun rule => ∃ id ∈ ids, id.key? = rule.id.key?)
      catalog := by
  rw [select_ids categories hNe
    (registers_of_select hNe hSelect)] at hSelect
  rw [← Except.ok.inj hSelect]
  apply hKeys.picks_filter
  simp

/- Only which identifiers are given matters. -/
theorem select_ids_congr
    {ids' : List Value}
    (hNe : ids ≠ [])
    (hSame : ∀ id, id ∈ ids' ↔ id ∈ ids)
    (hSelect : registry.select ids categories = .ok catalog) :
    registry.select ids' categories = .ok catalog := by
  have hIds := registers_of_select hNe hSelect
  have hNe' : ids' ≠ [] := by
    rcases List.exists_mem_of_ne_nil ids hNe with ⟨id, hMem⟩
    exact List.ne_nil_of_mem ((hSame id).mpr hMem)
  have hIds' : ∀ id ∈ ids', registry.Registers id :=
    fun id hMem => hIds id ((hSame id).mp hMem)
  rw [← hSelect, select_ids categories hNe hIds,
    select_ids categories hNe' hIds']
  simp [hSame]

end Identifiers

section Categories

variable {registry : Registry}
variable {categories : List Value}
variable {catalog : List Rule}

theorem names_of_select
    (hNe : categories ≠ [])
    (hSelect : registry.select [] categories = .ok catalog) :
    ∀ v ∈ categories, ∃ c : Category, v = .text c.name := by
  intro v hMem
  rw [select_of_categories registry hNe] at hSelect
  rcases ok_of_bind_eq_ok hSelect with ⟨wanted, hMap, _⟩
  rcases ok_of_mapM_eq_ok hMap v hMem with ⟨c, hc⟩
  exact ⟨c, Category.ofValue?_eq_some_iff.mp
    (category_eq_ok_iff.mp hc)⟩

theorem select_names
    (hNe : categories ≠ [])
    (hNames :
      ∀ v ∈ categories, ∃ c : Category, v = .text c.name) :
    registry.select [] categories =
      .ok (registry.rules.filter fun rule =>
        (categories.map Category.ofValue?).contains
          (some rule.category)) := by
  apply select_categories hNe
  intro v hMem
  rcases hNames v hMem with ⟨c, hc⟩
  exact Option.isSome_iff_exists.mpr
    ⟨c, Category.ofValue?_eq_some_iff.mpr hc⟩

theorem contains_categories_iff
    {c : Category} :
    (categories.map Category.ofValue?).contains (some c) =
        true ↔
      .text c.name ∈ categories := by
  simp only [List.contains_iff_mem, List.mem_map,
    Category.ofValue?_eq_some_iff, exists_eq_right]

theorem DistinctKeys.picks_of_select_categories
    (hKeys : registry.DistinctKeys)
    (hNe : categories ≠ [])
    (hSelect : registry.select [] categories = .ok catalog) :
    registry.Picks
      (fun rule => .text rule.category.name ∈ categories)
      catalog := by
  rw [select_names hNe (names_of_select hNe hSelect)]
    at hSelect
  rw [← Except.ok.inj hSelect]
  apply hKeys.picks_filter
  intro rule
  exact contains_categories_iff

/- Only which categories are given matters. -/
theorem select_categories_congr
    {categories' : List Value}
    (hNe : categories ≠ [])
    (hSame : ∀ v, v ∈ categories' ↔ v ∈ categories)
    (hSelect : registry.select [] categories = .ok catalog) :
    registry.select [] categories' = .ok catalog := by
  have hNames := names_of_select hNe hSelect
  have hNe' : categories' ≠ [] := by
    rcases List.exists_mem_of_ne_nil categories hNe with
      ⟨v, hMem⟩
    exact List.ne_nil_of_mem ((hSame v).mpr hMem)
  rw [← hSelect, select_names hNe hNames,
    select_names hNe' fun v hMem =>
      hNames v ((hSame v).mp hMem)]
  refine congrArg Except.ok (List.filter_congr ?_)
  intro rule _
  rw [Bool.eq_iff_iff, contains_categories_iff,
    contains_categories_iff, hSame]

end Categories

end Registry

end SqlAudit

------------------------------------------------------------
-- The Four Categories
------------------------------------------------------------

namespace SqlAudit

namespace Registry

/- Each rule belongs to one of the categories. -/
theorem flatMap_category_perm
    (rules : List Rule) :
    (Category.all.flatMap fun c =>
      rules.filter fun rule => rule.category == c).Perm
        rules := by
  induction rules with
  | nil => exact .refl []
  | cons rule rules ih =>
      let head := fun c =>
        if rule.category = c then [rule] else []
      let tail := fun c =>
        rules.filter fun rule => rule.category == c
      have hSplit :
          ∀ c, (rule :: rules).filter
            (fun rule => rule.category == c) =
              head c ++ tail c := by
        intro c
        by_cases hCategory : rule.category = c
        · simp [head, tail, hCategory]
        · simp [head, tail, hCategory]
      have hHead : Category.all.flatMap head = [rule] := by
        simp only [head]
        cases rule.category with
        | logicalDesign => rfl
        | physicalDesign => rfl
        | query => rfl
        | application => rfl
      have hParts :=
        (List.flatMap_append_perm Category.all head tail).symm
      rw [hHead] at hParts
      simp only [hSplit]
      exact hParts.trans (ih.cons rule)

/- A single category selects its own rules. -/
theorem select_singleton
    (registry : Registry)
    (v : Value) :
    registry.select [] [v] = registry.byCategory v := by
  rw [select_of_categories registry (List.cons_ne_nil v []),
    byCategory, List.mapM_cons, List.mapM_nil]
  cases category v with
  | error e => rfl
  | ok c =>
      change Except.ok _ = Except.ok _
      refine congrArg Except.ok (List.filter_congr ?_)
      simp [Bool.beq_eq_decide_eq]

end Registry

end SqlAudit

------------------------------------------------------------
-- Selecting
------------------------------------------------------------

namespace SqlAudit

namespace Registry

/-
  Identifiers select the rules that have them, whatever the
  categories, as long as each of them is registered; else the
  first one that is not is the error. Without identifiers,
  categories select the rules that belong to them, as long as
  each of them exists; else the first one that does not is
  the error. A selection keeps the order of the registry, and
  the order and the number of times in which something is
  asked for do not matter. Each rule belongs to one of the
  four categories. If nothing is asked for, all rules are
  selected.
-/
theorem catalog_is_part_of_registry
    (registry : Registry)
    (hReachable : registry.Reachable) :
    (∀ ids categories : List Value, ids ≠ [] →
      (∀ others, registry.select ids others =
        registry.select ids categories) ∧
      ((∃ catalog,
        registry.select ids categories = .ok catalog) ↔
          ∀ id ∈ ids, registry.Registers id) ∧
      (∀ catalog,
        registry.select ids categories = .ok catalog →
        registry.Picks
            (fun rule => ∃ id ∈ ids, id.key? = rule.id.key?)
            catalog ∧
          ∀ ids' : List Value, (∀ id, id ∈ ids' ↔ id ∈ ids) →
            registry.select ids' categories = .ok catalog) ∧
      (∀ e, registry.select ids categories = .error e ↔
        ∃ before id after,
          ids = before ++ id :: after ∧
            (∀ x ∈ before, registry.Registers x) ∧
            ¬ registry.Registers id ∧
            registry.get id = .error e ∧
            (id.key?.isSome = true →
              e = .unknownRule id registry.ids))) ∧
    (∀ categories : List Value, categories ≠ [] →
      ((∃ catalog,
        registry.select [] categories = .ok catalog) ↔
          ∀ v ∈ categories,
            ∃ c : Category, v = .text c.name) ∧
      (∀ catalog,
        registry.select [] categories = .ok catalog →
        registry.Picks
            (fun rule => .text rule.category.name ∈ categories)
            catalog ∧
          ∀ categories' : List Value,
            (∀ v, v ∈ categories' ↔ v ∈ categories) →
            registry.select [] categories' = .ok catalog) ∧
      (∀ e, registry.select [] categories = .error e ↔
        ∃ before v after,
          categories = before ++ v :: after ∧
            (∀ x ∈ before, ∃ c : Category, x = .text c.name) ∧
            (∀ c : Category, v ≠ .text c.name) ∧
            e = .unknownCategory v)) ∧
    (∀ v, registry.select [] [v] = registry.byCategory v) ∧
    (∃ part : Category → List Rule,
      (∀ c, registry.byCategory (.text c.name) =
        .ok (part c)) ∧
      (Category.all.flatMap part).Perm registry.rules ∧
      (∀ rule ∈ registry.rules, ∃! c, rule ∈ part c)) ∧
    registry.select [] [] = .ok registry.rules := by
  have hKeys := hReachable.distinctKeys
  refine ⟨?_, ?_, registry.select_singleton, ?_, rfl⟩
  · intro ids categories hNe
    refine ⟨?_, ?_, ?_, ?_⟩
    · intro others
      rw [select_of_ids registry others hNe,
        select_of_ids registry categories hNe]
    · constructor
      · rintro ⟨catalog, hSelect⟩
        exact registers_of_select hNe hSelect
      · intro hIds
        exact ⟨_, select_ids categories hNe hIds⟩
    · intro catalog hSelect
      exact ⟨hKeys.picks_of_select_ids hNe hSelect,
        fun ids' hSame => select_ids_congr hNe hSame hSelect⟩
    · intro e
      rw [select_ids_eq_error_iff categories hNe]
      constructor
      · rintro ⟨before, id, after, hSplit, hBefore, hGet⟩
        rcases of_get_eq_error hGet with ⟨hNot, hKeyed⟩
        exact ⟨before, id, after, hSplit, hBefore, hNot,
          hGet, hKeyed⟩
      · rintro ⟨before, id, after, hSplit, hBefore, _, hGet,
          _⟩
        exact ⟨before, id, after, hSplit, hBefore, hGet⟩
  · intro categories hNe
    refine ⟨?_, ?_,
      fun e => select_categories_eq_error_iff hNe⟩
    · constructor
      · rintro ⟨catalog, hSelect⟩
        exact names_of_select hNe hSelect
      · intro hNames
        exact ⟨_, select_names hNe hNames⟩
    · intro catalog hSelect
      exact ⟨hKeys.picks_of_select_categories hNe hSelect,
        fun _ hSame =>
          select_categories_congr hNe hSame hSelect⟩
  · refine ⟨_, registry.byCategory_name,
      flatMap_category_perm registry.rules, ?_⟩
    intro rule hMem
    simp [hMem]

/-
  Of two rules the second is selected, although it is asked
  for twice and the category does not exist. Of two
  identifiers that no rule has, the first is the error.
-/
theorem catalog_is_part_of_registry_of_two_rules :
    let first : Rule := .longSample
    let second : Rule := { first with id := .text "b" }
    let registry : Registry := ⟨[first, second]⟩
    let ids := [.text "b", .text "b"]
    registry.Reachable ∧
      registry.select ids [.null] = .ok [second] ∧
      registry.Picks
        (fun rule => ∃ id ∈ ids, Value.key? id = rule.id.key?)
        [second] ∧
      registry.select [.text "c", .text "d"] [] =
        .error (.unknownRule (.text "c") registry.ids) := by
  intro first second registry ids
  have hReachable : registry.Reachable := by
    have hFirst : Reachable ⟨[first]⟩ :=
      .register (d := .longSample) .empty rfl
    exact .register
      (d := { Draft.longSample with id := some (.text "b") })
      hFirst rfl
  have hSelection :=
    catalog_is_part_of_registry registry hReachable
  have hSelect : registry.select ids [.null] = .ok [second] := rfl
  have hIds := hSelection.1 ids [.null] (by simp [ids])
  refine ⟨hReachable, hSelect, (hIds.2.2.1 _ hSelect).1, ?_⟩
  have hNone :
      ¬ registry.Registers (.text "c") := by
    rw [registers_iff]
    rintro ⟨rule, hRule⟩
    cases hRule
  have hOthers :=
    hSelection.1 [.text "c", .text "d"] [] (by simp)
  apply (hOthers.2.2.2 _).mpr
  exact ⟨[], .text "c", [.text "d"], rfl, by simp, hNone, rfl,
    fun _ => rfl⟩

end Registry

end SqlAudit
