import SqlAudit.CommandLine.Run
import SqlAudit.Proofs.Registry.Selection

/-
  The rules that accepted arguments select.

  Arguments are only accepted if every category is one of the
  choices. What can still be wrong is an identifier that no
  rule has, and then the first such identifier is reported.

  Key definitions include:
    * `SqlAudit.Options.OfChoices`
    * `SqlAudit.CommandLine.FirstUnknown`

  Key theorems include:
    * `SqlAudit.Options.ofChoices_of_parse`
    * `SqlAudit.CommandLine.selectRules_eq_error_iff`
-/

------------------------------------------------------------
-- Categories Of Accepted Arguments
------------------------------------------------------------

namespace SqlAudit

namespace Options

/- Every category is one of the choices. -/
def OfChoices (o : Options) : Prop :=
  ∀ c ∈ o.categories, c ∈ Flag.choices

namespace OfChoices

theorem set
    {o next : Options}
    {f : Flag}
    {values : List (List Char)}
    (hChoices : o.OfChoices)
    (hSet : o.set f values = .ok next) :
    next.OfChoices := by
  unfold Options.set at hSet
  cases f with
  | help => cases hSet
  | riskLevel =>
      rcases ok_of_bind_eq_ok hSet with ⟨level, _, hSet⟩
      cases hSet
      exact hChoices
  | categories =>
      dsimp only at hSet
      cases hBad :
          values.find? (!Flag.choices.contains ·) with
      | some bad =>
          simp only [hBad] at hSet
          cases hSet
      | none =>
          simp only [hBad] at hSet
          cases hSet
          intro c hMem
          simpa using List.find?_eq_none.mp hBad c hMem
  | _ =>
      cases hSet
      exact hChoices

theorem positional
    {p : Progress}
    (hChoices : p.options.OfChoices)
    (run : List Argument) :
    (p.positional run).options.OfChoices := by
  unfold Progress.positional
  split
  · exact hChoices
  · split <;> exact hChoices

theorem add
    {p next : Progress}
    {a : Argument}
    {run : List Argument}
    (hChoices : p.options.OfChoices)
    (hAdd : p.add a run = .ok next) :
    next.options.OfChoices := by
  unfold Progress.add at hAdd
  cases a with
  | option use =>
      cases hTaken : Taken.ofUse use run with
      | error e => simp [hTaken] at hAdd
      | ok taken =>
          simp only [hTaken] at hAdd
          rcases ok_of_bind_eq_ok hAdd with
            ⟨options, hFold, hAdd⟩
          cases hAdd
          apply positional
          exact holds_of_foldlM OfChoices set hChoices hFold
  | _ =>
      cases hAdd
      exact positional (p := p.leave _) hChoices run

end OfChoices

/- Accepted arguments name only categories that exist. -/
theorem ofChoices_of_parse
    {arguments : List (List Char)}
    {o : Options}
    (hParse : Options.parse arguments = .ok o) :
    o.OfChoices := by
  have hEmpty : ({} : Options).OfChoices := by
    intro c hMem
    cases hMem
  unfold parse at hParse
  cases hAll : Argument.classifyAll arguments with
  | error e => simp [hAll] at hParse
  | ok classified =>
      simp only [hAll] at hParse
      rcases ok_of_bind_eq_ok hParse with ⟨p, hFold, hParse⟩
      have hLast : p.options.OfChoices :=
        holds_of_foldlM (fun p => p.options.OfChoices)
          OfChoices.add (OfChoices.positional hEmpty _) hFold
      split at hParse
      · cases hParse
        exact hLast
      · cases hParse

end Options

end SqlAudit

------------------------------------------------------------
-- The First Unknown Identifier
------------------------------------------------------------

namespace SqlAudit

theorem Category.isSome_ofValue?_of_choice
    {s : List Char}
    (hChoice : s ∈ Flag.choices) :
    (Category.ofValue? (.text (String.ofList s))).isSome := by
  have hAll : ∀ s ∈ Flag.choices,
      (ofValue? (.text (String.ofList s))).isSome := by
    decide
  exact hAll s hChoice

namespace CommandLine

/- The identifier that an argument of `--rules` stands for. -/
def identifier (s : List Char) : Value :=
  .text (String.ofList s)

/-
  The identifier is asked for, no rule has it, and all that
  are asked for before it belong to rules.
-/
def FirstUnknown
    (registry : Registry)
    (o : Options)
    (id : Value) : Prop :=
  ∃ before s after,
    o.rules = before ++ s :: after ∧
      (∀ t ∈ before, registry.Registers (identifier t)) ∧
      ¬ registry.Registers (identifier s) ∧
      id = identifier s

theorem get_rules_eq_error_iff
    {registry : Registry}
    {o : Options}
    {e : Selection.Error} :
    (o.rules.map identifier).mapM registry.get = .error e ↔
      ∃ id, FirstUnknown registry o id ∧
        e = .unknownRule id registry.ids := by
  rw [List.mapM_map, mapM_eq_error_iff]
  constructor
  · rintro ⟨before, s, after, hSplit, hBefore, hError⟩
    rcases (Registry.get_eq_error_iff rfl).mp hError with
      ⟨hUnknown, hCause⟩
    refine ⟨identifier s,
      ⟨before, s, after, hSplit, ?_, hUnknown, rfl⟩, hCause⟩
    intro t hMem
    exact Registry.registers_iff.mpr (hBefore t hMem)
  · rintro ⟨_, ⟨before, s, after, hSplit, hBefore,
      hUnknown, rfl⟩, hCause⟩
    refine ⟨before, s, after, hSplit, ?_, ?_⟩
    · intro t hMem
      exact Registry.registers_iff.mp (hBefore t hMem)
    · exact (Registry.get_eq_error_iff rfl).mpr
        ⟨hUnknown, hCause⟩

/-
  Only an identifier that no rule has keeps accepted
  arguments from selecting rules.
-/
theorem selectRules_eq_error_iff
    {registry : Registry}
    {o : Options}
    (hChoices : o.OfChoices)
    {e : Selection.Error} :
    selectRules registry o = .error e ↔
      ∃ id, FirstUnknown registry o id ∧
        e = .unknownRule id registry.ids := by
  rw [← get_rules_eq_error_iff]
  change registry.select (o.rules.map identifier)
    (o.categories.map identifier) = .error e ↔ _
  by_cases hRules : o.rules = []
  · -- No identifiers: categories are choices, so they exist.
    rw [hRules]
    have hNone :
        (([] : List (List Char)).map identifier).mapM
          registry.get ≠ .error e := by
      simp [pure, Except.pure]
    refine iff_of_false ?_ hNone
    by_cases hCategories : o.categories = []
    · simp [hCategories, Registry.select, pure, Except.pure]
    · rw [List.map_nil, Registry.select_categories
        (by simpa using hCategories)]
      · simp
      · intro v hMem
        rcases List.mem_map.mp hMem with ⟨c, hc, rfl⟩
        exact Category.isSome_ofValue?_of_choice
          (hChoices c hc)
  · have hNe : o.rules.map identifier ≠ [] := by
      simpa using hRules
    rw [registry.select_of_ids _ hNe, bind_pure_eq_error_iff]

end CommandLine

end SqlAudit
