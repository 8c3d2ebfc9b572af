import SqlAudit.Proofs.Regex.Vocabulary
import SqlAudit.Proofs.Registry.History
import SqlAudit.Proofs.Rule.Threshold

/-
  What a built-in rule recognises.

  A rule recognises a property of texts if it answers on
  every text and fires exactly on those with the property.
  The rule of a draft whose pattern is a wording recognises
  the texts that its guard admits and in which one of the
  motifs occurs, or none of them if the rule is about their
  absence.

  Key definitions include:
    * `SqlAudit.Catalog.Recognises`
    * `SqlAudit.Catalog.Worded`

  Key theorems include:
    * `SqlAudit.Catalog.exists_rule_of_mem`
    * `SqlAudit.Catalog.Worded.recognises`
    * `SqlAudit.Catalog.Worded.recognises_absence`
-/

------------------------------------------------------------
-- Rules Of The Catalog
------------------------------------------------------------

namespace SqlAudit

namespace Catalog

/- A built-in draft makes the rule that goes by its id. -/
theorem exists_rule_of_mem
    {d : Draft}
    (hMem : d ∈ Catalog.drafts) :
    ∃ rule,
      d.build = .ok rule ∧
        Registry.standard.get rule.id = .ok rule := by
  have hRules : Registry.standard.rules ≠ [] := by
    intro hNone
    have hLength := Registry.length_standard
    rw [hNone] at hLength
    cases hLength
  rcases Registry.exists_rule_of_mem_toOption_getD
    hRules hMem with ⟨rule, hRule, hBuild⟩
  have hLawful := Registry.Lawful.of_standard
  exact ⟨rule, hBuild, hLawful.get_of_mem hRule⟩

end Catalog

end SqlAudit

------------------------------------------------------------
-- Recognition
------------------------------------------------------------

namespace SqlAudit

/- The guard lets through what the test may fire on. -/
theorem Rule.exists_evaluate_of_outcome
    {rule : Rule}
    {s : Statement}
    {m : Match}
    (hOutcome : rule.outcome s = .ok m) :
    ∃ seen,
      rule.evaluate s = .ok seen ∧
        (seen.fired = true ↔
          rule.guard.admits s = true ∧ m.fired = true) := by
  unfold evaluate applies
  by_cases hAdmits : rule.guard.admits s = true
  · exact ⟨m, by rw [if_pos hAdmits, hOutcome],
      by simp [hAdmits]⟩
  · exact ⟨.none, by rw [if_neg hAdmits],
      by simp [hAdmits, Match.none]⟩

namespace Catalog

/-
  The built-in rule with an identifier answers on every
  text, and fires exactly if the text in small letters has a
  property.
-/
def Recognises
    (id : String)
    (Holds : List Char → Prop) : Prop :=
  ∃ rule,
    Registry.standard.get (.text id) = .ok rule ∧
      ∀ text, ∃ m,
        rule.evaluate (.ofText text) = .ok m ∧
          (m.fired = true ↔ Holds (Text.lower text))

/-
  A built-in draft of a kind, with an identifier and with a
  wording for its pattern. It sets no threshold.
-/
structure Worded
    (d : Draft)
    (kind : Draft.Kind)
    (id : String)
    (wording : Regex.Wording) : Prop where
  mem : d ∈ Catalog.drafts := by
    simp [Catalog.drafts, LogicalDesign.drafts,
      PhysicalDesign.drafts, Query.drafts, Application.drafts]
  kind_eq : d.kind = kind := by rfl
  id_eq : d.id = some (.text id) := by rfl
  pattern_eq :
    d.pattern = some (.text (String.ofList wording.text)) := by
      rfl
  leastOccurrences_eq : d.leastOccurrences = none := by rfl

theorem Recognises.congr
    {id : String}
    {Holds Other : List Char → Prop}
    (hRecognises : Recognises id Holds)
    (hSame : ∀ t, Holds t ↔ Other t) :
    Recognises id Other := by
  have hEq : Holds = Other := funext fun t => propext (hSame t)
  rwa [← hEq]

end Catalog

/- A pattern that is given as a text is read from it. -/
theorem Draft.compile_text_eq_ok
    {id : Value}
    {source : String}
    {p : Pattern}
    (hCompile : compile id (some (.text source)) = .ok p) :
    Regex.parse source.toList = .ok p.regex := by
  unfold compile at hCompile
  simp only [Option.getD_some] at hCompile
  split at hCompile
  · cases hCompile
  · rcases compileText_eq_ok hCompile with
      ⟨hSource, hWellFormed⟩
    rw [← hSource]
    exact hWellFormed.parse_source

namespace Catalog

namespace Worded

variable {d : Draft}
variable {kind : Draft.Kind}
variable {id : String}
variable {wording : Regex.Wording}

theorem regex_eq
    (hWorded : Worded d kind id wording)
    {ruleId : Value}
    {p : Pattern}
    (hCompile : Draft.compile ruleId d.pattern = .ok p) :
    p.regex = wording.regex := by
  rw [hWorded.pattern_eq] at hCompile
  have hParse := Draft.compile_text_eq_ok hCompile
  rw [String.toList_ofList, wording.parse_text] at hParse
  exact (Except.ok.inj hParse).symm

/- A rule recognises what its test does behind its guard. -/
theorem recognises_of_outcome
    (hWorded : Worded d kind id wording)
    {Holds : List Char → Prop}
    (hOutcome : ∀ ruleId test,
      d.test ruleId = .ok test →
      ∀ s, ∃ m,
        test.outcome s = .ok m ∧
          (m.fired = true ↔ Holds s.text)) :
    Recognises id fun t =>
      d.guardOrDefault.admits ⟨t⟩ = true ∧ Holds t := by
  rcases exists_rule_of_mem hWorded.mem with
    ⟨rule, hBuild, hGet⟩
  rcases Draft.build_eq_ok hBuild with
    ⟨_, hId, _, _, _, _, _, _, _, hGuard, hTest⟩
  have hSame : rule.id = .text id :=
    Option.some.inj (hId.symm.trans hWorded.id_eq)
  refine ⟨rule, hSame ▸ hGet, fun text => ?_⟩
  rcases hOutcome _ _ hTest (.ofText text) with
    ⟨m, hMatch, hHolds⟩
  rcases rule.exists_evaluate_of_outcome hMatch with
    ⟨seen, hEvaluate, hFired⟩
  refine ⟨seen, hEvaluate, ?_⟩
  rw [hFired, hHolds, hGuard]
  rfl

/- Some motif of the wording occurs. -/
theorem recognises
    (hWorded : Worded d .text id wording) :
    Recognises id fun t =>
      d.guardOrDefault.admits ⟨t⟩ = true ∧
        ∃ motif ∈ wording.motifs, motif.Occurs t := by
  apply hWorded.recognises_of_outcome
  intro ruleId test hTest s
  unfold Draft.test at hTest
  simp only [hWorded.kind_eq, hWorded.leastOccurrences_eq,
    Option.getD_none] at hTest
  rcases ok_of_bind_eq_ok hTest with ⟨least, hLeast, hTest⟩
  rcases ok_of_bind_eq_ok hTest with ⟨p, hCompile, hTest⟩
  have hOne : 1 = least := Except.ok.inj hLeast
  subst hOne
  cases hTest
  refine ⟨_, Test.outcome_occurs p 1 s, ?_⟩
  rw [decide_eq_true_iff, ← wording.occursIn_iff,
    ← hWorded.regex_eq hCompile,
    Regex.occursIn_iff_count_ne_zero]
  exact Nat.one_le_iff_ne_zero

/- The same, if the rule is about all texts. -/
theorem recognises_of_always
    (hWorded : Worded d .text id wording)
    (hGuard : d.guardOrDefault = .always) :
    Recognises id fun t =>
      ∃ motif ∈ wording.motifs, motif.Occurs t := by
  apply hWorded.recognises.congr
  intro t
  simp [hGuard, Guard.admits]

/- No motif of the wording occurs. -/
theorem recognises_absence
    (hWorded : Worded d .absent id wording) :
    Recognises id fun t =>
      d.guardOrDefault.admits ⟨t⟩ = true ∧
        ¬∃ motif ∈ wording.motifs, motif.Occurs t := by
  apply hWorded.recognises_of_outcome
  intro ruleId test hTest s
  unfold Draft.test at hTest
  simp only [hWorded.kind_eq] at hTest
  rcases ok_of_bind_eq_ok hTest with ⟨p, hCompile, hTest⟩
  cases hTest
  refine ⟨_, Test.outcome_absent p s, ?_⟩
  rw [decide_eq_true_iff, ← wording.occursIn_iff,
    ← hWorded.regex_eq hCompile,
    Regex.occursIn_iff_count_ne_zero, not_not]

end Worded

end Catalog

end SqlAudit
