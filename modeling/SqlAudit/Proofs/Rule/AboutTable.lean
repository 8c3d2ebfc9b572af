import SqlAudit.Proofs.Check.Outcome
import SqlAudit.Proofs.Rule.WellFormed
import SqlAudit.Proofs.Statement.TableName
import SqlAudit.Proofs.Template.Outline

/-
  Rules about the table that a statement creates.

  A rule that has been made can fail on a statement in one way
  only: its template gives no pattern for the table there. The
  template was tried on one sample. If it is an outline, the
  sample says it all: the template is accepted exactly if it
  never fails. In other templates, a table can become part of
  an operator, and then the sample says little.

  Key theorems include:
    * `SqlAudit.Template.Outline.wellFormed_iff`
    * `SqlAudit.Rule.outcome_eq_error_iff`
    * `SqlAudit.Rule.rule_fails_only_by_table`
-/

------------------------------------------------------------
-- What The Sample Says
------------------------------------------------------------

namespace SqlAudit

namespace Template

namespace Outline

variable (outline : Outline)

theorem escape_sampleTable :
    Regex.escape Draft.sampleTable = Draft.sampleTable := by
  decide

/- A foreign key that refers to the table. -/
def references : Outline where
  slots :=
    .part (.opening .remembering) ::
      ("references".toList.map fun c => .part (.literal c)) ++
      [.part (.escaped 's'), .part (.repeated .plus .greedy),
        .table, .part .closing]
  spelled := by decide
  joined := by decide

/- The sample is one table among others. -/
theorem exists_tablePattern_sample_iff
    {table : List Char}
    (hTable : table ≠ []) :
    (∃ r, tablePattern outline.text table = .ok r) ↔
      ∃ r, tablePattern outline.text Draft.sampleTable =
        .ok r := by
  have hSample : Draft.sampleTable ≠ [] := by decide
  rw [outline.exists_tablePattern_iff hTable,
    outline.exists_tablePattern_iff hSample,
    outline.completes_parts hTable hSample]

theorem slots_ne_nil
    (hHolds : placeholder <:+: outline.text) :
    outline.slots ≠ [] := by
  intro hNone
  have hText : outline.text = [] := by
    simp [text, hNone]
  rw [hText] at hHolds
  exact absurd (List.infix_nil.mp hHolds) (by decide)

/- A pattern that is made from an outline is not empty. -/
theorem filled_ne_nil
    (hSlots : outline.slots ≠ [])
    {table : List Char}
    (hTable : table ≠ []) :
    outline.slots.flatMap (Slot.filled table) ≠ [] := by
  rcases List.exists_cons_of_ne_nil hSlots with
    ⟨slot, slots, hCons⟩
  rw [hCons, List.flatMap_cons]
  apply List.append_ne_nil_of_left_ne_nil
  cases slot with
  | table => exact hTable
  | part p => exact p.text_ne_nil

/-
  An outline is well formed exactly if it holds the table
  and gives a pattern for every table.
-/
theorem wellFormed_iff :
    WellFormed outline.text ↔
      placeholder <:+: outline.text ∧
        ∀ table, table ≠ [] →
          ∃ r, tablePattern outline.text table = .ok r := by
  have hSome : Draft.sampleTable ≠ [] := by decide
  constructor
  · rintro ⟨hHolds, sample, r, hFill, _, hParse⟩
    refine ⟨hHolds, ?_⟩
    intro table hTable
    apply (outline.exists_tablePattern_sample_iff hTable).mpr
    exact ⟨r, by
      simp [tablePattern, escape_sampleTable, hFill, hParse]⟩
  · rintro ⟨hHolds, hEvery⟩
    rcases hEvery Draft.sampleTable hSome with ⟨r, hPattern⟩
    have hFill := outline.fill_text Draft.sampleTable
    have hFilled := outline.filled_ne_nil
      (outline.slots_ne_nil hHolds) hSome
    refine ⟨hHolds, _, r, hFill, hFilled, ?_⟩
    simp only [tablePattern, escape_sampleTable, hFill]
      at hPattern
    cases hParse : Regex.parse
        (outline.slots.flatMap
          (Slot.filled Draft.sampleTable)) with
    | error e => simp [hParse] at hPattern
    | ok r' => simpa [hParse] using hPattern

end Outline

end Template

namespace Draft

/- A template that works for the sample is accepted. -/
theorem tryTemplate_of_wellFormed
    (id : Value)
    {source : List Char}
    (hWellFormed : Template.WellFormed source) :
    tryTemplate id source = .ok () := by
  rcases hWellFormed with
    ⟨hHolds, sample, r, hFill, hSome, hParse⟩
  have hOccurs := Text.occurs_iff_isInfix.mpr hHolds
  simp [tryTemplate, compileText, hOccurs, hFill, hSome,
    hParse, bind, Except.bind, pure, Except.pure]

end Draft

end SqlAudit

------------------------------------------------------------
-- Faults Of Rules
------------------------------------------------------------

namespace SqlAudit

/-
  A test fails exactly if it is about the table, there is
  one, and the template gives no pattern for it.
-/
theorem Test.outcome_eq_error_iff
    {test : Test}
    {s : Statement}
    {e : Fault} :
    test.outcome s = .error e ↔
      ∃ template table,
        test = .aboutTable template ∧
          s.tableName = some table ∧
          tablePattern template table = .error e := by
  cases test with
  | occurs p least => simp [Test.outcome]
  | absent p => simp [Test.outcome]
  | long least => simp [Test.outcome]
  | aboutTable template =>
      cases hTable : s.tableName with
      | none => simp [Test.outcome, hTable]
      | some table =>
          cases hPattern : tablePattern template table with
          | error e' =>
              simp [Test.outcome, hTable, hPattern, bind,
                Except.bind]
          | ok r =>
              simp [Test.outcome, hTable, hPattern, bind,
                Except.bind, pure, Except.pure]

theorem Test.exists_outcome_of_patterns
    {template : List Char}
    (hPatterns : ∀ table, table ≠ [] →
      ∃ r, tablePattern template table = .ok r)
    (s : Statement) :
    ∃ m, (Test.aboutTable template).outcome s = .ok m := by
  cases hOutcome : (Test.aboutTable template).outcome s with
  | ok m => exact ⟨m, rfl⟩
  | error e =>
      rcases Test.outcome_eq_error_iff.mp hOutcome with
        ⟨_, table, hSame, hTable, hFault⟩
      cases hSame
      rcases hPatterns table
        (Statement.tableName_ne_nil hTable) with ⟨r, hPattern⟩
      rw [hFault] at hPattern
      cases hPattern

namespace Rule

/- A guard only keeps a rule from failing. -/
theorem evaluate_eq_error_iff
    {rule : Rule}
    {s : Statement}
    {e : Fault} :
    rule.evaluate s = .error e ↔
      rule.applies s = true ∧ rule.outcome s = .error e := by
  unfold evaluate
  by_cases hApplies : rule.applies s = true
  · simp [hApplies]
  · simp [hApplies]

theorem answers_of_outcome
    {rule : Rule}
    {s : Statement}
    (hOutcome : ∃ m, rule.outcome s = .ok m) :
    rule.Answers s := by
  unfold Answers evaluate
  by_cases hApplies : rule.applies s = true
  · simpa [hApplies] using hOutcome
  · simp [hApplies]

end Rule

/- Every pattern about a table is needed by some statement. -/
theorem tablePattern_of_outcomes
    {template : List Char}
    (hOutcomes : ∀ s,
      ∃ m, (Test.aboutTable template).outcome s = .ok m) :
    ∃ r, tablePattern template Draft.sampleTable = .ok r := by
  let s : Statement := .ofText "create table t".toList
  have hTable : s.tableName = some Draft.sampleTable := by
    decide
  rcases hOutcomes s with ⟨m, hOutcome⟩
  cases hPattern :
      tablePattern template Draft.sampleTable with
  | ok r => exact ⟨r, rfl⟩
  | error e =>
      have hFault := Test.outcome_eq_error_iff.mpr
        ⟨template, _, rfl, hTable, hPattern⟩
      rw [hOutcome] at hFault
      cases hFault

/-
  The sample tells exactly which outlines never fail: they
  are the ones that are accepted.
-/
theorem Draft.tryTemplate_outline_iff
    (outline : Template.Outline)
    (id : Value) :
    tryTemplate id outline.text = .ok () ↔
      Template.placeholder <:+: outline.text ∧
        ∀ s, ∃ m,
          (Test.aboutTable outline.text).outcome s =
            .ok m := by
  constructor
  · intro hTry
    rcases outline.wellFormed_iff.mp
      (tryTemplate_eq_ok hTry) with ⟨hHolds, hPatterns⟩
    exact ⟨hHolds,
      Test.exists_outcome_of_patterns hPatterns⟩
  · rintro ⟨hHolds, hOutcomes⟩
    apply tryTemplate_of_wellFormed
    apply outline.wellFormed_iff.mpr
    refine ⟨hHolds, ?_⟩
    intro table hTable
    apply (outline.exists_tablePattern_sample_iff hTable).mpr
    exact tablePattern_of_outcomes hOutcomes

end SqlAudit

------------------------------------------------------------
-- Rules That Have Been Made
------------------------------------------------------------

namespace SqlAudit

namespace Rule

theorem exists_outcome_of_outline
    {d : Draft}
    {rule : Rule}
    (hBuild : d.build = .ok rule)
    {outline : Template.Outline}
    (hTest : rule.test = .aboutTable outline.text)
    (s : Statement) :
    ∃ m, rule.outcome s = .ok m := by
  have hWellFormed := (Draft.build_wellFormed hBuild).test
  rw [hTest] at hWellFormed
  rcases outline.wellFormed_iff.mp hWellFormed with
    ⟨_, hPatterns⟩
  unfold outcome
  rw [hTest]
  exact Test.exists_outcome_of_patterns hPatterns s

/-
  A rule that has been made fails on a statement only if it
  looks at it, the statement names a table, and the template
  gives no pattern for that table. With an outline, that
  never happens, and the outlines that are accepted are
  exactly those with which it never happens.
-/
theorem rule_fails_only_by_table
    {d : Draft}
    {rule : Rule}
    (hBuild : d.build = .ok rule) :
    (∀ s e,
      rule.outcome s = .error e ↔
        ∃ template table,
          rule.test = .aboutTable template ∧
            s.tableName = some table ∧
            tablePattern template table = .error e) ∧
    (∀ s e,
      rule.evaluate s = .error e ↔
        rule.applies s = true ∧ rule.outcome s = .error e) ∧
    (∀ outline : Template.Outline,
      rule.test = .aboutTable outline.text →
        ∀ s,
          (∃ m, rule.outcome s = .ok m) ∧
            ∃ m, rule.evaluate s = .ok m) ∧
    (∀ (outline : Template.Outline) (id : Value),
      Draft.tryTemplate id outline.text = .ok () ↔
        Template.placeholder <:+: outline.text ∧
          ∀ s, ∃ m,
            (Test.aboutTable outline.text).outcome s =
              .ok m) := by
  refine ⟨?_, ?_, ?_, Draft.tryTemplate_outline_iff⟩
  · intro s e
    exact Test.outcome_eq_error_iff
  · intro s e
    exact evaluate_eq_error_iff
  · intro outline hTest s
    have hOutcome := exists_outcome_of_outline hBuild hTest s
    exact ⟨hOutcome, answers_of_outcome hOutcome⟩

/-
  In the first template, the table stands between braces
  that count rounds. The sample is no number, so that the
  braces are mere characters, and the rule is made. The table
  of the statement reads as two bounds in the wrong order.
  The second template is an outline.
-/
theorem rule_fails_only_by_table_crossed :
    let draft := fun template =>
      { className := "Rounds", kind := .template,
        id := some (.text "a"), title := some (.text "A"),
        category := some (.text "query"),
        risk := some (.text "info"),
        message := some (.text "m"),
        template := some (.text template) : Draft }
    let s : Statement := .ofText "create table 2,1".toList
    (∃ rule,
      (draft "x\x7b\x7b\x7btable\x7d\x7d\x7d").build = .ok rule ∧
        rule.evaluate s =
          .error (.pattern "x\x7b2,1\x7d".toList
            ⟨.crossedBounds, some 2⟩)) ∧
    ∃ rule,
      (draft "(references\\s+\x7btable\x7d)").build = .ok rule ∧
        ∃ m, rule.evaluate s = .ok m := by
  intro draft s
  constructor
  · have hBuild :
        ∃ rule template,
          (draft "x\x7b\x7b\x7btable\x7d\x7d\x7d").build =
              .ok rule ∧
            rule.guard = .table ∧
            rule.test = .aboutTable template ∧
            template = "x\x7b\x7b\x7btable\x7d\x7d\x7d".toList :=
      ⟨_, _, rfl, rfl, rfl, rfl⟩
    rcases hBuild with ⟨rule, template, hBuild, hGuard, hTest, hText⟩
    have hFails := rule_fails_only_by_table hBuild
    refine ⟨rule, hBuild, ?_⟩
    apply (hFails.2.1 _ _).mpr
    constructor
    · unfold applies
      rw [hGuard]
      decide
    · apply (hFails.1 _ _).mpr
      refine ⟨template, "2,1".toList, hTest, by decide, ?_⟩
      rw [hText]
      decide
  · have hBuild :
        ∃ rule,
          (draft "(references\\s+\x7btable\x7d)").build =
              .ok rule ∧
            rule.test =
              .aboutTable Template.Outline.references.text :=
      ⟨_, rfl, rfl⟩
    rcases hBuild with ⟨rule, hBuild, hTest⟩
    have hFails := rule_fails_only_by_table hBuild
    exact ⟨rule, hBuild,
      (hFails.2.2.1 .references hTest s).2⟩

end Rule

end SqlAudit
