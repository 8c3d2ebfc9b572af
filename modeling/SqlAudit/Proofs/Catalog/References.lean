import SqlAudit.Proofs.Catalog.Answers
import SqlAudit.Proofs.Catalog.Recognition

/-
  The built-in rule about a table that refers to itself.

  Its pattern is made for each statement from the name of the
  table. However the name is written, the pattern is read as
  the word `references`, a gap and the very name, so that the
  rule looks for these and for nothing else.

  Key definitions include:
    * `SqlAudit.Regex.Marking.special`
    * `SqlAudit.Template.referencesTo`

  Key theorems include:
    * `SqlAudit.Regex.text_word_special`
    * `SqlAudit.Template.tablePattern_references`
    * `SqlAudit.Catalog.recursive_dependency_is_literal`
-/

------------------------------------------------------------
-- Escaped Words
------------------------------------------------------------

namespace SqlAudit

namespace Regex

/- All characters with a meaning somewhere get a backslash. -/
def Marking.special : Marking where
  chars := specialChars
  operators_subset := Template.operators_subset_specialChars
  meant := by rfl

/- The escaped text is that of the word. -/
theorem text_word_special
    (w : List Char) :
    (Motif.word .special w).forms.flatMap Lexeme.Form.text =
      escape w := by
  rw [← Template.flatMap_text_charPart]
  simp only [Motif.forms, Motif.word, List.flatMap_map,
    List.flatMap_assoc, Syllable.forms, Syllable.char,
    Option.elim_none, List.append_nil]
  rfl

end Regex

end SqlAudit

------------------------------------------------------------
-- The Pattern About A Table
------------------------------------------------------------

namespace SqlAudit

namespace Template

open Regex

/- The wording of a foreign key that refers to a table. -/
def referencesTo (table : List Char) : Wording :=
  .choice
    (.ofString "references" ++ .gap ++ .word .special table) []

theorem filled_references
    (table : List Char) :
    Outline.references.slots.flatMap
        (Slot.filled (escape table)) =
      (referencesTo table).text := by
  have hText :
      (referencesTo table).text =
        "(references\\s+".toList ++
          (Motif.word .special table).forms.flatMap
            Lexeme.Form.text ++ [')'] := by
    simp only [Wording.text, referencesTo, Wording.forms,
      Wording.choiceForms, Motif.groupForms, Motif.forms,
      List.flatMap_cons, List.flatMap_append]
    rfl
  rw [hText, text_word_special]
  rfl

/- The pattern is read as it is meant, whatever the table. -/
theorem tablePattern_references
    (table : List Char) :
    tablePattern Outline.references.text table =
      .ok (referencesTo table).regex := by
  unfold tablePattern
  rw [Outline.fill_text, filled_references]
  simp only [Wording.parse_text]

theorem occursIn_referencesTo_iff
    {table text : List Char} :
    (referencesTo table).regex.occursIn text = true ↔
      ∃ gap, Text.IsGap gap ∧
        "references".toList ++ gap ++ table <:+: text := by
  simp [Wording.occursIn_iff, referencesTo, Wording.motifs,
    Motif.Occurs, Motif.mem_language_append_iff,
    Motif.mem_language_ofString_iff,
    Motif.mem_language_gap_iff, Motif.mem_language_word_iff]

end Template

end SqlAudit

------------------------------------------------------------
-- The Rule
------------------------------------------------------------

namespace SqlAudit

/- Without a table, a test about it finds nothing anyway. -/
theorem Rule.evaluate_of_aboutTable
    {rule : Rule}
    {template : List Char}
    (hGuard : rule.guard = .table)
    (hTest : rule.test = .aboutTable template)
    (s : Statement) :
    rule.evaluate s = rule.outcome s := by
  unfold evaluate applies outcome
  rw [hGuard, hTest]
  cases hTable : s.tableName with
  | none => simp [Guard.admits, Test.outcome, hTable]
  | some table => simp [Guard.admits, hTable]

/- The test about references counts one match at most. -/
theorem Test.exists_outcome_references
    (s : Statement) :
    ∃ m,
      (Test.aboutTable
          Template.Outline.references.text).outcome s =
        .ok m ∧
      m.count = m.fired.toNat ∧
      (m.fired = true ↔
        ∃ table, s.tableName = some table ∧
          ∃ gap, Text.IsGap gap ∧
            "references".toList ++ gap ++ table <:+: s.text) := by
  cases hTable : s.tableName with
  | none =>
      exact ⟨.none, by simp [outcome, hTable], rfl,
        by simp [Match.none]⟩
  | some table =>
      have hPattern := Template.tablePattern_references table
      by_cases hOccurs :
          (Template.referencesTo table).regex.occursIn s.text =
            true
      · refine ⟨⟨true, 1⟩, ?_, rfl, ?_⟩
        · simp only [outcome, hTable, hPattern]
          exact congrArg Except.ok (if_pos hOccurs)
        · rw [Template.occursIn_referencesTo_iff] at hOccurs
          simpa using hOccurs
      · refine ⟨.none, ?_, rfl, ?_⟩
        · simp only [outcome, hTable, hPattern]
          exact congrArg Except.ok (if_neg hOccurs)
        · rw [Template.occursIn_referencesTo_iff] at hOccurs
          simpa [Match.none] using hOccurs

namespace Catalog

theorem recursiveDependency_mem :
    LogicalDesign.recursiveDependency ∈ drafts := by
  simp [drafts, LogicalDesign.drafts]

/- The test of the built-in rule is the one about references. -/
theorem recursiveDependency_test
    {id : Value}
    {test : Test}
    (hTest :
      LogicalDesign.recursiveDependency.test id = .ok test) :
    test = .aboutTable Template.Outline.references.text := by
  rcases ok_of_bind_eq_ok hTest with ⟨template, hCheck, hTest⟩
  rcases (Draft.checkTemplate_eq_ok hCheck).1 with
    ⟨s, hSetting, rfl⟩
  cases hTest
  rw [template_eq_references recursiveDependency_mem hSetting]

/-
  The rule about recursive dependencies never fails. It fires
  exactly if the statement names a table and refers to it
  later or earlier: the word, a gap and the name itself stand
  in the text, whatever characters the name is made of. The
  one match is all that it counts.
-/
theorem recursive_dependency_is_literal :
    ∃ rule,
      Registry.standard.get
          (.text "logical_design.recursive_dependency") =
        .ok rule ∧
      ∀ text, ∃ m,
        rule.outcome (.ofText text) = .ok m ∧
        rule.evaluate (.ofText text) = .ok m ∧
        m.count = m.fired.toNat ∧
        (m.fired = true ↔
          ∃ table, tableName (Text.lower text) = some table ∧
            ∃ gap, Text.IsGap gap ∧
              "references".toList ++ gap ++ table <:+:
                Text.lower text) := by
  rcases exists_rule_of_mem recursiveDependency_mem with
    ⟨rule, hBuild, hGet⟩
  rcases Draft.build_eq_ok hBuild with
    ⟨_, hId, _, _, _, _, _, _, _, hGuard, hTest⟩
  have hAbout := recursiveDependency_test hTest
  refine ⟨rule, Option.some.inj hId ▸ hGet, fun text => ?_⟩
  rcases Test.exists_outcome_references (.ofText text) with
    ⟨m, hOutcome, hCount, hFired⟩
  rw [← hAbout] at hOutcome
  refine ⟨m, hOutcome, ?_, hCount, hFired⟩
  rw [rule.evaluate_of_aboutTable hGuard hAbout]
  exact hOutcome

end Catalog

end SqlAudit
