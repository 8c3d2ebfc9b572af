import SqlAudit.Proofs.Check.Faults
import SqlAudit.Proofs.Rule.AboutTable

/-
  The built-in rules answer on every statement.

  Only a rule about the table can fail. The one built-in
  template is an outline, and no table makes an outline fail.
  So a check with built-in rules always has a report.

  Key theorems include:
    * `SqlAudit.Catalog.template_eq_references`
    * `SqlAudit.Registry.standard_answers`
    * `SqlAudit.Registry.exists_report_of_select`
-/

------------------------------------------------------------
-- Built-In Rules
------------------------------------------------------------

namespace SqlAudit

/- There is one template among the built-in drafts. -/
theorem Catalog.template_eq_references
    {d : Draft}
    {s : String}
    (hMem : d ∈ Catalog.drafts)
    (hTemplate : d.template = some (.text s)) :
    s.toList = Template.Outline.references.text := by
  let key : Key :=
    .text (String.ofList Template.Outline.references.text)
  have hAll :
      Catalog.drafts.all (fun d =>
        d.template.all fun v => v.key? == some key) =
          true := by
    decide
  have hDraft := List.all_eq_true.mp hAll d hMem
  rw [hTemplate] at hDraft
  have hKey : Value.key? (.text s) = some key :=
    eq_of_beq hDraft
  have hSame := Key.text.inj (Option.some.inj hKey)
  rw [hSame, String.toList_ofList]

namespace Registry

/- A built-in rule answers on every statement. -/
theorem standard_answers
    {rule : Rule}
    (hMem : rule ∈ Registry.standard.rules)
    (s : Statement) :
    rule.Answers s := by
  apply Rule.answers_of_outcome
  rcases exists_draft_of_mem_standard hMem with
    ⟨d, hDraft, hBuild⟩
  cases hOutcome : rule.outcome s with
  | ok m => exact ⟨m, rfl⟩
  | error e =>
      -- Only a test about the table could have failed, and
      -- its template is the outline.
      rcases Test.outcome_eq_error_iff.mp hOutcome with
        ⟨template, _, hTest, _, _⟩
      rcases Draft.template_of_build hBuild hTest with
        ⟨text, hText, hSame⟩
      rw [hSame, Catalog.template_eq_references hDraft hText]
        at hTest
      rw [← hOutcome]
      exact Rule.exists_outcome_of_outline hBuild hTest s

/- Whatever is selected, there is a report. -/
theorem exists_report_of_select
    {ids categories : List Value}
    {catalog : List Rule}
    (hSelect :
      Registry.standard.select ids categories = .ok catalog)
    (config : Configuration)
    (texts : List (List Char)) :
    ∃ report,
      (check config catalog texts).report = .ok report := by
  apply (Run.exists_report_iff config catalog texts).mpr
  intro text _ rule hRule
  have hMem := (sublist_of_select hSelect).subset hRule
  exact standard_answers hMem _

end Registry

end SqlAudit
