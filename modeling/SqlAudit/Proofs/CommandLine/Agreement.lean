import SqlAudit.Proofs.CommandLine.Ending
import SqlAudit.Proofs.Console.Lines
import SqlAudit.Proofs.Script.NormalForm
import SqlAudit.Proofs.Value.Document

/-
  What a run prints, saves and returns.

  A run that comes to its end has one report, that of the
  audit of the script it reads. The lines it prints, the data
  it saves and the code it returns are three views of this
  report, so they agree.

  Key definitions include:
    * `SqlAudit.CommandLine.Delivered`

  Key theorems include:
    * `SqlAudit.CommandLine.delivered_of_ending`
    * `SqlAudit.CommandLine.exists_report_of_ending`
    * `SqlAudit.CommandLine.outputs_agree_with_report`
-/

------------------------------------------------------------
-- Runs That Are Not Cut Short
------------------------------------------------------------

namespace SqlAudit

/- What is cut short returns 2, if it returns at all. -/
theorem Outcome.eq_two_of_interrupt
    {out : Outcome}
    {i : Interruption}
    {code : Nat}
    (hEnding : (out.interrupt i).ending = .returned code) :
    code = 2 := by
  cases i with
  | failure cause =>
      cases hEnding
      rfl
  | _ => cases hEnding

namespace CommandLine

variable {registry : Registry}
variable {around : Surroundings}
variable {o : Options}
variable {code : Nat}

theorem stages_of_examine
    {config : Configuration}
    {a : Audit}
    (hExamine : examine registry around o config = .ok a) :
    ∃ catalog script,
      selectRules registry o = .ok catalog ∧
        readScript around o.file = .ok script ∧
        audit config catalog script = .ok a := by
  rcases ok_of_bind_eq_ok hExamine with
    ⟨catalog, hSelect, hRest⟩
  rcases ok_of_bind_eq_ok hRest with
    ⟨script, hScript, hAudit⟩
  exact ⟨catalog, script, ok_of_mapError_eq_ok hSelect,
    hScript, ok_of_mapError_eq_ok hAudit⟩

/- A run that returns 0 or 1 delivers the report of an audit. -/
theorem exists_report_of_ending
    (hChecks : o.listRules = false)
    (hEnding :
      (perform registry around o).ending = .returned code)
    (hCode : code = 0 ∨ code = 1) :
    ∃ config catalog script a report,
      Begins registry o config catalog ∧
        readScript around o.file = .ok script ∧
        audit config catalog script = .ok a ∧
        a.run.report = .ok report ∧
        perform registry around o =
          deliver around o a.trace report := by
  have hUncut :
      ∀ {i : Interruption},
        perform registry around o ≠ .interrupted i := by
    intro i hCut
    rw [hCut] at hEnding
    have hTwo := Outcome.eq_two_of_interrupt hEnding
    omega
  cases hSettings : o.settings.check with
  | error e =>
      have hCut :
          perform registry around o =
            .interrupted (.failure (.configuration e)) := by
        simp only [perform, hSettings]
      exact absurd hCut hUncut
  | ok config =>
      cases hExamine : examine registry around o config with
      | error i =>
          exact absurd
            (perform_of_interruption hSettings hChecks hExamine)
            hUncut
      | ok a =>
          rcases stages_of_examine hExamine with
            ⟨catalog, script, hSelect, hScript, hAudit⟩
          cases hReport : a.run.report with
          | error e =>
              simp [perform, hSettings, hChecks, hExamine,
                hReport] at hEnding
          | ok report =>
              exact ⟨config, catalog, script, a, report,
                ⟨hSettings, hChecks, hSelect⟩, hScript, hAudit,
                hReport,
                by simp [perform, hSettings, hChecks, hExamine,
                  hReport]⟩

end CommandLine

end SqlAudit

------------------------------------------------------------
-- Views Of A Report
------------------------------------------------------------

namespace SqlAudit

namespace CommandLine

variable {around : Surroundings}
variable {o : Options}

/-
  The report is printed, with no more than the place of a
  file behind it. It is saved exactly if a file is named.
-/
structure Delivered
    (around : Surroundings)
    (o : Options)
    (report : Report)
    (out : Outcome) : Prop where
  ending :
    out.ending =
      .returned (if report.summary.total = 0 then 0 else 1)
  color : out.color = o.color
  printed :
    ∃ last,
      out.printed = .lines (report.lines o.verbose ++ last) ∧
        ∀ l ∈ last, ∃ path, l = .saved path
  saved : ∀ name, Names o.output name →
    ∃ place,
      around.files.write (.ofText name) = .ok place ∧
        out.saved = some (place, report.toValue.json)
  unsaved :
    (∀ name, ¬ Names o.output name) → out.saved = none

theorem delivered_of_ending
    {trace : List Trace.Record}
    {report : Report}
    {code : Nat}
    (hEnding :
      (deliver around o trace report).ending = .returned code)
    (hCode : code = 0 ∨ code = 1) :
    Delivered around o report
      (deliver around o trace report) := by
  have hWritten : ∀ name, Names o.output name →
      ∃ place,
        around.files.write (.ofText name) = .ok place := by
    intro name hName
    cases hWrite : around.files.write (.ofText name) with
    | ok place => exact ⟨place, rfl⟩
    | error e =>
        rcases deliver_of_unwritten hName hWrite with
          ⟨out, hCut⟩
        rw [hCut] at hEnding
        have hTwo := Outcome.eq_two_of_interrupt hEnding
        omega
  cases hOutput : o.output.filter (!·.isEmpty) with
  | none =>
      have hUnnamed : ∀ name, ¬ Names o.output name := by
        intro name hName
        rw [filter_eq_some_iff.mpr hName] at hOutput
        cases hOutput
      refine ⟨deliver_ending hWritten, ?_,
        ⟨[], ?_, by simp⟩,
        fun name hName => absurd hName (hUnnamed name), ?_⟩
      all_goals simp [deliver, hOutput]
  | some name =>
      have hName := filter_eq_some_iff.mp hOutput
      rcases hWritten name hName with ⟨place, hWrite⟩
      let shown :=
        (Path.ofText name).fromRoot around.workingDirectory
      refine ⟨deliver_ending hWritten, ?_,
        ⟨[.saved shown], ?_, by simp⟩, ?_,
        fun hNone => absurd hName (hNone name)⟩
      · simp [deliver, hOutput, hWrite]
      · simp [deliver, hOutput, hWrite, shown]
      · rintro other ⟨hOther, _⟩
        cases hOther.symm.trans hName.1
        exact ⟨place, hWrite, by
          simp [deliver, hOutput, hWrite]⟩

end CommandLine

/- The totals of an audit's report are those of its findings. -/
theorem accounts_of_audit
    {config : Configuration}
    {catalog : List Rule}
    {script : List Char}
    {a : Audit}
    {report : Report}
    (hAudit : audit config catalog script = .ok a)
    (hReport : a.run.report = .ok report) :
    report.summary.Accounts report.findings
      (suppressedFirings config catalog a.texts)
      a.texts.length := by
  rw [(Script.statements_of_audit hAudit).2] at hReport
  rcases (Run.report_eq_ok_iff config catalog a.texts
    report).mp hReport with ⟨_, rfl⟩
  exact answeredReport_accounts config catalog a.texts

/- The data list a statement exactly if it has findings. -/
theorem Report.results_eq_nil_iff
    (report : Report) :
    (report.toValue.field "results").items = [] ↔
      report.findings = [] := by
  simp [toValue, Value.field, Value.items, findings,
    StatementReport.hasFindings]

end SqlAudit

------------------------------------------------------------
-- Agreement
------------------------------------------------------------

namespace SqlAudit

namespace CommandLine

/-
  A run that checks a script and returns 0 or 1 has checked
  its settings, selected rules and read a script, and it uses
  the report that an audit with these comes to. It prints
  lines that show this report, each as its text in a row of
  its own. It saves the report if a file is named, as a text
  that is read as the data of the report. It returns 1 exactly
  if a finding is printed, and exactly if the data list a
  statement.
-/
theorem outputs_agree_with_report
    {registry : Registry}
    {around : Surroundings}
    {arguments : List (List Char)}
    {o : Options}
    {code : Nat}
    (hParse : Options.parse arguments = .ok o)
    (hChecks : o.listRules = false)
    (hEnding :
      (run registry around arguments).ending =
        .returned code)
    (hCode : code = 0 ∨ code = 1) :
    let out := run registry around arguments
    ∃ config catalog script a report lines rows,
      o.settings.check = .ok config ∧
      registry.select (o.rules.map identifier)
        (o.categories.map identifier) = .ok catalog ∧
      readScript around o.file = .ok script ∧
      audit config catalog script = .ok a ∧
      a.run.report = .ok report ∧
      report.ShownIn o.verbose lines ∧
      List.Forall₂ (Line.PrintedAs o.color) lines rows ∧
      out.output = rows.flatMap (· ++ ['\n']) ∧
      (∀ name, Names o.output name →
        ∃ place text,
          around.files.write (.ofText name) = .ok place ∧
            out.saved = some (place, text) ∧
            text = report.toValue.json ∧
            Json.read text = some report.toValue.document) ∧
      ((∀ name, ¬ Names o.output name) →
        out.saved = none) ∧
      (code = 1 ↔ lines.filterMap Line.finding? ≠ []) ∧
      (code = 1 ↔
        (report.toValue.field "results").items ≠ []) := by
  have hRun :
      run registry around arguments =
        perform registry around o := by
    simp [run, hParse]
  rw [hRun] at hEnding ⊢
  rcases exists_report_of_ending hChecks hEnding hCode with
    ⟨config, catalog, script, a, report, hBegins, hScript,
      hAudit, hReport, hPerform⟩
  rw [hPerform] at hEnding ⊢
  have hDelivered := delivered_of_ending hEnding hCode
  rcases hDelivered.printed with ⟨last, hPrinted, hLast⟩
  have hAccounts := accounts_of_audit hAudit hReport
  have hShown :=
    Report.shownIn_lines o.verbose hAccounts hLast
  -- The code comes from the total, and the total counts.
  have hOne : code = 1 ↔ report.findings ≠ [] := by
    have hSame := hDelivered.ending
    rw [hEnding, hAccounts.total_eq] at hSame
    cases hSame
    simp
  rcases Line.exists_rows o.color
    (report.lines o.verbose ++ last) with
    ⟨rows, hRows, hPrintedAs⟩
  refine ⟨config, catalog, script, a, report, _, rows,
    hBegins.settings, hBegins.selection, hScript, hAudit,
    hReport, hShown, hPrintedAs, ?_, ?_, hDelivered.unsaved,
    ?_, ?_⟩
  · rw [Outcome.output, hPrinted, hDelivered.color]
    exact hRows
  · intro name hName
    rcases hDelivered.saved name hName with
      ⟨place, hWrite, hSaved⟩
    exact ⟨place, _, hWrite, hSaved, rfl,
      report.toValue.read_json⟩
  · rw [hShown.entries]
    exact hOne
  · rw [hOne, ne_eq, ne_eq, Report.results_eq_nil_iff]

/-
  The rule fires on the first of two statements. The report
  is explained and saved.
-/
theorem outputs_agree_with_report_of_long_rule :
    let rule : Rule := .longSample
    let around : Surroundings :=
      { files := ⟨[]⟩
        workingDirectory := "/".toList
        input := some "SELECT 1;x".toList }
    let out := run ⟨[rule]⟩ around
      ["-v".toList, "-o".toList, "r.json".toList]
    out.ending = .returned 1 ∧
      ∃ (report : Report) (lines : List Line)
          (rows : List (List Char)) (saved : Path × List Char),
        report.ShownIn true lines ∧
          lines.filterMap Line.finding? ≠ [] ∧
          List.Forall₂ (Line.PrintedAs false) lines rows ∧
          out.output = rows.flatMap (· ++ ['\n']) ∧
          out.saved = some saved ∧
          Json.read saved.2 =
            some report.toValue.document := by
  intro rule around out
  let o : Options :=
    { verbose := true, output := some "r.json".toList }
  let config : Configuration :=
    ⟨.info, .flag true, .flag false, .text "postgres"⟩
  let texts := ["select 1".toList, "x".toList]
  have hParse :
      Options.parse
        ["-v".toList, "-o".toList, "r.json".toList] =
          .ok o := by
    decide
  have hName : Names o.output "r.json".toList :=
    ⟨rfl, by decide⟩
  have hTokens :
      Dialect.postgres.tokens "SELECT 1;x".toList =
        .ok [⟨.hintable, 0, 6⟩, ⟨.other, 7, 8⟩,
          ⟨.semicolon, 8, 9⟩, ⟨.other, 9, 10⟩] := by
    decide
  have hStatements :
      Script.statements "SELECT 1;x".toList
        (.text "postgres") = .ok texts := by
    have hChoice :
        Dialect.choose (.text "postgres") =
          .ok Dialect.postgres := by
      rfl
    simp only [Script.statements, hChoice, hTokens]
    exact congrArg Except.ok (by decide +kernel)
  have hSplits :
      Splits ⟨[rule]⟩ around o config [rule] texts :=
    ⟨⟨rfl, rfl, rfl⟩, _, rfl, hStatements⟩
  have hWritten : ∀ name, Names o.output name →
      ∃ place,
        around.files.write (.ofText name) = .ok place := by
    rintro name ⟨hOther, _⟩
    cases hOther
    exact ⟨_, rfl⟩
  have hCompletes : Completes ⟨[rule]⟩ around o 1 :=
    .report hSplits rfl hWritten
  have hEnding : out.ending = .returned 1 := by
    simp only [out, run, hParse]
    exact (ending_of_completes hCompletes).2
  rcases outputs_agree_with_report hParse rfl hEnding
    (.inr rfl) with
    ⟨_, _, _, _, report, lines, rows, _, _, _, _, _, hShown,
      hPrintedAs, hOutput, hSaved, _, hFindings, _⟩
  rcases hSaved _ hName with ⟨place, text, _, hText, _, hRead⟩
  exact ⟨hEnding, report, lines, rows, (place, text), hShown,
    hFindings.mp rfl, hPrintedAs, hOutput, hText, hRead⟩

end CommandLine

end SqlAudit
