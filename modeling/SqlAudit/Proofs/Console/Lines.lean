import SqlAudit.Proofs.Check.Accounting
import SqlAudit.Proofs.Console.Rows

/-
  What the lines about a report show.

  The lines hold one entry for each finding, in the order of
  the report. With explanations, a header stands in front of
  the entries of a statement, and nowhere else. The totals in
  the last lines are those of the entries before them.

  Key definitions include:
    * `SqlAudit.Line.finding?`
    * `SqlAudit.Line.header?`
    * `SqlAudit.Line.label?`
    * `SqlAudit.StatementReport.ShownBy`
    * `SqlAudit.Report.ShownIn`

  Key theorems include:
    * `SqlAudit.StatementReport.shownBy_lines`
    * `SqlAudit.Report.lines_eq`
    * `SqlAudit.Report.filterMap_finding?_lines`
    * `SqlAudit.Report.shownIn_lines`
-/

------------------------------------------------------------
-- What A Line Shows
------------------------------------------------------------

namespace SqlAudit

namespace Line

/- The finding of an entry. -/
def finding? : Line → Option Finding
| .entry f => some f
| _ => none

/- The number in the header of a statement. -/
def header? : Line → Option Int
| .statementHeader number => some number
| _ => none

/- The risk label of an entry. -/
def label? : Line → Option String
| .entry f => some f.risk.label
| _ => none

/- The number of all findings. -/
def total? : Line → Option Nat
| .total count => some count
| _ => none

/- The number of findings of a tier. -/
def riskTotal? : Line → Option (Risk × Nat)
| .riskTotal risk count => some (risk, count)
| _ => none

end Line

/- Tiers are told apart by their labels. -/
theorem Risk.label_inj
    {r s : Risk} :
    r.label = s.label ↔ r = s := by
  cases r <;> cases s <;> decide

/- Labels are counted among the findings of the entries. -/
theorem countP_label?
    (risk : Risk)
    (lines : List Line) :
    (lines.countP fun l => l.label? == some risk.label) =
      (lines.filterMap Line.finding?).countP fun f =>
        f.risk = risk := by
  rw [List.countP_filterMap]
  apply List.countP_congr
  intro l _
  cases l with
  | entry f =>
      simp [Line.label?, Line.finding?, Risk.label_inj]
  | _ => simp [Line.label?, Line.finding?]

end SqlAudit

------------------------------------------------------------
-- Lines About A Statement
------------------------------------------------------------

namespace SqlAudit

section Findings

variable (verbose : Bool)
variable (f : Finding)

theorem Finding.filterMap_finding?_lines :
    (f.lines verbose).filterMap Line.finding? = [f] := by
  cases verbose <;> rfl

theorem Finding.filterMap_header?_lines :
    (f.lines verbose).filterMap Line.header? = [] := by
  cases verbose <;> rfl

end Findings

/-
  The lines show the findings on one statement. If they
  explain them, they begin with its number, and no other
  header follows.
-/
structure StatementReport.ShownBy
    (verbose : Bool)
    (r : StatementReport)
    (block : List Line) : Prop where
  entries : block.filterMap Line.finding? = r.findings
  headers :
    block.filterMap Line.header? =
      if verbose then [r.index + 1] else []
  first :
    verbose = true →
      block.head? = some (.statementHeader (r.index + 1))

namespace StatementReport

theorem flatMap_lines_finding?
    (verbose : Bool)
    (findings : List Finding) :
    (findings.flatMap (Finding.lines verbose)).filterMap
        Line.finding? =
      findings := by
  simp [List.filterMap_flatMap,
    Finding.filterMap_finding?_lines]

theorem flatMap_lines_header?
    (verbose : Bool)
    (findings : List Finding) :
    (findings.flatMap (Finding.lines verbose)).filterMap
        Line.header? =
      [] := by
  simp [List.filterMap_flatMap,
    Finding.filterMap_header?_lines]

theorem shownBy_lines
    (verbose : Bool)
    {r : StatementReport}
    (hFindings : r.hasFindings = true) :
    r.ShownBy verbose (r.lines verbose) := by
  unfold lines
  rw [if_pos hFindings]
  cases verbose with
  | false =>
      exact
        { entries := flatMap_lines_finding? false r.findings
          headers := flatMap_lines_header? false r.findings
          first := by simp }
  | true =>
      exact
        { entries := flatMap_lines_finding? true r.findings
          headers := congrArg (List.cons (r.index + 1))
            (flatMap_lines_header? true r.findings)
          first := fun _ => rfl }

theorem filterMap_finding?_lines
    (verbose : Bool)
    (r : StatementReport) :
    (r.lines verbose).filterMap Line.finding? =
      r.findings := by
  cases hFindings : r.hasFindings with
  | true => exact (shownBy_lines verbose hFindings).entries
  | false =>
      rw [findings_eq_nil hFindings]
      simp [lines, hFindings]

/- Totals are not shown about a single statement. -/
theorem not_total_of_mem_lines
    {verbose : Bool}
    {r : StatementReport}
    {l : Line}
    (hMem : l ∈ r.lines verbose) :
    l.total? = none ∧ l.riskTotal? = none := by
  unfold lines at hMem
  split at hMem
  · rcases List.mem_append.mp hMem with hFront | hEntry
    · cases verbose with
      | false => cases hFront
      | true =>
          simp only [if_true, List.mem_cons,
            List.not_mem_nil, or_false] at hFront
          rcases hFront with rfl | rfl | rfl
          all_goals exact ⟨rfl, rfl⟩
    · rcases List.mem_flatMap.mp hEntry with ⟨f, _, hLine⟩
      rcases List.mem_cons.mp hLine with rfl | hMore
      · exact ⟨rfl, rfl⟩
      · cases verbose with
        | false => cases hMore
        | true =>
            rw [List.mem_singleton.mp hMore]
            exact ⟨rfl, rfl⟩
  · cases hMem

end StatementReport

end SqlAudit

------------------------------------------------------------
-- Lines About A Report
------------------------------------------------------------

namespace SqlAudit

namespace Report

/-
  A report is shown statement by statement, where statements
  without findings are left out, and then by its totals.
-/
theorem lines_eq
    (verbose : Bool)
    (report : Report) :
    report.lines verbose =
      ((report.statements.filter
        StatementReport.hasFindings).map
          (StatementReport.lines verbose)).flatten ++
        report.summary.lines := by
  rw [lines, ← List.flatMap_def, flatMap_filter_eq]
  intro r hNone
  simp [StatementReport.lines, hNone]

theorem forall₂_shownBy
    (verbose : Bool)
    (report : Report) :
    List.Forall₂ (StatementReport.ShownBy verbose)
      (report.statements.filter StatementReport.hasFindings)
      ((report.statements.filter
        StatementReport.hasFindings).map
          (StatementReport.lines verbose)) := by
  rw [List.forall₂_map_right_iff, List.forall₂_same]
  intro r hMem
  exact StatementReport.shownBy_lines verbose
    (List.mem_filter.mp hMem).2

/- There is one entry for each finding, in order. -/
theorem filterMap_finding?_lines
    (verbose : Bool)
    (report : Report) :
    (report.lines verbose).filterMap Line.finding? =
      report.findings := by
  rw [lines, List.filterMap_append, List.filterMap_flatMap]
  simp only [StatementReport.filterMap_finding?_lines]
  exact List.append_nil _

/- What no statement shows can only be in the last lines. -/
theorem filterMap_lines_eq
    {β : Type}
    {verbose : Bool}
    {show? : Line → Option β}
    (hNone :
      ∀ r, ∀ l ∈ StatementReport.lines verbose r,
        show? l = none)
    (report : Report) :
    (report.lines verbose).filterMap show? =
      report.summary.lines.filterMap show? := by
  have hStatements :
      (report.statements.flatMap
        (StatementReport.lines verbose)).filterMap show? =
          [] := by
    rw [List.filterMap_eq_nil_iff]
    intro l hMem
    rcases List.mem_flatMap.mp hMem with ⟨r, _, hLine⟩
    exact hNone r l hLine
  rw [lines, List.filterMap_append, hStatements,
    List.nil_append]

theorem filterMap_total?_lines
    (verbose : Bool)
    (report : Report) :
    (report.lines verbose).filterMap Line.total? =
      [report.summary.total] :=
  filterMap_lines_eq
    (fun _ _ hLine =>
      (StatementReport.not_total_of_mem_lines hLine).1)
    report

theorem filterMap_riskTotal?_lines
    (verbose : Bool)
    (report : Report) :
    (report.lines verbose).filterMap Line.riskTotal? =
      [Risk.error, Risk.warning, Risk.info].map fun risk =>
        (risk, report.summary.byRisk.get risk) :=
  filterMap_lines_eq
    (fun _ _ hLine =>
      (StatementReport.not_total_of_mem_lines hLine).2)
    report

/-
  The lines show the report: its findings as entries, one by
  one; as totals the numbers of these entries, of all and by
  their labels; and the statements with findings, each in a
  block of its own. Behind the blocks there are neither
  entries nor headers.
-/
structure ShownIn
    (verbose : Bool)
    (report : Report)
    (lines : List Line) : Prop where
  entries : lines.filterMap Line.finding? = report.findings
  total :
    lines.filterMap Line.total? =
      [(lines.filterMap Line.finding?).length]
  byRisk :
    lines.filterMap Line.riskTotal? =
      Console.tiers.map fun t =>
        (t.risk,
          lines.countP fun l => l.label? == some t.label)
  sum :
    ((lines.filterMap Line.riskTotal?).map Prod.snd).sum =
      (lines.filterMap Line.finding?).length
  blocks :
    ∃ blocks rest,
      lines = blocks.flatten ++ rest ∧
        List.Forall₂ (StatementReport.ShownBy verbose)
          (report.statements.filter
            StatementReport.hasFindings)
          blocks ∧
        rest.filterMap Line.finding? = [] ∧
        rest.filterMap Line.header? = []

theorem shownIn_lines
    (verbose : Bool)
    {report : Report}
    {suppressed statements : Nat}
    (hAccounts :
      report.summary.Accounts report.findings suppressed
        statements)
    {last : List Line}
    (hLast : ∀ l ∈ last, ∃ path, l = .saved path) :
    report.ShownIn verbose
      (report.lines verbose ++ last) := by
  have hNone :
      ∀ {β : Type} {show? : Line → Option β},
        (∀ path, show? (.saved path) = none) →
          last.filterMap show? = [] := by
    intro β show? hSaved
    rw [List.filterMap_eq_nil_iff]
    intro l hMem
    rcases hLast l hMem with ⟨path, rfl⟩
    exact hSaved path
  have hEntries :
      (report.lines verbose ++ last).filterMap
        Line.finding? = report.findings := by
    rw [List.filterMap_append, filterMap_finding?_lines,
      hNone fun _ => rfl, List.append_nil]
  have hRisks :
      (report.lines verbose ++ last).filterMap
        Line.riskTotal? =
          [Risk.error, Risk.warning, Risk.info].map fun risk =>
            (risk, report.summary.byRisk.get risk) := by
    rw [List.filterMap_append, filterMap_riskTotal?_lines,
      hNone fun _ => rfl, List.append_nil]
  refine ⟨hEntries, ?_, ?_, ?_, ?_⟩
  · rw [hEntries, List.filterMap_append,
      filterMap_total?_lines, hNone fun _ => rfl,
      List.append_nil, hAccounts.total_eq]
  · change _ =
      [Risk.error, Risk.warning, Risk.info].map fun risk =>
        (risk, (report.lines verbose ++ last).countP fun l =>
          l.label? == some risk.label)
    simp only [hRisks, countP_label?, hEntries,
      hAccounts.byRisk]
  · rw [hRisks, hEntries, ← hAccounts.total_eq]
    simp only [Tally.total, Risk.all, List.map_cons,
      List.map_nil, List.sum_cons, List.sum_nil,
      List.foldr_cons, List.foldr_nil]
    omega
  · refine ⟨_, report.summary.lines ++ last, ?_,
      report.forall₂_shownBy verbose, ?_, ?_⟩
    · rw [lines_eq, List.append_assoc]
    · rw [List.filterMap_append, hNone fun _ => rfl]
      rfl
    · rw [List.filterMap_append, hNone fun _ => rfl]
      rfl

end Report

end SqlAudit
