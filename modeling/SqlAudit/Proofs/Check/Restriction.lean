import SqlAudit.Proofs.Check.Accounting
import SqlAudit.Proofs.Check.Faults

/-
  Reports that are parts of other reports.

  A report keeps the findings of a kind when each of its
  entries holds those findings of the other report's entry,
  in the same order, and its totals count these findings.
  That is what a higher risk level does to a report: what is
  below the level moves to the firings that are kept out.

  Key definitions include:
    * `SqlAudit.StatementReport.keeping`
    * `SqlAudit.Report.Keeps`

  Key theorems include:
    * `SqlAudit.answeredReport_keeps`
    * `SqlAudit.report_at_higher_level`
-/

------------------------------------------------------------
-- Parts Of A Report
------------------------------------------------------------

namespace SqlAudit

/- The entry with those of its findings that are kept. -/
def StatementReport.keeping
    (keep : Finding → Bool)
    (entry : StatementReport) : StatementReport :=
  { entry with findings := entry.findings.filter keep }

/-
  A report keeps of another one the findings of a kind: its
  entries are those of the other, each with what is kept of
  its findings, and its totals count what is kept.
-/
structure Report.Keeps
    (part : Report)
    (keep : Finding → Bool)
    (whole : Report) : Prop where
  statements :
    part.statements =
      whole.statements.map (StatementReport.keeping keep)
  findings : part.findings = whole.findings.filter keep
  total :
    part.summary.total =
      (whole.findings.filter keep).length
  byRisk :
    ∀ r, part.summary.byRisk.get r =
      (whole.findings.filter keep).countP fun f =>
        f.risk = r
  byCategory :
    ∀ c, part.summary.byCategory.get c =
      (whole.findings.filter keep).countP fun f =>
        f.category = c
  counted :
    part.summary.statements = whole.summary.statements

theorem Report.findings_of_map_keeping
    {part whole : Report}
    {keep : Finding → Bool}
    (hStatements :
      part.statements =
        whole.statements.map
          (StatementReport.keeping keep)) :
    part.findings = whole.findings.filter keep := by
  unfold findings
  rw [hStatements, List.flatMap_map, List.filter_flatMap]
  rfl

end SqlAudit

------------------------------------------------------------
-- Parts Of A Report Made Of Answers
------------------------------------------------------------

namespace SqlAudit

/-
  A report keeps what is kept on every single statement,
  wherever that statement stands.
-/
theorem answeredReport_keeps
    {config config' : Configuration}
    {catalog catalog' : List Rule}
    {keep : Finding → Bool}
    (texts : List (List Char))
    (hEach :
      ∀ index s,
        catalog'.filterMap
            (Rule.reported? config' index s) =
          (catalog.filterMap
            (Rule.reported? config index s)).filter keep) :
    (answeredReport config' catalog' texts).Keeps keep
      (answeredReport config catalog texts) := by
  have hStatements :
      (answeredReport config' catalog' texts).statements =
        (answeredReport config catalog
          texts).statements.map
            (StatementReport.keeping keep) := by
    rw [answeredReport_statements,
      answeredReport_statements, List.map_map]
    refine List.map_congr_left ?_
    intro t _
    simp [StatementReport.keeping,
      hEach t.2 (.ofText t.1)]
  have hFindings :=
    Report.findings_of_map_keeping hStatements
  have hPart :=
    answeredReport_accounts config' catalog' texts
  have hWhole := answeredReport_accounts config catalog texts
  rw [hFindings] at hPart
  exact
    { statements := hStatements
      findings := hFindings
      total := hPart.total_eq
      byRisk := hPart.byRisk
      byCategory := hPart.byCategory
      counted := hPart.statements.trans
        hWhole.statements.symm }

end SqlAudit

------------------------------------------------------------
-- Higher Risk Levels
------------------------------------------------------------

namespace SqlAudit

/- The least risk of a configuration is the level set. -/
theorem Settings.level_of_check
    {settings : Settings}
    {config : Configuration}
    {n : Int}
    (hLevel : settings.riskLevel = .integer n)
    (hCheck : settings.check = .ok config) :
    (config.minRisk.level : Int) = n := by
  unfold check at hCheck
  rw [hLevel] at hCheck
  cases hRisk : Risk.ofLevel? n with
  | none => simp [risk?, hRisk] at hCheck
  | some r =>
      have hFound : (r.level : Int) = n := by
        simpa using List.find?_some hRisk
      simp only [risk?, hRisk] at hCheck
      split at hCheck
      · cases hCheck
      · rw [← Except.ok.inj hCheck]
        exact hFound

/- A configuration has the risk level that was set. -/
theorem Settings.riskLevel_of_check
    {settings : Settings}
    {config : Configuration}
    (hCheck : settings.check = .ok config) :
    settings.riskLevel = .integer config.minRisk.level := by
  cases hLevel : settings.riskLevel with
  | integer n => rw [level_of_check hLevel hCheck]
  | _ => simp [check, hLevel, risk?] at hCheck

/- At a higher level, one rule reports no more. -/
theorem Rule.reported?_of_le
    {low high : Configuration}
    (hLe : low.minRisk ≤ high.minRisk)
    (index : Nat)
    (s : Statement)
    (rule : Rule) :
    rule.reported? high index s =
      (rule.reported? low index s).filter fun f =>
        decide (high.minRisk ≤ f.risk) := by
  rw [reported?_eq, reported?_eq]
  by_cases hHigh : high.minRisk ≤ rule.risk
  · have hLow : low.minRisk ≤ rule.risk :=
      Nat.le_trans hLe hHigh
    cases rule.firing? s with
    | none => simp
    | some count =>
        simp [hHigh, hLow, Rule.finding, Option.filter]
  · by_cases hLow : low.minRisk ≤ rule.risk
    · cases rule.firing? s with
      | none => simp
      | some count =>
          simp [hHigh, hLow, Rule.finding, Option.filter]
    · simp [hHigh, hLow]

theorem answeredReport_keeps_of_le
    {low high : Configuration}
    (hLe : low.minRisk ≤ high.minRisk)
    (catalog : List Rule)
    (texts : List (List Char)) :
    (answeredReport high catalog texts).Keeps
      (fun f => decide (high.minRisk ≤ f.risk))
      (answeredReport low catalog texts) := by
  refine answeredReport_keeps texts ?_
  intro index s
  rw [List.filter_filterMap]
  refine List.filterMap_congr ?_
  intro rule _
  exact Rule.reported?_of_le hLe index s rule

/- Findings of one risk are kept together or dropped. -/
theorem countP_risk_filter
    (least r : Risk)
    (findings : List Finding) :
    ((findings.filter fun f =>
        decide (least ≤ f.risk)).countP fun f =>
          f.risk = r) =
      if least ≤ r then
        findings.countP fun f => f.risk = r
      else
        0 := by
  rw [List.countP_filter]
  by_cases hLeast : least ≤ r
  · rw [if_pos hLeast]
    refine List.countP_congr ?_
    intro f _
    simp only [Bool.and_eq_true, decide_eq_true_eq]
    exact ⟨fun h => h.1, fun h => ⟨h, h ▸ hLeast⟩⟩
  · rw [if_neg hLeast, List.countP_eq_zero]
    intro f _ hBoth
    simp only [Bool.and_eq_true, decide_eq_true_eq] at hBoth
    exact hLeast (hBoth.1 ▸ hBoth.2)

/-
  Of two settings that differ in the risk level only, the
  higher level fails where the lower one does, and where it
  does not, its report is the other one without the findings
  below the level.  These are counted as kept out, and the
  counts of the risks that are left are unchanged.
-/
theorem report_at_higher_level
    (settings : Settings)
    (a b : Int)
    (low high : Configuration)
    (catalog : List Rule)
    (texts : List (List Char))
    (hLow :
      { settings with riskLevel := .integer a }.check =
        .ok low)
    (hHigh :
      { settings with riskLevel := .integer b }.check =
        .ok high)
    (hLe : a ≤ b) :
    (∀ e, (check high catalog texts).report = .error e ↔
      (check low catalog texts).report = .error e) ∧
    (∀ whole, (check low catalog texts).report = .ok whole →
      ∃ part,
        (check high catalog texts).report = .ok part ∧
        part.findings =
          whole.findings.filter (fun f =>
            b ≤ f.risk.level) ∧
        part.summary.total + part.summary.suppressed =
          whole.summary.total + whole.summary.suppressed ∧
        (∀ r : Risk, part.summary.byRisk.get r =
          if b ≤ r.level then whole.summary.byRisk.get r
          else 0) ∧
        part.statements =
          whole.statements.map (fun entry =>
            { index := entry.index
              statement := entry.statement
              findings := entry.findings.filter fun f =>
                b ≤ f.risk.level })) := by
  have hA := Settings.level_of_check rfl hLow
  have hB := Settings.level_of_check rfl hHigh
  have hRisks : low.minRisk ≤ high.minRisk := by
    change low.minRisk.level ≤ high.minRisk.level
    omega
  have hIff :
      ∀ r : Risk, b ≤ r.level ↔ high.minRisk ≤ r := by
    intro r
    change b ≤ r.level ↔ high.minRisk.level ≤ r.level
    omega
  have hFires := fun config =>
    length_findings_add_suppressedFirings config catalog
      texts
  refine ⟨?_, ?_⟩
  · intro e
    rw [Run.report_eq_error_iff, Run.report_eq_error_iff]
  · intro whole hReport
    rcases (Run.report_eq_ok_iff low catalog texts
      whole).mp hReport with ⟨hAnswer, rfl⟩
    have hKeeps :=
      answeredReport_keeps_of_le hRisks catalog texts
    have hPart := answeredReport_accounts high catalog texts
    have hWhole := answeredReport_accounts low catalog texts
    refine ⟨answeredReport high catalog texts,
      (Run.report_eq_ok_iff _ _ _ _).mpr ⟨hAnswer, rfl⟩,
      ?_, ?_, ?_, ?_⟩
    · simpa only [hIff] using hKeeps.findings
    · rw [hPart.total_eq, hPart.suppressed, hWhole.total_eq,
        hWhole.suppressed, hFires, hFires]
    · intro r
      rw [hKeeps.byRisk, countP_risk_filter,
        ← hWhole.byRisk]
      simp only [hIff]
    · simp only [hIff]
      exact hKeeps.statements

/-
  At the highest level, one of two rules that fire is kept
  out of the report that the lowest level gives.
-/
theorem report_at_higher_level_of_long_rules :
    let rule : Rule := .longSample
    let catalog : List Rule :=
      [{ rule with id := .text "b", risk := .info }, rule]
    let texts := ["x".toList, "SELECT 1".toList]
    let low : Configuration :=
      ⟨.info, .flag false, .flag false, .text "postgres"⟩
    let high : Configuration := { low with minRisk := .error }
    ∃ whole part,
      (check low catalog texts).report = .ok whole ∧
        (check high catalog texts).report = .ok part ∧
        whole.findings.length = 2 ∧
        part.findings.length = 1 ∧
        part.findings =
          whole.findings.filter (fun f =>
            (3 : Int) ≤ f.risk.level) := by
  intro rule catalog texts low high
  have hLevels := report_at_higher_level {} 1 3 low high
    catalog texts rfl rfl (by decide)
  rcases hLevels.2 _ rfl with ⟨part, hPart, hFindings, _⟩
  refine ⟨_, part, rfl, hPart, rfl, ?_, hFindings⟩
  rw [hFindings]
  rfl

end SqlAudit
