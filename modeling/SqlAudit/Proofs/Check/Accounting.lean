import Mathlib.Algebra.BigOperators.Group.List.Basic
import Mathlib.Algebra.GroupWithZero.Nat
import SqlAudit.Proofs.Check.Findings

/-
  The totals of a run agree with its report.

  Totals account for a list of findings, a number of firings
  that were kept out and a number of statements.  Counting
  one more of these keeps the account right, and so does a
  whole run.  The report as data can be counted again: what
  it lists gives the totals that it states.

  Key definitions include:
    * `SqlAudit.Tally.Accounts`
    * `SqlAudit.Verdict.isSuppressed`
    * `SqlAudit.Value.field`
    * `SqlAudit.Value.listedFindings`

  Key theorems include:
    * `SqlAudit.Tally.Accounts.foldl_add`
    * `SqlAudit.Tally.Accounts.foldl_addTo`
    * `SqlAudit.answeredReport_accounts`
    * `SqlAudit.summary_accounts_for_report`
-/

------------------------------------------------------------
-- Totals And What They Account For
------------------------------------------------------------

namespace SqlAudit

/- The verdict is that of a firing that is kept out. -/
def Verdict.isSuppressed : Verdict → Bool
| .suppressed _ _ _ => true
| _ => false

theorem RiskCounts.get_bump
    (counts : RiskCounts)
    (r s : Risk) :
    (counts.bump r).get s =
      counts.get s + if r = s then 1 else 0 := by
  cases r <;> cases s <;> rfl

theorem CategoryCounts.get_bump
    (counts : CategoryCounts)
    (c d : Category) :
    (counts.bump c).get d =
      counts.get d + if c = d then 1 else 0 := by
  cases c <;> cases d <;> rfl

namespace Tally

/-
  The totals are those of the given findings, of a number of
  firings that were kept out and of a number of statements.
-/
structure Accounts
    (t : Tally)
    (findings : List Finding)
    (suppressed statements : Nat) : Prop where
  byRisk :
    ∀ r, t.byRisk.get r =
      findings.countP fun f => f.risk = r
  byCategory :
    ∀ c, t.byCategory.get c =
      findings.countP fun f => f.category = c
  suppressed : t.suppressed = suppressed
  statements : t.statements = statements

namespace Accounts

variable {t : Tally}
variable {findings : List Finding}
variable {suppressed statements : Nat}

theorem empty : Accounts {} [] 0 0 where
  byRisk r := by cases r <;> rfl
  byCategory c := by cases c <;> rfl
  suppressed := rfl
  statements := rfl

theorem record
    (hAccounts : t.Accounts findings suppressed statements)
    (f : Finding) :
    (t.record f).Accounts (findings ++ [f]) suppressed
      statements where
  byRisk r := by
    simp [Tally.record, RiskCounts.get_bump,
      hAccounts.byRisk, List.countP_append,
      List.countP_cons]
  byCategory c := by
    simp [Tally.record, CategoryCounts.get_bump,
      hAccounts.byCategory, List.countP_append,
      List.countP_cons]
  suppressed := hAccounts.suppressed
  statements := hAccounts.statements

theorem suppress
    (hAccounts : t.Accounts findings suppressed statements) :
    t.suppress.Accounts findings (suppressed + 1)
      statements where
  byRisk := hAccounts.byRisk
  byCategory := hAccounts.byCategory
  suppressed := congrArg (· + 1) hAccounts.suppressed
  statements := hAccounts.statements

theorem countStatement
    (hAccounts : t.Accounts findings suppressed statements) :
    t.countStatement.Accounts findings suppressed
      (statements + 1) where
  byRisk := hAccounts.byRisk
  byCategory := hAccounts.byCategory
  suppressed := hAccounts.suppressed
  statements := congrArg (· + 1) hAccounts.statements

/- The totals are the number of findings. -/
theorem total_eq
    (hAccounts : t.Accounts findings suppressed statements) :
    t.total = findings.length := by
  have hSum :
      ∀ fs : List Finding,
        (Risk.all.map fun r =>
          fs.countP fun f => f.risk = r).sum =
            fs.length := by
    intro fs
    induction fs with
    | nil => rfl
    | cons f fs ih =>
        simp only [Risk.all, List.map_cons, List.map_nil,
          List.sum_cons, List.sum_nil, List.countP_cons,
          List.length_cons] at ih ⊢
        cases f.risk <;> simp <;> omega
  rw [← hSum findings]
  unfold total
  rw [← List.sum_eq_foldr]
  exact congrArg List.sum
    (List.map_congr_left fun r _ => hAccounts.byRisk r)

/- So are the totals by category. -/
theorem sum_byCategory_eq
    (hAccounts : t.Accounts findings suppressed statements) :
    (Category.all.map t.byCategory.get).sum =
      findings.length := by
  have hSum :
      ∀ fs : List Finding,
        (Category.all.map fun c =>
          fs.countP fun f => f.category = c).sum =
            fs.length := by
    intro fs
    induction fs with
    | nil => rfl
    | cons f fs ih =>
        simp only [Category.all, List.map_cons,
          List.map_nil, List.sum_cons, List.sum_nil,
          List.countP_cons, List.length_cons] at ih ⊢
        cases f.category <;> simp <;> omega
  rw [← hSum findings]
  exact congrArg List.sum
    (List.map_congr_left fun c _ => hAccounts.byCategory c)

end Accounts

end Tally

end SqlAudit

------------------------------------------------------------
-- Steps And Runs
------------------------------------------------------------

namespace SqlAudit

namespace Tally

namespace Accounts

variable {t : Tally}
variable {findings : List Finding}
variable {suppressed statements : Nat}

/- Counting a verdict accounts for it. -/
theorem add
    (hAccounts : t.Accounts findings suppressed statements)
    (v : Verdict) :
    (t.add v).Accounts (findings ++ v.finding?.toList)
      (suppressed + if v.isSuppressed then 1 else 0)
      statements := by
  cases v with
  | silent =>
      simpa [Tally.add, Verdict.finding?,
        Verdict.isSuppressed] using hAccounts
  | suppressed index ruleId level =>
      simpa [Tally.add, Verdict.finding?,
        Verdict.isSuppressed] using hAccounts.suppress
  | reported f =>
      simpa [Tally.add, Verdict.finding?,
        Verdict.isSuppressed] using hAccounts.record f

/- Counting verdicts in order accounts for all of them. -/
theorem foldl_add
    (hAccounts : t.Accounts findings suppressed statements)
    (vs : List Verdict) :
    (vs.foldl Tally.add t).Accounts
      (findings ++ vs.filterMap Verdict.finding?)
      (suppressed + vs.countP Verdict.isSuppressed)
      statements := by
  induction vs generalizing t findings suppressed with
  | nil => simpa using hAccounts
  | cons v vs ih =>
      have hRest := ih (hAccounts.add v)
      have hFindings :
          findings ++ v.finding?.toList ++
              vs.filterMap Verdict.finding? =
            findings ++
              (v :: vs).filterMap Verdict.finding? := by
        cases hFinding : v.finding? with
        | none => simp [hFinding]
        | some f => simp [hFinding]
      have hSuppressed :
          (suppressed + if v.isSuppressed then 1 else 0) +
              vs.countP Verdict.isSuppressed =
            suppressed +
              (v :: vs).countP Verdict.isSuppressed := by
        rw [List.countP_cons]
        omega
      rw [hFindings, hSuppressed] at hRest
      exact hRest

/- Counting an inspection that met no fault. -/
theorem addTo
    (hAccounts : t.Accounts findings suppressed statements)
    {i : Inspection}
    (hFault : i.fault = none) :
    (i.addTo t).Accounts (findings ++ i.findings)
      (suppressed + i.verdicts.countP Verdict.isSuppressed)
      (statements + 1) := by
  have hVerdicts := hAccounts.foldl_add i.verdicts
  simpa [Inspection.addTo, hFault, Inspection.findings]
    using hVerdicts.countStatement

/- Counting inspections one after the other. -/
theorem foldl_addTo
    (hAccounts : t.Accounts findings suppressed statements)
    {is : List Inspection}
    (hFaults : ∀ i ∈ is, i.fault = none) :
    (is.foldl (fun t i => i.addTo t) t).Accounts
      (findings ++ is.flatMap Inspection.findings)
      (suppressed + (is.map fun i =>
        i.verdicts.countP Verdict.isSuppressed).sum)
      (statements + is.length) := by
  induction is generalizing t findings suppressed
      statements with
  | nil => simpa using hAccounts
  | cons i is ih =>
      have hHead :=
        hAccounts.addTo (hFaults i List.mem_cons_self)
      have hRest := ih hHead fun j hj =>
        hFaults j (List.mem_cons_of_mem _ hj)
      simpa [List.append_assoc, Nat.add_assoc,
        Nat.add_comm 1] using hRest

end Accounts

end Tally

end SqlAudit

------------------------------------------------------------
-- Totals Of A Report
------------------------------------------------------------

namespace SqlAudit

/- The number of firings that a check keeps out. -/
def suppressedFirings
    (config : Configuration)
    (catalog : List Rule)
    (texts : List (List Char)) : Nat :=
  ((answeredFrom config catalog 0 texts).map fun i =>
    i.verdicts.countP Verdict.isSuppressed).sum

theorem answeredReport_accounts
    (config : Configuration)
    (catalog : List Rule)
    (texts : List (List Char)) :
    (answeredReport config catalog texts).summary.Accounts
      (answeredReport config catalog texts).findings
      (suppressedFirings config catalog texts)
      texts.length := by
  have hFaults :
      ∀ i ∈ answeredFrom config catalog 0 texts,
        i.fault = none := by
    intro i hMem
    rcases List.mem_map.mp hMem with ⟨t, _, rfl⟩
    rfl
  have hRun := Tally.Accounts.empty.foldl_addTo hFaults
  have hFindings :
      (answeredReport config catalog texts).findings =
        (answeredFrom config catalog 0 texts).flatMap
          Inspection.findings := by
    simp [Report.findings, answeredReport,
      List.flatMap_map]
  rw [hFindings]
  simpa [answeredReport, suppressedFirings, answeredFrom]
    using hRun

/- A rule that fires is reported or kept out. -/
theorem Rule.answer_reported_or_suppressed
    (config : Configuration)
    (index : Int)
    (s : Statement)
    (rule : Rule) :
    ((rule.answer config index s).finding?.toList.length +
        if (rule.answer config index s).isSuppressed then 1
        else 0) =
      if rule.fires s then 1 else 0 := by
  unfold answer fires
  cases hFiring : rule.firing? s with
  | none => rfl
  | some count =>
      by_cases hRisk : config.minRisk ≤ rule.risk
      · simp [hRisk, Verdict.finding?, Verdict.isSuppressed]
      · simp [hRisk, Verdict.finding?, Verdict.isSuppressed]

theorem length_findings_add_countP_suppressed
    (config : Configuration)
    (catalog : List Rule)
    (index : Int)
    (s : Statement) :
    (answered config catalog index s).findings.length +
        (answered config catalog index s).verdicts.countP
          Verdict.isSuppressed =
      catalog.countP fun rule => rule.fires s := by
  unfold Inspection.findings answered
  induction catalog with
  | nil => rfl
  | cons rule rules ih =>
      have hHead :=
        rule.answer_reported_or_suppressed config index s
      simp only [List.filterMap_eq_flatMap_toList,
        List.map_cons, List.flatMap_cons,
        List.length_append, List.countP_cons] at ih ⊢
      omega

/- The places of firings are counted by statement. -/
theorem length_places
    (holds : Rule → Statement → Bool)
    (catalog : List Rule)
    (texts : List (List Char)) :
    (places holds catalog texts).length =
      (texts.zipIdx.map fun t =>
        catalog.countP fun rule =>
          holds rule (.ofText t.1)).sum := by
  unfold places
  rw [List.length_flatMap]
  refine congrArg List.sum (List.map_congr_left ?_)
  intro t _
  have hCatalog :=
    List.countP_map
      (p := fun rule => holds rule (.ofText t.1))
      (f := Prod.fst) (l := catalog.zipIdx)
  rw [List.zipIdx_map_fst] at hCatalog
  rw [hCatalog, List.length_filterMap_eq_countP]
  refine List.countP_congr ?_
  intro r _
  by_cases hHolds : holds r.1 (.ofText t.1) = true
  · simp [hHolds]
  · simp [hHolds]

/- The firings are those reported and those kept out. -/
theorem length_findings_add_suppressedFirings
    (config : Configuration)
    (catalog : List Rule)
    (texts : List (List Char)) :
    (answeredReport config catalog texts).findings.length +
        suppressedFirings config catalog texts =
      (places Rule.fires catalog texts).length := by
  have hFindings :
      (answeredReport config catalog texts).findings.length =
        (texts.zipIdx.map fun t =>
          (answered config catalog t.2
            (.ofText t.1)).findings.length).sum := by
    simp [Report.findings, answeredReport, answeredFrom,
      List.flatMap_map, List.length_flatMap]
  have hSuppressed :
      suppressedFirings config catalog texts =
        (texts.zipIdx.map fun t =>
          (answered config catalog t.2
            (.ofText t.1)).verdicts.countP
              Verdict.isSuppressed).sum := by
    simp [suppressedFirings, answeredFrom, Function.comp_def]
  rw [hFindings, hSuppressed, length_places,
    ← List.sum_map_add]
  refine congrArg List.sum (List.map_congr_left ?_)
  intro t _
  exact length_findings_add_countP_suppressed config
    catalog t.2 (.ofText t.1)

end SqlAudit

------------------------------------------------------------
-- Reports Counted Again
------------------------------------------------------------

namespace SqlAudit

namespace Value

/- The field of a record; null if there is none. -/
def field
    (name : String) :
    Value → Value
| .record fields =>
    ((fields.find? fun f => f.1 == name).map
      Prod.snd).getD .null
| _ => .null

/- The items of a list; none if the value is no list. -/
def items : Value → List Value
| .list vs => vs
| _ => []

/- The value is the given text. -/
def isText (s : String) : Value → Bool
| .text t => t == s
| _ => false

/- The findings that a report as data lists, in order. -/
def listedFindings (report : Value) : List Value :=
  (report.field "results").items.flatMap fun entry =>
    (entry.field "findings").items

/- How many values have the given text in a field. -/
def recount
    (name text : String)
    (vs : List Value) : Nat :=
  vs.countP fun v => (v.field name).isText text

end Value

/- What is made of nothing can be left out before. -/
theorem flatMap_filter_eq
    {α β : Type}
    {f : α → List β}
    {keep : α → Bool}
    (hNil : ∀ x, keep x = false → f x = [])
    (xs : List α) :
    (xs.filter keep).flatMap f = xs.flatMap f := by
  induction xs with
  | nil => rfl
  | cons x xs ih =>
      cases hKeep : keep x with
      | true => simp [hKeep, ih]
      | false => simp [hKeep, ih, hNil x hKeep]

theorem StatementReport.findings_eq_nil
    {r : StatementReport}
    (hNone : r.hasFindings = false) :
    r.findings = [] := by
  simpa [hasFindings] using hNone

theorem Report.listedFindings_toValue
    (report : Report) :
    report.toValue.listedFindings =
      report.findings.map Finding.toValue := by
  have hResults :
      report.toValue.listedFindings =
        (report.statements.filter
          StatementReport.hasFindings).flatMap fun entry =>
            entry.findings.map Finding.toValue := by
    simp [Value.listedFindings, Report.toValue,
      Value.field, Value.items, List.flatMap_map,
      StatementReport.toValue]
  rw [hResults, flatMap_filter_eq]
  · rw [findings, List.map_flatMap]
  · intro entry hNone
    rw [StatementReport.findings_eq_nil hNone, List.map_nil]

theorem Risk.name_beq_iff
    (r s : Risk) :
    (r.name == s.name) = decide (r = s) := by
  cases r <;> cases s <;> rfl

theorem Category.name_beq_iff
    (c d : Category) :
    (c.name == d.name) = decide (c = d) := by
  cases c <;> cases d <;> rfl

theorem recount_risk
    (r : Risk)
    (findings : List Finding) :
    Value.recount "risk" r.name
        (findings.map Finding.toValue) =
      findings.countP fun f => f.risk = r := by
  unfold Value.recount
  rw [List.countP_map]
  refine congrArg (List.countP · findings) ?_
  funext f
  exact Risk.name_beq_iff f.risk r

theorem recount_category
    (c : Category)
    (findings : List Finding) :
    Value.recount "category" c.name
        (findings.map Finding.toValue) =
      findings.countP fun f => f.category = c := by
  unfold Value.recount
  rw [List.countP_map]
  refine congrArg (List.countP · findings) ?_
  funext f
  exact Category.name_beq_iff f.category c

/-
  Totals that account for the findings of a report are the
  ones that its data gives when it is counted again.
-/
theorem Report.recounted_of_accounts
    {report : Report}
    {suppressed statements : Nat}
    (hAccounts :
      report.summary.Accounts report.findings suppressed
        statements) :
    let listed := report.toValue.listedFindings
    let summary := report.toValue.field "summary"
    summary.field "total" = .integer listed.length ∧
      summary.field "by_risk" =
        .record (Risk.all.map fun r =>
          (r.name,
            .integer (Value.recount "risk" r.name listed))) ∧
      summary.field "by_category" =
        .record (Category.all.map fun c =>
          (c.name, .integer
            (Value.recount "category" c.name listed))) := by
  intro listed summary
  have hListed :
      listed = report.findings.map Finding.toValue :=
    report.listedFindings_toValue
  have hSummary : summary = report.summary.toValue := by
    simp [summary, toValue, Value.field]
  rw [hListed, hSummary]
  refine ⟨?_, ?_, ?_⟩
  · simp [Tally.toValue, Value.field, hAccounts.total_eq]
  · simp only [recount_risk, ← hAccounts.byRisk]
    simp [Tally.toValue, Value.field]
  · simp only [recount_category, ← hAccounts.byCategory]
    simp [Tally.toValue, Value.field]

/-
  The summary of a run agrees with its report, with the
  firings of the run, and with the report as data.
-/
theorem summary_accounts_for_report
    (config : Configuration)
    (catalog : List Rule)
    (texts : List (List Char))
    (report : Report)
    (hReport :
      (check config catalog texts).report = .ok report) :
    (report.summary.total = report.findings.length ∧
      (Risk.all.map report.summary.byRisk.get).sum =
        report.findings.length ∧
      (Category.all.map report.summary.byCategory.get).sum =
        report.findings.length) ∧
    (∀ r, report.summary.byRisk.get r =
      report.findings.countP fun f => f.risk = r) ∧
    (∀ c, report.summary.byCategory.get c =
      report.findings.countP fun f => f.category = c) ∧
    report.summary.statements = texts.length ∧
    (∃ firings : List (Nat × Nat),
      firings.Nodup ∧
        (∀ i k, (i, k) ∈ firings ↔
          FiresAt catalog texts i k) ∧
        report.summary.total + report.summary.suppressed =
          firings.length) ∧
    report.toValue.field "results" =
      .list ((report.statements.filter fun entry =>
        0 < entry.findings.length).map
          StatementReport.toValue) ∧
    (let listed := report.toValue.listedFindings
    let summary := report.toValue.field "summary"
    summary.field "total" = .integer listed.length ∧
      summary.field "by_risk" =
        .record (Risk.all.map fun r =>
          (r.name,
            .integer (Value.recount "risk" r.name listed))) ∧
      summary.field "by_category" =
        .record (Category.all.map fun c =>
          (c.name, .integer
            (Value.recount "category" c.name listed)))) := by
  rcases (Run.report_eq_ok_iff config catalog texts
    report).mp hReport with ⟨_, hEq⟩
  have hAccounts :
      report.summary.Accounts report.findings
        (suppressedFirings config catalog texts)
        texts.length :=
    hEq ▸ answeredReport_accounts config catalog texts
  refine ⟨⟨hAccounts.total_eq, hAccounts.total_eq,
    hAccounts.sum_byCategory_eq⟩, hAccounts.byRisk,
    hAccounts.byCategory, hAccounts.statements, ?_, ?_,
    Report.recounted_of_accounts hAccounts⟩
  · refine ⟨places Rule.fires catalog texts, ?_, ?_, ?_⟩
    · exact places_nodup _ catalog texts
    · intro i k
      exact mem_places_fires_iff
    · rw [hAccounts.total_eq, hAccounts.suppressed, hEq]
      exact length_findings_add_suppressedFirings config
        catalog texts
  · have hFilter :
        report.statements.filter
            StatementReport.hasFindings =
          report.statements.filter fun entry =>
            0 < entry.findings.length := by
      refine List.filter_congr ?_
      intro entry _
      cases hEntry : entry.findings with
      | nil => simp [StatementReport.hasFindings, hEntry]
      | cons f fs =>
          simp [StatementReport.hasFindings, hEntry]
    rw [← hFilter]
    simp [Report.toValue, Value.field]

/-
  Two rules fire on the one statement that is long, and one
  of them is kept out.
-/
theorem summary_accounts_for_report_of_long_rules :
    let rule : Rule := .longSample
    let config : Configuration :=
      ⟨.warning, .flag false, .flag false, .text "mysql"⟩
    let catalog : List Rule :=
      [{ rule with id := .text "b", risk := .info }, rule]
    let texts := ["x".toList, "SELECT 1".toList]
    ∃ report,
      (check config catalog texts).report = .ok report ∧
        report.summary.total = 1 ∧
        report.summary.suppressed = 1 ∧
        ∃ firings : List (Nat × Nat),
          firings.Nodup ∧
            (∀ i k, (i, k) ∈ firings ↔
              FiresAt catalog texts i k) ∧
            report.summary.total +
                report.summary.suppressed =
              firings.length := by
  intro rule config catalog texts
  refine ⟨_, rfl, rfl, rfl, ?_⟩
  have hSummary :=
    summary_accounts_for_report config catalog texts _ rfl
  exact hSummary.2.2.2.2.1

end SqlAudit
