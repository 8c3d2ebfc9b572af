import SqlAudit.Proofs.Check.Accounting
import SqlAudit.Proofs.Check.Restriction
import SqlAudit.Trace

/-
  The trace of a check tells what its report holds.

  A check leaves one record for every place where a rule
  fires, in the order of the places, and a last one with the
  totals. A record says whether the firing was reported or
  kept out, and this can be read off its text. So the records
  of findings are the findings of the report, one by one.

  Key definitions include:
    * `SqlAudit.Trace.fired`
    * `SqlAudit.Trace.suppressed`
    * `SqlAudit.Trace.Record.saysFired`
    * `SqlAudit.Trace.Record.saysSuppressed`
    * `SqlAudit.LoggedAt`

  Key theorems include:
    * `SqlAudit.Trace.filter_saysFired`
    * `SqlAudit.Trace.countP_saysSuppressed`
    * `SqlAudit.check_trace_eq`
    * `SqlAudit.trace_mirrors_report`
-/

------------------------------------------------------------
-- What A Record Says
------------------------------------------------------------

namespace SqlAudit

namespace Trace

/- The record of a finding. -/
def fired (f : Finding) : Record where
  level := .debug
  source := .evaluation
  message :=
    "Statement ".toList ++ (toString f.index).toList ++
      ": ".toList ++ f.ruleId.display ++
      " fired (".toList ++ (toString f.count).toList ++
      " matches)".toList

/- The record of a firing that is kept out of the report. -/
def suppressed
    (index : Int)
    (ruleId : Value)
    (level : Nat) : Record where
  level := .debug
  source := .evaluation
  message :=
    "Statement ".toList ++ (toString index).toList ++
      ": ".toList ++ ruleId.display ++
      " suppressed at risk level ".toList ++
      (toString level).toList

/- The record of a check that came to its end. -/
def finished
    (statements rules findings suppressed : Nat) : Record where
  level := .info
  source := .evaluation
  message :=
    "Checked ".toList ++ (toString statements).toList ++
      " statements against ".toList ++
      (toString rules).toList ++ " rules: ".toList ++
      (toString findings).toList ++ " findings (".toList ++
      (toString suppressed).toList ++ " suppressed)".toList

/- The text ends like that of a finding. -/
def Record.saysFired (r : Record) : Bool :=
  " matches)".toList.isSuffixOf r.message

/- The text ends like that of a firing that is kept out. -/
def Record.saysSuppressed (r : Record) : Bool :=
  Risk.all.any fun risk =>
    (" suppressed at risk level ".toList ++
      (toString risk.level).toList).isSuffixOf r.message

theorem ofVerdict_reported
    (f : Finding) :
    ofVerdict (.reported f) = some (fired f) := by
  simp [ofVerdict, fired, sentence]

theorem ofVerdict_suppressed
    (index : Int)
    (ruleId : Value)
    (level : Risk) :
    ofVerdict (.suppressed index ruleId level) =
      some (suppressed index ruleId level.level) := by
  simp [ofVerdict, suppressed, sentence]

theorem checked_eq
    (rules : Nat)
    (t : Tally) :
    checked rules t =
      finished t.statements rules t.total t.suppressed := by
  simp [checked, finished, sentence]

/-
  No text ends like two texts that differ in their last
  characters.
-/
theorem not_isSuffixOf
    {ending message u v a b : List Char}
    (hEnding : ending = u ++ a)
    (hMessage : message = v ++ b)
    (hLength : a.length = b.length)
    (hNe : a ≠ b) :
    ending.isSuffixOf message = false := by
  rw [← Bool.not_eq_true, List.isSuffixOf_iff_suffix,
    hEnding, hMessage]
  rintro ⟨t, hSame⟩
  rw [← List.append_assoc] at hSame
  exact hNe (List.append_inj' hSame hLength).2

theorem exists_digit_of_level
    (level : Risk) :
    ∃ d, (toString level.level).toList = [d] ∧ d ≠ ')' := by
  cases level with
  | info => exact ⟨'1', rfl, by decide⟩
  | warning => exact ⟨'2', rfl, by decide⟩
  | error => exact ⟨'3', rfl, by decide⟩

theorem not_saysSuppressed
    {r : Record}
    {body : List Char}
    (hMessage : r.message = body ++ [')']) :
    r.saysSuppressed = false := by
  rw [Record.saysSuppressed, List.any_eq_false]
  intro level _
  rcases exists_digit_of_level level with ⟨d, hLevel, hNe⟩
  rw [Bool.not_eq_true, hLevel]
  exact not_isSuffixOf rfl hMessage rfl (by simpa using hNe)

section Endings

variable (f : Finding)
variable (index : Int)
variable (ruleId : Value)
variable (level : Risk)
variable (statements rules findings kept : Nat)

@[simp] theorem saysFired_fired :
    (fired f).saysFired = true :=
  List.isSuffixOf_iff_suffix.mpr (List.suffix_append _ _)

@[simp] theorem saysSuppressed_fired :
    (fired f).saysSuppressed = false := by
  apply not_saysSuppressed
  change _ ++ (" matches".toList ++ [')']) = _
  exact (List.append_assoc _ _ _).symm

@[simp] theorem saysFired_suppressed :
    (suppressed index ruleId level.level).saysFired =
      false := by
  rcases exists_digit_of_level level with ⟨d, hLevel, hNe⟩
  apply not_isSuffixOf (u := " matches".toList)
    (a := [')']) (b := [d]) rfl
  · rw [suppressed, hLevel]
  · rfl
  · simpa using hNe.symm

@[simp] theorem saysSuppressed_suppressed :
    (suppressed index ruleId level.level).saysSuppressed =
      true := by
  rw [Record.saysSuppressed, List.any_eq_true]
  refine ⟨level, by cases level <;> decide, ?_⟩
  rw [List.isSuffixOf_iff_suffix, suppressed,
    List.append_assoc]
  exact List.suffix_append _ _

@[simp] theorem saysFired_finished :
    (finished statements rules findings kept).saysFired =
      false := by
  apply not_isSuffixOf (u := " matche".toList)
    (a := "s)".toList) (b := "d)".toList) rfl
  · change _ ++ (" suppresse".toList ++ "d)".toList) = _
    exact (List.append_assoc _ _ _).symm
  · rfl
  · decide

@[simp] theorem saysSuppressed_finished :
    (finished statements rules findings kept).saysSuppressed =
      false := by
  apply not_saysSuppressed
  change _ ++ (" suppressed".toList ++ [')']) = _
  exact (List.append_assoc _ _ _).symm

end Endings

end Trace

end SqlAudit

------------------------------------------------------------
-- Records Of Verdicts
------------------------------------------------------------

namespace SqlAudit

namespace Trace

/- The records that say so are those of the findings. -/
theorem filter_saysFired
    (vs : List Verdict) :
    (vs.filterMap ofVerdict).filter Record.saysFired =
      (vs.filterMap Verdict.finding?).map fired := by
  induction vs with
  | nil => rfl
  | cons v vs ih =>
      cases v with
      | silent =>
          simpa [List.filterMap_cons, ofVerdict,
            Verdict.finding?] using ih
      | suppressed index ruleId level =>
          simpa [List.filterMap_cons, ofVerdict_suppressed,
            Verdict.finding?] using ih
      | reported f =>
          simpa [List.filterMap_cons, ofVerdict_reported,
            Verdict.finding?] using ih

/- So are those of the firings that are kept out. -/
theorem countP_saysSuppressed
    (vs : List Verdict) :
    (vs.filterMap ofVerdict).countP Record.saysSuppressed =
      vs.countP Verdict.isSuppressed := by
  induction vs with
  | nil => rfl
  | cons v vs ih =>
      cases v with
      | silent =>
          simpa [List.filterMap_cons, List.countP_cons,
            ofVerdict, Verdict.isSuppressed] using ih
      | suppressed index ruleId level =>
          simpa [List.filterMap_cons, List.countP_cons,
            ofVerdict_suppressed, Verdict.isSuppressed]
            using ih
      | reported f =>
          simpa [List.filterMap_cons, List.countP_cons,
            ofVerdict_reported, Verdict.isSuppressed]
            using ih

end Trace

/- The record that a rule leaves about a statement. -/
def Rule.record?
    (config : Configuration)
    (index : Nat)
    (s : Statement)
    (rule : Rule) : Option Trace.Record :=
  Trace.ofVerdict (rule.answer config index s)

theorem Rule.record?_eq
    (config : Configuration)
    (index : Nat)
    (s : Statement)
    (rule : Rule) :
    rule.record? config index s =
      (rule.firing? s).map fun count =>
        if config.minRisk ≤ rule.risk then
          Trace.fired (rule.finding index count)
        else
          Trace.suppressed index rule.id
            config.minRisk.level := by
  unfold record? answer
  cases rule.firing? s with
  | none => rfl
  | some count =>
      by_cases hRisk : config.minRisk ≤ rule.risk
      · simp [hRisk, Trace.ofVerdict_reported]
      · simp [hRisk, Trace.ofVerdict_suppressed]

end SqlAudit

------------------------------------------------------------
-- The Trace Of A Check
------------------------------------------------------------

namespace SqlAudit

/- The records of a check in which every rule answers. -/
theorem check_trace_eq
    (config : Configuration)
    {catalog : List Rule}
    {texts : List (List Char)}
    (hAnswer : AllAnswer catalog texts) :
    (check config catalog texts).trace =
      (answeredFrom config catalog 0 texts).flatMap
          Inspection.trace ++
        [Trace.checked catalog.length
          (answeredReport config catalog texts).summary] := by
  have hFaults :
      (answeredFrom config catalog 0 texts).all
        (fun i => i.fault.isNone) = true := by
    rw [List.all_eq_true]
    intro i hMem
    rcases List.mem_map.mp hMem with ⟨t, _, rfl⟩
    rfl
  simp only [Run.trace, check, Run.summary,
    inspectAll_eq_of_answers config 0 hAnswer, hFaults,
    if_true]
  rfl

theorem flatMap_trace_answeredFrom
    (config : Configuration)
    (catalog : List Rule)
    (texts : List (List Char)) :
    (answeredFrom config catalog 0 texts).flatMap
        Inspection.trace =
      texts.zipIdx.flatMap fun t =>
        catalog.filterMap
          (Rule.record? config t.2 (.ofText t.1)) := by
  simp only [answeredFrom, List.flatMap_map,
    Inspection.trace, answered, List.filterMap_map]
  rfl

/-
  The record says what became of the firing at a place: of a
  finding its index, rule and count, and of a firing that is
  kept out the index, the rule and the configured level.
-/
inductive LoggedAt
    (config : Configuration)
    (catalog : List Rule)
    (texts : List (List Char))
    (findings : List Finding)
    (place : Nat × Nat) :
    Trace.Record → Prop
| fired
    {f : Finding} :
    AdmittedAt config catalog texts place.1 place.2 →
    FoundAt catalog texts place f →
    f ∈ findings →
    LoggedAt config catalog texts findings place
      (Trace.fired f)
| suppressed
    {rule : Rule} :
    ¬ AdmittedAt config catalog texts place.1 place.2 →
    catalog[place.2]? = some rule →
    LoggedAt config catalog texts findings place
      (Trace.suppressed place.1 rule.id config.minRisk.level)

/- The records go with the places of the firings. -/
theorem records_loggedAt
    (config : Configuration)
    (catalog : List Rule)
    (texts : List (List Char)) :
    List.Forall₂
      (LoggedAt config catalog texts
        (answeredReport config catalog texts).findings)
      (places Rule.fires catalog texts)
      (texts.zipIdx.flatMap fun t =>
        catalog.filterMap
          (Rule.record? config t.2 (.ofText t.1))) := by
  refine forall₂_places ?_ ?_
  · intro i k text rule hText hRule hFires
    rcases Rule.fires_iff.mp hFires with ⟨m, hEval, hFired⟩
    have hFiring : rule.firing? (.ofText text) = some m.count :=
      Rule.firing?_eq_some_iff.mpr ⟨m, hEval, hFired, rfl⟩
    have hRecord :=
      Rule.record?_eq config i (.ofText text) rule
    rw [hFiring, Option.map_some] at hRecord
    by_cases hRisk : config.minRisk ≤ rule.risk
    · have hAt : FiresAt catalog texts i k :=
        ⟨text, rule, m, hText, hRule, hEval, hFired⟩
      have hFound :=
        foundAt_of_fires hText hRule hEval hFired
      have hListed :=
        mem_findings_of_fires hText hRule hEval hFired hRisk
      rw [if_pos hRisk] at hRecord
      exact ⟨_, hRecord,
        .fired ⟨hAt, rule, hRule, hRisk⟩ hFound hListed⟩
    · have hNot : ¬ AdmittedAt config catalog texts i k := by
        rintro ⟨_, rule', hRule', hRisk'⟩
        rw [hRule, Option.some.injEq] at hRule'
        exact hRisk (hRule' ▸ hRisk')
      rw [if_neg hRisk] at hRecord
      exact ⟨_, hRecord, .suppressed hNot hRule⟩
  · intro i s rule hNot
    have hFiring : rule.firing? s = none := by
      simpa [Rule.fires] using hNot
    rw [Rule.record?_eq, hFiring]
    rfl

/- The records of findings are those of the report. -/
theorem filter_saysFired_answeredFrom
    (config : Configuration)
    (catalog : List Rule)
    (texts : List (List Char)) :
    ((answeredFrom config catalog 0 texts).flatMap
        Inspection.trace).filter Trace.Record.saysFired =
      (answeredReport config catalog texts).findings.map
        Trace.fired := by
  simp only [Report.findings, answeredReport,
    List.filter_flatMap, List.map_flatMap, List.flatMap_map,
    Inspection.trace, Trace.filter_saysFired]
  rfl

theorem countP_saysSuppressed_answeredFrom
    (config : Configuration)
    (catalog : List Rule)
    (texts : List (List Char)) :
    ((answeredFrom config catalog 0 texts).flatMap
        Inspection.trace).countP Trace.Record.saysSuppressed =
      suppressedFirings config catalog texts := by
  simp only [suppressedFirings, List.countP_flatMap,
    Function.comp_def, Inspection.trace,
    Trace.countP_saysSuppressed]

/-
  The trace of a check that has a report holds one record for
  every firing, in the order of the places. The record says
  that the rule fired, with the index, the rule and the count
  of the finding, or that it was kept out, with the index, the
  rule and the risk level that was set. The totals come last.
  So the records of findings are the findings of the report,
  and there are as many of the others as the summary says.
-/
theorem trace_mirrors_report
    (config : Configuration)
    (catalog : List Rule)
    (texts : List (List Char))
    (report : Report)
    (hReport :
      (check config catalog texts).report = .ok report) :
    let trace := (check config catalog texts).trace
    (∃ (firings : List (Nat × Nat))
        (records : List Trace.Record),
      firings.Pairwise (Prod.Lex (· < ·) (· < ·)) ∧
        (∀ i k, (i, k) ∈ firings ↔
          FiresAt catalog texts i k) ∧
        List.Forall₂
          (LoggedAt config catalog texts report.findings)
          firings records ∧
        trace = records ++
          [Trace.finished texts.length catalog.length
            report.summary.total
            report.summary.suppressed]) ∧
    (∀ settings : Settings, settings.check = .ok config →
      settings.riskLevel =
        .integer config.minRisk.level) ∧
    trace.filter Trace.Record.saysFired =
      report.findings.map Trace.fired ∧
    trace.countP Trace.Record.saysSuppressed =
      report.summary.suppressed := by
  intro trace
  rcases (Run.report_eq_ok_iff config catalog texts
    report).mp hReport with ⟨hAnswer, rfl⟩
  have hAccounts :=
    answeredReport_accounts config catalog texts
  have hTrace := check_trace_eq config hAnswer
  rw [Trace.checked_eq, hAccounts.statements] at hTrace
  refine ⟨⟨places Rule.fires catalog texts, _, ?_, ?_,
    records_loggedAt config catalog texts, ?_⟩, ?_, ?_, ?_⟩
  · exact places_pairwise _ catalog texts
  · intro i k
    exact mem_places_fires_iff
  · rw [← flatMap_trace_answeredFrom]
    exact hTrace
  · intro settings hCheck
    exact Settings.riskLevel_of_check hCheck
  · simp only [trace, hTrace, List.filter_append,
      filter_saysFired_answeredFrom]
    simp
  · simp only [trace, hTrace, List.countP_append,
      countP_saysSuppressed_answeredFrom,
      hAccounts.suppressed]
    simp

/-
  Two rules fire on the one statement that is long, and one
  of them is kept out.
-/
theorem trace_mirrors_report_of_long_rules :
    let rule : Rule := .longSample
    let config : Configuration :=
      ⟨.warning, .flag false, .flag false, .text "mysql"⟩
    let catalog : List Rule :=
      [{ rule with id := .text "b", risk := .info }, rule]
    let texts := ["x".toList, "SELECT 1".toList]
    let run := check config catalog texts
    ∃ report,
      run.report = .ok report ∧
        report.findings.length = 1 ∧
        run.trace.filter Trace.Record.saysFired =
          report.findings.map Trace.fired ∧
        run.trace.countP Trace.Record.saysSuppressed = 1 := by
  intro rule config catalog texts run
  have hMirrors :=
    trace_mirrors_report config catalog texts _ rfl
  exact ⟨_, rfl, rfl, hMirrors.2.2.1, hMirrors.2.2.2⟩

end SqlAudit
