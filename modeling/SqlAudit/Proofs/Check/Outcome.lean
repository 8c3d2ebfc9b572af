import Mathlib.Data.List.Basic
import SqlAudit.Check

/-
  What a check of many statements comes to.

  A rule answers on a statement when its pattern can be
  formed there.  A check has a report exactly when every rule
  answers on every statement, and the report is then built
  from the answers one by one: nothing that was said about
  one statement, or by one rule, reaches another.

  Key definitions include:
    * `SqlAudit.Rule.Answers`
    * `SqlAudit.Rule.firing?`
    * `SqlAudit.Rule.answer`
    * `SqlAudit.answered`

  Key theorems include:
    * `SqlAudit.verdicts_eq_of_answers`
    * `SqlAudit.inspectAll_eq_of_answers`
    * `SqlAudit.Run.report_eq_ok_iff`
-/

------------------------------------------------------------
-- Answers Of One Rule
------------------------------------------------------------

namespace SqlAudit

namespace Rule

/- The rule comes to a match on the statement. -/
def Answers
    (rule : Rule)
    (s : Statement) : Prop :=
  ∃ m, rule.evaluate s = .ok m

/- The count with which the rule fires, if it fires. -/
def firing?
    (rule : Rule)
    (s : Statement) : Option Nat :=
  match rule.evaluate s with
  | .ok m => if m.fired then some m.count else none
  | .error _ => none

/-
  The verdict of a rule, where a rule that does not answer
  counts as silent.
-/
def answer
    (config : Configuration)
    (index : Int)
    (s : Statement)
    (rule : Rule) : Verdict :=
  match rule.firing? s with
  | none => .silent
  | some count =>
      if config.minRisk ≤ rule.risk then
        .reported (rule.finding index count)
      else
        .suppressed index rule.id config.minRisk

/- A rule fires exactly when its guarded test does. -/
theorem firing?_eq_some_iff
    {rule : Rule}
    {s : Statement}
    {count : Nat} :
    rule.firing? s = some count ↔
      ∃ m, rule.evaluate s = .ok m ∧
        m.fired = true ∧ m.count = count := by
  unfold firing?
  cases hEval : rule.evaluate s with
  | error e => simp
  | ok m =>
      by_cases hFired : m.fired = true
      · simp [hFired]
      · simp [hFired]

/- The verdict of a rule that answers. -/
theorem verdict_of_answers
    {rule : Rule}
    {s : Statement}
    (config : Configuration)
    (index : Int)
    (hAnswers : rule.Answers s) :
    rule.verdict config index s =
      .ok (rule.answer config index s) := by
  rcases hAnswers with ⟨m, hEval⟩
  by_cases hFired : m.fired = true
  · by_cases hRisk : config.minRisk ≤ rule.risk
    · simp [verdict, answer, firing?, finding?, hEval,
        hFired, hRisk, bind, Except.bind, pure,
        Except.pure]
    · simp [verdict, answer, firing?, finding?, hEval,
        hFired, hRisk, bind, Except.bind, pure,
        Except.pure]
  · simp [verdict, answer, firing?, hEval, hFired, bind,
      Except.bind, pure, Except.pure]

/- A rule that does not answer has no verdict. -/
theorem verdict_of_not_answers
    {rule : Rule}
    {s : Statement}
    (config : Configuration)
    (index : Int)
    (hAnswers : ¬ rule.Answers s) :
    ∃ e, rule.verdict config index s = .error e := by
  cases hEval : rule.evaluate s with
  | ok m => exact absurd ⟨m, hEval⟩ hAnswers
  | error e =>
      exact ⟨e, by simp [verdict, hEval, bind, Except.bind]⟩

end Rule

end SqlAudit

------------------------------------------------------------
-- Answers On One Statement
------------------------------------------------------------

namespace SqlAudit

/- Where all rules answer, every one has its verdict. -/
theorem verdicts_eq_of_answers
    {catalog : List Rule}
    {s : Statement}
    (config : Configuration)
    (index : Int)
    (hAnswers : ∀ rule ∈ catalog, rule.Answers s) :
    verdicts config index s catalog =
      (catalog.map (Rule.answer config index s), none) := by
  induction catalog with
  | nil => rfl
  | cons rule rules ih =>
      have hRule : rule.Answers s :=
        hAnswers rule List.mem_cons_self
      have hRules :=
        ih fun r hr => hAnswers r (List.mem_cons_of_mem _ hr)
      simp [verdicts,
        Rule.verdict_of_answers config index hRule, hRules]

/- Verdicts without a fault are verdicts of all rules. -/
theorem answers_of_verdicts_fault
    {catalog : List Rule}
    {config : Configuration}
    {index : Int}
    {s : Statement}
    (hFault :
      (verdicts config index s catalog).2 = none) :
    ∀ rule ∈ catalog, rule.Answers s := by
  induction catalog with
  | nil => simp
  | cons rule rules ih =>
      by_cases hRule : rule.Answers s
      · simp only [verdicts,
          Rule.verdict_of_answers config index hRule]
          at hFault
        intro r hMem
        rcases List.mem_cons.mp hMem with hEq | hTail
        · exact hEq ▸ hRule
        · exact ih hFault r hTail
      · rcases Rule.verdict_of_not_answers config index
          hRule with ⟨e, hError⟩
        simp [verdicts, hError] at hFault

/- What all rules of a catalog say of a statement. -/
def answered
    (config : Configuration)
    (catalog : List Rule)
    (index : Int)
    (s : Statement) : Inspection where
  index := index
  statement := s
  verdicts := catalog.map (Rule.answer config index s)
  fault := none

theorem inspect_eq_of_answers
    {catalog : List Rule}
    {s : Statement}
    (config : Configuration)
    (index : Int)
    (hAnswers : ∀ rule ∈ catalog, rule.Answers s) :
    inspect config catalog index s =
      answered config catalog index s := by
  simp [inspect, answered,
    verdicts_eq_of_answers config index hAnswers]

/- An inspection has no fault when all rules answer. -/
theorem inspect_fault_eq_none_iff
    (config : Configuration)
    (catalog : List Rule)
    (index : Int)
    (s : Statement) :
    (inspect config catalog index s).fault = none ↔
      ∀ rule ∈ catalog, rule.Answers s := by
  constructor
  · intro hFault
    exact answers_of_verdicts_fault hFault
  · intro hAnswers
    rw [inspect_eq_of_answers config index hAnswers]
    rfl

end SqlAudit

------------------------------------------------------------
-- Answers On Many Statements
------------------------------------------------------------

namespace SqlAudit

/- Every rule answers on every statement. -/
def AllAnswer
    (catalog : List Rule)
    (texts : List (List Char)) : Prop :=
  ∀ text ∈ texts, ∀ rule ∈ catalog,
    rule.Answers (.ofText text)

/- The inspections of texts, counted from an index on. -/
def answeredFrom
    (config : Configuration)
    (catalog : List Rule)
    (index : Nat)
    (texts : List (List Char)) : List Inspection :=
  (texts.zipIdx index).map fun p =>
    answered config catalog p.2 (.ofText p.1)

theorem answeredFrom_cons
    (config : Configuration)
    (catalog : List Rule)
    (index : Nat)
    (text : List Char)
    (texts : List (List Char)) :
    answeredFrom config catalog index (text :: texts) =
      answered config catalog index (.ofText text) ::
        answeredFrom config catalog (index + 1) texts := by
  simp [answeredFrom]

theorem inspectAll_eq_of_answers
    (config : Configuration)
    {catalog : List Rule}
    {texts : List (List Char)}
    (index : Nat)
    (hAnswer : AllAnswer catalog texts) :
    inspectAll config catalog index texts =
      answeredFrom config catalog index texts := by
  induction texts generalizing index with
  | nil => rfl
  | cons text texts ih =>
      have hText :
          ∀ rule ∈ catalog, rule.Answers (.ofText text) :=
        hAnswer text List.mem_cons_self
      have hTexts : AllAnswer catalog texts :=
        fun t ht => hAnswer t (List.mem_cons_of_mem _ ht)
      have hInspect :=
        inspect_eq_of_answers config (index : Int) hText
      rw [answeredFrom_cons, ← ih (index + 1) hTexts]
      simp [inspectAll, hInspect, answered]

/-
  A run whose inspections all have a report met no fault, so
  that it went on to the last statement.
-/
theorem allAnswer_of_reports
    {config : Configuration}
    {catalog : List Rule}
    {texts : List (List Char)}
    {index : Nat}
    {reports : List StatementReport}
    (hReports :
      (inspectAll config catalog index texts).mapM
        Inspection.report = .ok reports) :
    AllAnswer catalog texts := by
  induction texts generalizing index reports with
  | nil => intro text hMem; cases hMem
  | cons text texts ih =>
      cases hFault :
          (inspect config catalog index
            (.ofText text)).fault with
      | some e =>
          simp [inspectAll, hFault, List.mapM_cons,
            Inspection.report, bind, Except.bind]
            at hReports
      | none =>
          have hText :=
            (inspect_fault_eq_none_iff config catalog index
              (.ofText text)).mp hFault
          simp only [inspectAll, hFault, Option.isNone_none,
            if_true, List.mapM_cons] at hReports
          cases hRest :
              (inspectAll config catalog (index + 1)
                texts).mapM Inspection.report with
          | error e =>
              simp [hRest, Inspection.report, hFault, bind,
                Except.bind] at hReports
          | ok rest =>
              intro t hMem
              rcases List.mem_cons.mp hMem with hEq | hTail
              · exact hEq ▸ hText
              · exact ih hRest t hTail

/- Inspections without a fault each have their report. -/
theorem mapM_report_answeredFrom
    (config : Configuration)
    (catalog : List Rule)
    (index : Nat)
    (texts : List (List Char)) :
    (answeredFrom config catalog index texts).mapM
        Inspection.report =
      .ok ((answeredFrom config catalog index texts).map
        fun i => ⟨i.index, i.statement, i.findings⟩) := by
  induction texts generalizing index with
  | nil => rfl
  | cons text texts ih =>
      rw [answeredFrom_cons, List.mapM_cons, ih (index + 1)]
      rfl

/- The report that is made of the answers one by one. -/
def answeredReport
    (config : Configuration)
    (catalog : List Rule)
    (texts : List (List Char)) : Report where
  statements :=
    (answeredFrom config catalog 0 texts).map fun i =>
      ⟨i.index, i.statement, i.findings⟩
  summary :=
    (answeredFrom config catalog 0 texts).foldl
      (fun t i => i.addTo t) {}

/-
  A check has a report exactly when every rule answers on
  every statement, and then it is made of the answers.
-/
theorem Run.report_eq_ok_iff
    (config : Configuration)
    (catalog : List Rule)
    (texts : List (List Char))
    (report : Report) :
    (check config catalog texts).report = .ok report ↔
      AllAnswer catalog texts ∧
        report = answeredReport config catalog texts := by
  have hAnswered :
      AllAnswer catalog texts →
        (check config catalog texts).report =
          .ok (answeredReport config catalog texts) := by
    intro hAnswer
    have hAll :=
      inspectAll_eq_of_answers config 0 hAnswer
    have hReports :=
      mapM_report_answeredFrom config catalog 0 texts
    simp only [Run.report, Run.summary, check, hAll,
      hReports]
    rfl
  constructor
  · intro hReport
    have hAnswer : AllAnswer catalog texts := by
      cases hMap :
          (check config catalog texts).inspections.mapM
            Inspection.report with
      | error e =>
          simp [Run.report, hMap, bind, Except.bind]
            at hReport
      | ok reports => exact allAnswer_of_reports hMap
    refine ⟨hAnswer, ?_⟩
    rw [hAnswered hAnswer] at hReport
    exact (Except.ok.inj hReport).symm
  · rintro ⟨hAnswer, rfl⟩
    exact hAnswered hAnswer

end SqlAudit
