import SqlAudit.Proofs.Check.Outcome

/-
  The fault at which a check stops.

  A check stops at the first statement on which some rule
  comes to no match, and the first such rule there says why.
  That depends on the rules and the texts alone: the
  configuration and the place of a statement in the run have
  no part in it.

  Key definitions include:
    * `SqlAudit.Rule.fault?`
    * `SqlAudit.faultOn`
    * `SqlAudit.firstFault`

  Key theorems include:
    * `SqlAudit.inspect_fault`
    * `SqlAudit.inspect_report_eq_ok_iff`
    * `SqlAudit.firstFault_eq_none_iff`
    * `SqlAudit.Run.report_eq_error_iff`
    * `SqlAudit.Run.exists_report_iff`
-/

------------------------------------------------------------
-- Faults On One Statement
------------------------------------------------------------

namespace SqlAudit

namespace Rule

/- Why the rule comes to no match on the statement. -/
def fault?
    (rule : Rule)
    (s : Statement) : Option Fault :=
  match rule.evaluate s with
  | .error e => some e
  | .ok _ => none

theorem fault?_eq_none_iff
    {rule : Rule}
    {s : Statement} :
    rule.fault? s = none ↔ rule.Answers s := by
  unfold fault? Answers
  cases rule.evaluate s with
  | error e => simp
  | ok m => simp

theorem verdict_of_fault
    {rule : Rule}
    {s : Statement}
    {e : Fault}
    (config : Configuration)
    (index : Int)
    (hFault : rule.fault? s = some e) :
    rule.verdict config index s = .error e := by
  unfold fault? at hFault
  cases hEval : rule.evaluate s with
  | ok m => simp [hEval] at hFault
  | error e' =>
      have hSame : e' = e := by simpa [hEval] using hFault
      simp [verdict, hEval, hSame, bind, Except.bind]

end Rule

/- The first fault of the rules on a statement. -/
def faultOn
    (catalog : List Rule)
    (s : Statement) : Option Fault :=
  catalog.findSome? fun rule => rule.fault? s

theorem verdicts_fault
    (config : Configuration)
    (index : Int)
    (s : Statement)
    (catalog : List Rule) :
    (verdicts config index s catalog).2 =
      faultOn catalog s := by
  induction catalog with
  | nil => rfl
  | cons rule rules ih =>
      cases hFault : rule.fault? s with
      | some e =>
          have hVerdict :=
            Rule.verdict_of_fault config index hFault
          simp [verdicts, faultOn, hVerdict, hFault]
      | none =>
          have hVerdict :=
            Rule.verdict_of_answers config index
              (Rule.fault?_eq_none_iff.mp hFault)
          simp [verdicts, faultOn, hVerdict, hFault, ih]

/- An inspection ends at the first fault of its rules. -/
theorem inspect_fault
    (config : Configuration)
    (catalog : List Rule)
    (index : Int)
    (s : Statement) :
    (inspect config catalog index s).fault =
      faultOn catalog s :=
  verdicts_fault config index s catalog

theorem faultOn_eq_none_iff
    {catalog : List Rule}
    {s : Statement} :
    faultOn catalog s = none ↔
      ∀ rule ∈ catalog, rule.Answers s := by
  unfold faultOn
  rw [List.findSome?_eq_none_iff]
  simp only [Rule.fault?_eq_none_iff]

theorem faultOn_append
    (first second : List Rule)
    (s : Statement) :
    faultOn (first ++ second) s =
      (faultOn first s).or (faultOn second s) :=
  List.findSome?_append

theorem inspect_report_eq_error_iff
    (config : Configuration)
    (catalog : List Rule)
    (index : Int)
    (s : Statement)
    (e : Fault) :
    (inspect config catalog index s).report = .error e ↔
      faultOn catalog s = some e := by
  rw [Inspection.report, inspect_fault]
  cases faultOn catalog s with
  | none => simp
  | some e' => simp

theorem inspect_report_eq_ok_iff
    (config : Configuration)
    (catalog : List Rule)
    (index : Int)
    (s : Statement)
    (report : StatementReport) :
    (inspect config catalog index s).report = .ok report ↔
      faultOn catalog s = none ∧
        report = ⟨index, s,
          (inspect config catalog index s).findings⟩ := by
  rw [Inspection.report, inspect_fault]
  cases faultOn catalog s with
  | none =>
      simp only [Except.ok.injEq, true_and]
      exact eq_comm
  | some e => simp

end SqlAudit

------------------------------------------------------------
-- Faults Of A Run
------------------------------------------------------------

namespace SqlAudit

/- The first fault on the statements of a run. -/
def firstFault
    (catalog : List Rule)
    (texts : List (List Char)) : Option Fault :=
  texts.findSome? fun text => faultOn catalog (.ofText text)

theorem firstFault_append
    (catalog : List Rule)
    (xs ys : List (List Char)) :
    firstFault catalog (xs ++ ys) =
      (firstFault catalog xs).or (firstFault catalog ys) :=
  List.findSome?_append

theorem firstFault_eq_none_iff
    {catalog : List Rule}
    {texts : List (List Char)} :
    firstFault catalog texts = none ↔
      AllAnswer catalog texts := by
  unfold firstFault AllAnswer
  rw [List.findSome?_eq_none_iff]
  simp only [faultOn_eq_none_iff]

/- A run with a fault has no report, but the fault. -/
theorem mapM_report_of_firstFault
    (config : Configuration)
    {catalog : List Rule}
    {texts : List (List Char)}
    {e : Fault}
    (index : Nat)
    (hFault : firstFault catalog texts = some e) :
    (inspectAll config catalog index texts).mapM
      Inspection.report = .error e := by
  induction texts generalizing index with
  | nil => cases hFault
  | cons text texts ih =>
      have hInspect :=
        inspect_fault config catalog index (.ofText text)
      unfold firstFault at hFault
      cases hText : faultOn catalog (.ofText text) with
      | some e' =>
          have hSame : e' = e := by
            simpa [hText] using hFault
          rw [hText, hSame] at hInspect
          simp [inspectAll, hInspect, List.mapM_cons,
            Inspection.report, bind, Except.bind]
      | none =>
          have hRest := ih (index + 1)
            (by simpa [hText, firstFault] using hFault)
          rw [hText] at hInspect
          simp [inspectAll, hInspect, List.mapM_cons,
            Inspection.report, hRest, bind, Except.bind]

/- A check fails with the first fault, and only with it. -/
theorem Run.report_eq_error_iff
    (config : Configuration)
    (catalog : List Rule)
    (texts : List (List Char))
    (e : Fault) :
    (check config catalog texts).report = .error e ↔
      firstFault catalog texts = some e := by
  cases hFault : firstFault catalog texts with
  | some e' =>
      have hReports :=
        mapM_report_of_firstFault config 0 hFault
      simp [Run.report, check, hReports, bind, Except.bind]
  | none =>
      have hOk := (Run.report_eq_ok_iff config catalog texts
        _).mpr ⟨firstFault_eq_none_iff.mp hFault, rfl⟩
      simp [hOk]

/- A check has a report exactly when all rules answer. -/
theorem Run.exists_report_iff
    (config : Configuration)
    (catalog : List Rule)
    (texts : List (List Char)) :
    (∃ report,
        (check config catalog texts).report = .ok report) ↔
      AllAnswer catalog texts := by
  simp [Run.report_eq_ok_iff]

end SqlAudit
