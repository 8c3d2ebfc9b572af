import SqlAudit.Check.Step
import SqlAudit.Proofs.Check.Totals

/-
  What totals account for, step by step.

  Every step adds its own share to the totals, and the share
  depends on the step alone. So the totals after some steps
  are a sum of shares, and their order does not matter. Where
  every rule answers, the shares count what was recorded and
  returned, what was suppressed, and the statements.

  Key definitions include:
    * `SqlAudit.Tally.Step.share`
    * `SqlAudit.Tally.Step.Answered`
    * `SqlAudit.Tally.Step.filtered`

  Key theorems include:
    * `SqlAudit.Tally.serve_fst_eq`
    * `SqlAudit.Tally.after_eq_sum`
    * `SqlAudit.Tally.Accounts.serve`
    * `SqlAudit.Tally.Accounts.after`
    * `SqlAudit.Tally.totals_account_for_steps`
-/

------------------------------------------------------------
-- The Share Of A Step
------------------------------------------------------------

namespace SqlAudit

namespace Tally

variable (registry : Registry)

/- What a step adds to totals. -/
def Step.share (step : Step) : Tally :=
  (serve registry 0 step).1

theorem record_eq
    (t : Tally)
    (f : Finding) :
    t.record f = t + (0 : Tally).record f :=
  add_eq t (.reported f)

theorem serve_fst_eq
    (t : Tally)
    (step : Step) :
    (serve registry t step).1 = t + step.share registry := by
  unfold Step.share
  cases step with
  | check settings choice index s =>
      simp only [serve]
      cases prepare registry settings choice index s with
      | error e => exact (add_zero t).symm
      | ok i => exact i.addTo_eq t
  | record f => exact record_eq t f
  | suppress =>
      exact Tally.ext (add_zero _).symm (add_zero _).symm rfl
        (add_zero _).symm
  | countStatement =>
      exact Tally.ext (add_zero _).symm (add_zero _).symm
        (add_zero _).symm rfl
  | summary => exact (add_zero t).symm

/- The totals after steps are a sum of shares. -/
theorem after_eq_sum
    (t : Tally)
    (steps : List Step) :
    after registry t steps =
      t + (steps.map (Step.share registry)).sum := by
  induction steps generalizing t with
  | nil => exact (add_zero t).symm
  | cons step steps ih =>
      calc after registry t (step :: steps)
          = after registry (serve registry t step).1 steps := rfl
        _ = (serve registry t step).1 +
              (steps.map (Step.share registry)).sum := ih _
        _ = t + ((step :: steps).map
              (Step.share registry)).sum := by
            rw [serve_fst_eq, List.map_cons, List.sum_cons,
              add_assoc]

/- Steps can be taken in any order. -/
theorem after_perm
    (t : Tally)
    {steps others : List Step}
    (hPerm : steps.Perm others) :
    after registry t steps = after registry t others := by
  rw [after_eq_sum, after_eq_sum,
    (hPerm.map (Step.share registry)).sum_eq]

end Tally

end SqlAudit

------------------------------------------------------------
-- What A Step Accounts For
------------------------------------------------------------

namespace SqlAudit

namespace Tally

/- The finding that a step records. -/
def Step.recorded? : Step → Option Finding
| .record f => some f
| _ => none

def Step.isRecord : Step → Bool
| .record _ => true
| _ => false

def Step.isSuppress : Step → Bool
| .suppress => true
| _ => false

def Step.isCountStatement : Step → Bool
| .countStatement => true
| _ => false

/- The findings that a reply returns. -/
def Reply.findings : Reply → List Finding
| .report r => r.findings
| _ => []

/- The reply is that of a check that was completed. -/
def Reply.isReport : Reply → Bool
| .report _ => true
| _ => false

/- If the step is a check that begins, every rule answers. -/
def Step.Answered
    (registry : Registry) :
    Step → Prop
| .check settings choice _ s =>
    ∀ config catalog,
      settings.check = .ok config →
      choice.rules registry = .ok catalog →
      ∀ rule ∈ catalog, rule.Answers s
| _ => True

/-
  How many places of the catalog hold a rule that fires but
  is below the level of the step.
-/
def Step.filtered
    (registry : Registry) :
    Step → Nat
| .check settings choice _ s =>
    match settings.check, choice.rules registry with
    | .ok config, .ok catalog =>
        catalog.countP fun rule =>
          rule.fires s && !decide (config.minRisk ≤ rule.risk)
    | _, _ => 0
| _ => 0

namespace Accounts

variable {registry : Registry}
variable {t : Tally}
variable {findings : List Finding}
variable {suppressed statements : Nat}

/- Totals do not tell in which order findings were made. -/
theorem of_perm
    {others : List Finding}
    (hAccounts : t.Accounts findings suppressed statements)
    (hPerm : findings.Perm others) :
    t.Accounts others suppressed statements where
  byRisk r := by
    rw [hAccounts.byRisk, hPerm.countP_eq]
  byCategory c := by
    rw [hAccounts.byCategory, hPerm.countP_eq]
  suppressed := hAccounts.suppressed
  statements := hAccounts.statements

/- The suppressed verdicts are those of filtered rules. -/
theorem countP_isSuppressed_answered
    (config : Configuration)
    (catalog : List Rule)
    (index : Int)
    (s : Statement) :
    (answered config catalog index s).verdicts.countP
        Verdict.isSuppressed =
      catalog.countP fun rule =>
        rule.fires s &&
          !decide (config.minRisk ≤ rule.risk) := by
  unfold answered
  rw [List.countP_map]
  apply List.countP_congr
  intro rule _
  unfold Function.comp Rule.answer Rule.fires
  cases rule.firing? s with
  | none => simp [Verdict.isSuppressed]
  | some count =>
      by_cases hRisk : config.minRisk ≤ rule.risk
      · simp [hRisk, Verdict.isSuppressed]
      · simp [hRisk, Verdict.isSuppressed]

/- What the totals account for after one more step. -/
theorem serve
    (hAccounts : t.Accounts findings suppressed statements)
    {step : Step}
    (hAnswered : step.Answered registry) :
    (Tally.serve registry t step).1.Accounts
      (findings ++ (step.recorded?.toList ++
        (Tally.serve registry t step).2.findings))
      (suppressed + ((if step.isSuppress then 1 else 0) +
        step.filtered registry))
      (statements +
        ((if step.isCountStatement then 1 else 0) +
          if (Tally.serve registry t step).2.isReport then 1
          else 0)) := by
  cases step with
  | check settings choice index s =>
      cases hSettings : settings.check with
      | error e =>
          simpa [Tally.serve, prepare, hSettings,
            Step.recorded?, Step.isSuppress, Step.filtered,
            Step.isCountStatement, Reply.findings,
            Reply.isReport] using hAccounts
      | ok config =>
          cases hChoice : choice.rules registry with
          | error e =>
              simpa [Tally.serve, prepare, hSettings, hChoice,
                Step.recorded?, Step.isSuppress,
                Step.filtered, Step.isCountStatement,
                Reply.findings, Reply.isReport]
                using hAccounts
          | ok catalog =>
              have hInspect :=
                inspect_eq_of_answers config index
                  (hAnswered config catalog hSettings hChoice)
              have hReport :
                  (answered config catalog index s).report =
                    .ok ⟨index, s, (answered config catalog
                      index s).findings⟩ := rfl
              have hAdded := hAccounts.addTo
                (i := answered config catalog index s) rfl
              rw [countP_isSuppressed_answered] at hAdded
              simpa [Tally.serve, prepare, hSettings, hChoice,
                hInspect, hReport, Step.recorded?,
                Step.isSuppress, Step.filtered,
                Step.isCountStatement, Reply.ofReport,
                Reply.findings, Reply.isReport]
                using hAdded
  | record f =>
      simpa [Tally.serve, Step.recorded?, Step.isSuppress,
        Step.filtered, Step.isCountStatement, Reply.findings,
        Reply.isReport] using hAccounts.record f
  | suppress =>
      simpa [Tally.serve, Step.recorded?, Step.isSuppress,
        Step.filtered, Step.isCountStatement, Reply.findings,
        Reply.isReport] using hAccounts.suppress
  | countStatement =>
      simpa [Tally.serve, Step.recorded?, Step.isSuppress,
        Step.filtered, Step.isCountStatement, Reply.findings,
        Reply.isReport] using hAccounts.countStatement
  | summary =>
      simpa [Tally.serve, Step.recorded?, Step.isSuppress,
        Step.filtered, Step.isCountStatement, Reply.findings,
        Reply.isReport] using hAccounts

/-
  What the totals account for after all steps. The induction
  is on the steps, for any totals at the start.
-/
theorem after
    (hAccounts : t.Accounts findings suppressed statements)
    {steps : List Step}
    (hAnswered : ∀ step ∈ steps, step.Answered registry) :
    (Tally.after registry t steps).Accounts
      (findings ++ (steps.filterMap Step.recorded? ++
        (Tally.replies registry t steps).flatMap
          Reply.findings))
      (suppressed + (steps.countP Step.isSuppress +
        (steps.map (Step.filtered registry)).sum))
      (statements + (steps.countP Step.isCountStatement +
        (Tally.replies registry t steps).countP
          Reply.isReport)) := by
  induction steps generalizing t findings suppressed
      statements with
  | nil => simpa [Tally.after, Tally.replies] using hAccounts
  | cons step steps ih =>
      have hStep := hAccounts.serve
        (hAnswered step (by simp))
      have hRest := ih hStep fun other hMem =>
        hAnswered other (by simp [hMem])
      have hRecorded :
          (step :: steps).filterMap Step.recorded? =
            step.recorded?.toList ++
              steps.filterMap Step.recorded? := by
        cases hStepRecorded : step.recorded? with
        | none => simp [hStepRecorded]
        | some f => simp [hStepRecorded]
      have hSuppressed :
          suppressed + ((if step.isSuppress then 1 else 0) +
              step.filtered registry) +
            (steps.countP Step.isSuppress +
              (steps.map (Step.filtered registry)).sum) =
          suppressed +
            ((step :: steps).countP Step.isSuppress +
              ((step :: steps).map
                (Step.filtered registry)).sum) := by
        simp only [List.countP_cons, List.map_cons,
          List.sum_cons]
        omega
      have hStatements :
          statements +
              ((if step.isCountStatement then 1 else 0) +
                if (Tally.serve registry t step).2.isReport
                then 1 else 0) +
            (steps.countP Step.isCountStatement +
              (Tally.replies registry
                (Tally.serve registry t step).1
                steps).countP Reply.isReport) =
          statements +
            ((step :: steps).countP Step.isCountStatement +
              (Tally.replies registry t
                (step :: steps)).countP Reply.isReport) := by
        simp only [Tally.replies, List.countP_cons]
        omega
      rw [hSuppressed, hStatements] at hRest
      refine hRest.of_perm ?_
      rw [hRecorded, Tally.replies, List.flatMap_cons]
      simp only [List.append_assoc]
      exact (((List.perm_append_comm_assoc _ _ _).append_left
        _).append_left _)

end Accounts

end Tally

end SqlAudit

------------------------------------------------------------
-- All Steps
------------------------------------------------------------

namespace SqlAudit

namespace Tally

/- Without its settings or its rules, a check is refused. -/
theorem serve_check_of_settings_error
    (registry : Registry)
    (t : Tally)
    {settings : Settings}
    (choice : RuleChoice)
    (index : Int)
    (s : Statement)
    {e : Configuration.Error}
    (hSettings : settings.check = .error e) :
    serve registry t (.check settings choice index s) =
      (t, .refused (.settings e)) := by
  simp [serve, prepare, hSettings]

theorem serve_check_of_choice_error
    {registry : Registry}
    (t : Tally)
    {settings : Settings}
    {choice : RuleChoice}
    (index : Int)
    (s : Statement)
    {config : Configuration}
    {e : Selection.Error}
    (hSettings : settings.check = .ok config)
    (hChoice : choice.rules registry = .error e) :
    serve registry t (.check settings choice index s) =
      (t, .refused (.choice e)) := by
  simp [serve, prepare, hSettings, hChoice]

/- A check is answered as if no totals were kept. -/
theorem serve_check_snd
    {registry : Registry}
    (t : Tally)
    {settings : Settings}
    {choice : RuleChoice}
    (index : Int)
    (s : Statement)
    {config : Configuration}
    {catalog : List Rule}
    (hSettings : settings.check = .ok config)
    (hChoice : choice.rules registry = .ok catalog) :
    (serve registry t (.check settings choice index s)).2 =
      .ofReport (inspect config catalog index s).report := by
  simp [serve, prepare, hSettings, hChoice]

theorem countP_isRecord
    (steps : List Step) :
    steps.countP Step.isRecord =
      (steps.filterMap Step.recorded?).length := by
  rw [List.length_filterMap_eq_countP]
  apply List.countP_congr
  intro step _
  cases step <;> simp [Step.isRecord, Step.recorded?]

/-
  Totals over any steps. If every rule answers in the checks
  that begin, the totals are those of the findings recorded
  and returned, of what was suppressed or filtered, and of
  the statements counted and the checks completed. Whether
  rules answer or not, the order of the steps is immaterial,
  a check that is refused changes nothing, and a check that
  begins is answered as it would be with other totals, or
  with none.
-/
theorem totals_account_for_steps
    (registry : Registry)
    (steps : List Step) :
    let t := after registry {} steps
    let answers := replies registry {} steps
    let made := steps.filterMap Step.recorded?
    let found := answers.flatMap Reply.findings
    ((∀ step ∈ steps, step.Answered registry) →
      (∀ r, t.byRisk.get r =
        made.countP (fun f => f.risk = r) +
          found.countP fun f => f.risk = r) ∧
      (∀ c, t.byCategory.get c =
        made.countP (fun f => f.category = c) +
          found.countP fun f => f.category = c) ∧
      (Risk.all.map t.byRisk.get).sum = t.total ∧
      (Category.all.map t.byCategory.get).sum = t.total ∧
      t.total =
        steps.countP Step.isRecord + found.length ∧
      t.suppressed =
        steps.countP Step.isSuppress +
          (steps.map (Step.filtered registry)).sum ∧
      t.statements =
        steps.countP Step.isCountStatement +
          answers.countP Reply.isReport) ∧
    (∀ others, steps.Perm others →
      after registry {} others = t) ∧
    (∀ u settings choice index s e,
      settings.check = .error e →
        serve registry u (.check settings choice index s) =
          (u, .refused (.settings e))) ∧
    (∀ u settings choice index s config e,
      settings.check = .ok config →
      choice.rules registry = .error e →
        serve registry u (.check settings choice index s) =
          (u, .refused (.choice e))) ∧
    (∀ u settings choice index s config catalog,
      settings.check = .ok config →
      choice.rules registry = .ok catalog →
        (serve registry u
            (.check settings choice index s)).2 =
          .ofReport
            (inspect config catalog index s).report) := by
  intro t answers made found
  refine ⟨?_, ?_, ?_, ?_, ?_⟩
  · intro hAnswered
    have hAccounts :
        t.Accounts (made ++ found)
          (steps.countP Step.isSuppress +
            (steps.map (Step.filtered registry)).sum)
          (steps.countP Step.isCountStatement +
            answers.countP Reply.isReport) := by
      simpa using Accounts.empty.after hAnswered
    have hTotal : t.total = (made ++ found).length :=
      hAccounts.total_eq
    refine ⟨?_, ?_, ?_, ?_, ?_, ?_, ?_⟩
    · intro r
      rw [hAccounts.byRisk, List.countP_append]
    · intro c
      rw [hAccounts.byCategory, List.countP_append]
    · rfl
    · exact hAccounts.sum_byCategory_eq.trans hTotal.symm
    · rw [hTotal, List.length_append, countP_isRecord]
    · exact hAccounts.suppressed
    · exact hAccounts.statements
  · intro others hPerm
    exact (after_perm registry {} hPerm).symm
  · intro u settings choice index s e hSettings
    exact serve_check_of_settings_error registry u choice
      index s hSettings
  · intro u settings choice index s config e hSettings hChoice
    exact serve_check_of_choice_error u index s hSettings
      hChoice
  · intro u settings choice index s config catalog hSettings
      hChoice
    exact serve_check_snd u index s hSettings hChoice

/-
  One of two rules that fire is filtered, a second check is
  refused, and the other steps count once each.
-/
theorem totals_account_for_steps_of_long_rules :
    let rule : Rule := .longSample
    let catalog : List Rule :=
      [{ rule with id := .text "b", risk := .info }, rule]
    let s : Statement := .ofText "SELECT 1".toList
    let settings : Settings := { riskLevel := .integer 2 }
    let steps : List Step :=
      [.suppress, .check settings (.given catalog) 7 s,
        .record (rule.finding 0 1), .summary,
        .check {} (.chosen [.text "c"] []) 0 s,
        .countStatement]
    let t := after .empty {} steps
    t.total = 2 ∧ t.suppressed = 2 ∧ t.statements = 2 ∧
      after .empty {} steps.reverse = t := by
  intro rule catalog s settings steps t
  have hSteps := totals_account_for_steps .empty steps
  have hAnswered :
      ∀ step ∈ steps, step.Answered .empty := by
    intro step hMem
    simp only [steps, List.mem_cons, List.not_mem_nil,
      or_false] at hMem
    rcases hMem with rfl | rfl | rfl | rfl | rfl | rfl
    · trivial
    · intro config given _ hGiven other hOther
      cases hGiven
      rcases List.mem_pair.mp hOther with rfl | rfl
      · exact ⟨_, rfl⟩
      · exact ⟨_, rfl⟩
    · trivial
    · trivial
    · intro config given _ hGiven
      cases hGiven
    · trivial
  rcases hSteps.1 hAnswered with
    ⟨_, _, _, _, hTotal, hSuppressed, hStatements⟩
  refine ⟨hTotal.trans ?_, hSuppressed.trans ?_,
    hStatements.trans ?_, ?_⟩
  · rfl
  · rfl
  · rfl
  · exact hSteps.2.1 _ steps.reverse_perm.symm

end Tally

end SqlAudit
