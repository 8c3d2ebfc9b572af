import SqlAudit.Check
import SqlAudit.Registry

/-
  Keeping totals step by step.

  Totals can be kept over checks of single statements, each
  with settings and rules of its own, and can be changed and
  read in between. A check that is refused for its settings
  or its choice of rules never begins.

  Key definitions include:
    * `SqlAudit.Tally.Step`
    * `SqlAudit.Tally.Reply`
    * `SqlAudit.Tally.serve`
    * `SqlAudit.Tally.after`
    * `SqlAudit.Tally.replies`
-/

------------------------------------------------------------
-- Steps And Replies
------------------------------------------------------------

namespace SqlAudit

/-
  The rules that a check asks: those given, or those that
  are chosen from a registry.
-/
inductive RuleChoice where
| given (rules : List Rule)
| chosen (ids categories : List Value)
  deriving Repr

/- The rules of a choice. -/
def RuleChoice.rules
    (registry : Registry) :
    RuleChoice → Except Selection.Error (List Rule)
| .given rules => .ok rules
| .chosen ids categories => registry.select ids categories

namespace Tally

/- What can be done with totals. -/
inductive Step where
| check
    (settings : Settings)
    (choice : RuleChoice)
    (index : Int)
    (s : Statement)
| record (f : Finding)
| suppress
| countStatement
| summary
  deriving Repr

/- Why a check does not begin. -/
inductive Refusal where
| settings (e : Configuration.Error)
| choice (e : Selection.Error)
  deriving Repr

/- What a step is answered. -/
inductive Reply where
| report (r : StatementReport)
| fault (e : Fault)
| refused (e : Refusal)
| summary (t : Tally)
| done
  deriving Repr

/- The reply to a check that began. -/
def Reply.ofReport :
    Except Fault StatementReport → Reply
| .ok r => .report r
| .error e => .fault e

end Tally

end SqlAudit

------------------------------------------------------------
-- Taking Steps
------------------------------------------------------------

namespace SqlAudit

namespace Tally

/- The inspection that a check makes, if it begins. -/
def prepare
    (registry : Registry)
    (settings : Settings)
    (choice : RuleChoice)
    (index : Int)
    (s : Statement) : Except Refusal Inspection :=
  match settings.check with
  | .error e => .error (.settings e)
  | .ok config =>
      match choice.rules registry with
      | .error e => .error (.choice e)
      | .ok catalog => .ok (inspect config catalog index s)

/- The totals after a step, and the reply to it. -/
def serve
    (registry : Registry)
    (t : Tally) :
    Step → Tally × Reply
| .check settings choice index s =>
    match prepare registry settings choice index s with
    | .error e => (t, .refused e)
    | .ok i => (i.addTo t, .ofReport i.report)
| .record f => (t.record f, .done)
| .suppress => (t.suppress, .done)
| .countStatement => (t.countStatement, .done)
| .summary => (t, .summary t)

/- The totals after steps one after the other. -/
def after
    (registry : Registry)
    (t : Tally)
    (steps : List Step) : Tally :=
  steps.foldl (fun t step => (t.serve registry step).1) t

/- The replies to steps one after the other. -/
def replies
    (registry : Registry) :
    Tally → List Step → List Reply
| _, [] => []
| t, step :: steps =>
    (serve registry t step).2 ::
      replies registry (serve registry t step).1 steps

end Tally

end SqlAudit
