import SqlAudit.Configuration
import SqlAudit.Rule.Basic

/-
  Findings: rules that fired on a statement and matter enough
  to be reported.

  Key definitions include:
    * `SqlAudit.Finding`
    * `SqlAudit.Rule.finding?`
    * `SqlAudit.Verdict`
    * `SqlAudit.Rule.verdict`
-/

------------------------------------------------------------
-- Findings
------------------------------------------------------------

namespace SqlAudit

/- A rule that fired, with the statement it fired on. -/
structure Finding where
  index : Int
  ruleId : Value
  title : Value
  category : Category
  risk : Risk
  count : Nat
  message : Value
  deriving Repr

namespace Rule

/- The finding of a rule on the statement with an index. -/
def finding
    (rule : Rule)
    (index : Int)
    (count : Nat) : Finding where
  index := index
  ruleId := rule.id
  title := rule.title
  category := rule.category
  risk := rule.risk
  count := count
  message := rule.message

/-
  The finding of a rule that fired, unless its risk is below
  the configured one.
-/
def finding?
    (rule : Rule)
    (m : Match)
    (config : Configuration)
    (index : Int) : Option Finding :=
  if m.fired && decide (config.minRisk ≤ rule.risk) then
    some (rule.finding index m.count)
  else
    none

end Rule

end SqlAudit

------------------------------------------------------------
-- Verdicts
------------------------------------------------------------

namespace SqlAudit

/-
  What a rule comes to on a statement: it did not fire, it
  fired and was kept out of the report, or it is reported.
-/
inductive Verdict where
| silent
| suppressed (index : Int) (ruleId : Value) (level : Risk)
| reported (finding : Finding)
  deriving Repr

namespace Verdict

/- The finding of a verdict. -/
def finding? : Verdict → Option Finding
| .reported f => some f
| _ => none

end Verdict

/- The verdict of a rule on the statement with an index. -/
def Rule.verdict
    (config : Configuration)
    (index : Int)
    (s : Statement)
    (rule : Rule) : Except Fault Verdict := do
  let m ← rule.evaluate s
  if m.fired then
    match rule.finding? m config index with
    | some f => return .reported f
    | none =>
        return .suppressed index rule.id config.minRisk
  else
    return .silent

end SqlAudit
