import SqlAudit.Finding

/-
  Running totals of a run.

  A rule counts once for each statement it fires on, however
  often its pattern matched there.

  Key definitions include:
    * `SqlAudit.Tally`
    * `SqlAudit.Tally.record`
    * `SqlAudit.Tally.add`
    * `SqlAudit.Tally.total`
-/

------------------------------------------------------------
-- Counts By Risk And By Category
------------------------------------------------------------

namespace SqlAudit

/- One count for each risk tier. -/
structure RiskCounts where
  info : Nat := 0
  warning : Nat := 0
  error : Nat := 0
  deriving Repr, DecidableEq

namespace RiskCounts

/- The count of a tier. -/
def get (counts : RiskCounts) : Risk → Nat
| .info => counts.info
| .warning => counts.warning
| .error => counts.error

/- One more in a tier. -/
def bump (counts : RiskCounts) : Risk → RiskCounts
| .info => { counts with info := counts.info + 1 }
| .warning => { counts with warning := counts.warning + 1 }
| .error => { counts with error := counts.error + 1 }

end RiskCounts

/- One count for each category. -/
structure CategoryCounts where
  logicalDesign : Nat := 0
  physicalDesign : Nat := 0
  query : Nat := 0
  application : Nat := 0
  deriving Repr, DecidableEq

namespace CategoryCounts

/- The count of a category. -/
def get (counts : CategoryCounts) : Category → Nat
| .logicalDesign => counts.logicalDesign
| .physicalDesign => counts.physicalDesign
| .query => counts.query
| .application => counts.application

/- One more in a category. -/
def bump (counts : CategoryCounts) : Category → CategoryCounts
| .logicalDesign =>
    { counts with logicalDesign := counts.logicalDesign + 1 }
| .physicalDesign =>
    { counts with
      physicalDesign := counts.physicalDesign + 1 }
| .query => { counts with query := counts.query + 1 }
| .application =>
    { counts with application := counts.application + 1 }

end CategoryCounts

end SqlAudit

------------------------------------------------------------
-- Tallies
------------------------------------------------------------

namespace SqlAudit

/- The totals of a run so far. -/
structure Tally where
  byRisk : RiskCounts := {}
  byCategory : CategoryCounts := {}
  suppressed : Nat := 0
  statements : Nat := 0
  deriving Repr, DecidableEq

namespace Tally

/- Count a finding. -/
def record
    (t : Tally)
    (f : Finding) : Tally :=
  { t with
    byRisk := t.byRisk.bump f.risk
    byCategory := t.byCategory.bump f.category }

/- Count a firing that is kept out of the report. -/
def suppress (t : Tally) : Tally :=
  { t with suppressed := t.suppressed + 1 }

/- Count a statement. -/
def countStatement (t : Tally) : Tally :=
  { t with statements := t.statements + 1 }

/- Count a verdict. -/
def add
    (t : Tally) :
    Verdict → Tally
| .silent => t
| .suppressed _ _ _ => t.suppress
| .reported f => t.record f

/- The number of findings. -/
def total (t : Tally) : Nat :=
  (Risk.all.map t.byRisk.get).foldr (· + ·) 0

end Tally

end SqlAudit
