import SqlAudit.Report

/-
  Checking statements against the rules of a catalog.

  The rules are asked in order. A rule whose pattern cannot
  be formed stops the check, and what the rules before it
  said is kept, because running totals and the trace of the
  check have already seen it.

  Key definitions include:
    * `SqlAudit.Inspection`
    * `SqlAudit.inspect`
    * `SqlAudit.Run`
    * `SqlAudit.check`
    * `SqlAudit.Run.report`
-/

------------------------------------------------------------
-- One Statement
------------------------------------------------------------

namespace SqlAudit

/-
  The verdicts of the rules up to the first fault, and that
  fault.
-/
def verdicts
    (config : Configuration)
    (index : Int)
    (s : Statement) :
    List Rule → List Verdict × Option Fault
| [] => ([], none)
| rule :: rules =>
    match rule.verdict config index s with
    | .error e => ([], some e)
    | .ok v =>
        let (vs, fault) := verdicts config index s rules
        (v :: vs, fault)

/- What the rules of a catalog say about one statement. -/
structure Inspection where
  index : Int
  statement : Statement
  verdicts : List Verdict
  fault : Option Fault
  deriving Repr

/- Ask the rules about the statement with an index. -/
def inspect
    (config : Configuration)
    (catalog : List Rule)
    (index : Int)
    (s : Statement) : Inspection :=
  let (vs, fault) := SqlAudit.verdicts config index s catalog
  ⟨index, s, vs, fault⟩

namespace Inspection

/- The findings among the verdicts. -/
def findings (i : Inspection) : List Finding :=
  i.verdicts.filterMap Verdict.finding?

/- The report of an inspection that met no fault. -/
def report
    (i : Inspection) : Except Fault StatementReport :=
  match i.fault with
  | some e => .error e
  | none => .ok ⟨i.index, i.statement, i.findings⟩

/-
  Count the verdicts, and the statement if no fault was met.
-/
def addTo
    (i : Inspection)
    (t : Tally) : Tally :=
  let t := i.verdicts.foldl Tally.add t
  if i.fault.isNone then t.countStatement else t

end Inspection

end SqlAudit

------------------------------------------------------------
-- Many Statements
------------------------------------------------------------

namespace SqlAudit

/- The inspections of a run, the last one maybe at fault. -/
structure Run where
  rules : Nat
  inspections : List Inspection
  deriving Repr

/- Inspect statements in order, up to the first fault. -/
def inspectAll
    (config : Configuration)
    (catalog : List Rule) :
    (index : Nat) → List (List Char) → List Inspection
| _, [] => []
| index, text :: texts =>
    let i := inspect config catalog index (.ofText text)
    if i.fault.isNone then
      i :: inspectAll config catalog (index + 1) texts
    else
      [i]

/- Check statement texts against the rules of a catalog. -/
def check
    (config : Configuration)
    (catalog : List Rule)
    (texts : List (List Char)) : Run where
  rules := catalog.length
  inspections := inspectAll config catalog 0 texts

namespace Run

/- The totals of the run. -/
def summary (run : Run) : Tally :=
  run.inspections.foldl (fun t i => i.addTo t) {}

/- The report of a run that met no fault. -/
def report (run : Run) : Except Fault Report := do
  let reports ← run.inspections.mapM Inspection.report
  return ⟨reports, run.summary⟩

end Run

end SqlAudit
