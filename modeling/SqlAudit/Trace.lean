import SqlAudit.Check

/-
  The trace of a run: records of what was found and counted.

  Key definitions include:
    * `SqlAudit.Trace.Record`
    * `SqlAudit.Inspection.trace`
    * `SqlAudit.Run.trace`
-/

------------------------------------------------------------
-- Records
------------------------------------------------------------

namespace SqlAudit

namespace Trace

/- How much a record matters. -/
inductive Level where
| debug
| info
  deriving Repr, DecidableEq

/- Which part of the program a record comes from. -/
inductive Source where
| extraction
| evaluation
| commandLine
  deriving Repr, DecidableEq

/- One record of a trace. -/
structure Record where
  level : Level
  source : Source
  message : List Char
  deriving Repr, DecidableEq

/- Text and numbers put together. -/
def sentence (parts : List (List Char)) : List Char :=
  parts.flatten

/- The record of a script that was split. -/
def extracted
    (statements : Nat)
    (dialect : Value) : Record where
  level := .debug
  source := .extraction
  message := sentence
    [ "Extracted ".toList, (toString statements).toList,
      " statements (dialect=".toList, dialect.display,
      ")".toList ]

/- The record of a run of the command line that failed. -/
def failed : Record where
  level := .debug
  source := .commandLine
  message := "Run failed".toList

/- The record of a verdict, if the rule fired. -/
def ofVerdict : Verdict → Option Record
| .silent => none
| .suppressed index ruleId level => some
    { level := .debug
      source := .evaluation
      message := sentence
        [ "Statement ".toList, (toString index).toList,
          ": ".toList, ruleId.display,
          " suppressed at risk level ".toList,
          (toString level.level).toList ] }
| .reported f => some
    { level := .debug
      source := .evaluation
      message := sentence
        [ "Statement ".toList, (toString f.index).toList,
          ": ".toList, f.ruleId.display, " fired (".toList,
          (toString f.count).toList, " matches)".toList ] }

/- The record of a run that came to its end. -/
def checked
    (rules : Nat)
    (t : Tally) : Record where
  level := .info
  source := .evaluation
  message := sentence
    [ "Checked ".toList, (toString t.statements).toList,
      " statements against ".toList, (toString rules).toList,
      " rules: ".toList, (toString t.total).toList,
      " findings (".toList, (toString t.suppressed).toList,
      " suppressed)".toList ]

end Trace

end SqlAudit

------------------------------------------------------------
-- Traces Of Runs
------------------------------------------------------------

namespace SqlAudit

/- The records of one inspection. -/
def Inspection.trace (i : Inspection) : List Trace.Record :=
  i.verdicts.filterMap Trace.ofVerdict

/-
  The records of a run. The last one stands for the whole
  run, and is missing if the run met a fault.
-/
def Run.trace (run : Run) : List Trace.Record :=
  let records := run.inspections.flatMap Inspection.trace
  if run.inspections.all fun i => i.fault.isNone then
    records ++ [Trace.checked run.rules run.summary]
  else
    records

end SqlAudit
