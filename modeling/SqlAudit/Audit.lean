import SqlAudit.Script
import SqlAudit.Trace

/-
  Auditing a script: its statements are checked against the
  rules of a catalog.

  Key definitions include:
    * `SqlAudit.audit`
    * `SqlAudit.Audit.trace`
-/

------------------------------------------------------------
-- Audits
------------------------------------------------------------

namespace SqlAudit

/- A script's statements and what the rules say of them. -/
structure Audit where
  dialect : Value
  texts : List (List Char)
  run : Run
  deriving Repr

/- Split a script and check its statements. -/
def audit
    (config : Configuration)
    (catalog : List Rule)
    (script : List Char) : Except Script.Error Audit := do
  let texts ← Script.statements script config.dialect
  return {
    dialect := config.dialect
    texts := texts
    run := check config catalog texts }

/- The records of an audit: the script's, then the run's. -/
def Audit.trace (a : Audit) : List Trace.Record :=
  Trace.extracted a.texts.length a.dialect :: a.run.trace

end SqlAudit
