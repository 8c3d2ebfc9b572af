import SqlAudit.Tally

/-
  Reports of a run, and the data they are written as.

  Key definitions include:
    * `SqlAudit.StatementReport`
    * `SqlAudit.Report`
    * `SqlAudit.Report.toValue`
-/

------------------------------------------------------------
-- Reports
------------------------------------------------------------

namespace SqlAudit

/- The findings on one statement, in the order of the rules. -/
structure StatementReport where
  index : Int
  statement : Statement
  findings : List Finding
  deriving Repr

/- There is something to report on the statement. -/
def StatementReport.hasFindings
    (r : StatementReport) : Bool :=
  !r.findings.isEmpty

/- The reports on all statements, and the totals. -/
structure Report where
  statements : List StatementReport
  summary : Tally
  deriving Repr

/- All findings, in order. -/
def Report.findings (r : Report) : List Finding :=
  r.statements.flatMap StatementReport.findings

end SqlAudit

------------------------------------------------------------
-- Reports As Data
------------------------------------------------------------

namespace SqlAudit

/- A finding as data; its explanation is left out. -/
def Finding.toValue (f : Finding) : Value :=
  .record
    [ ("statement_index", .integer f.index),
      ("rule_id", f.ruleId),
      ("title", f.title),
      ("category", .text f.category.name),
      ("risk", .text f.risk.name),
      ("match_count", .integer f.count) ]

/- A statement's report as data. -/
def StatementReport.toValue (r : StatementReport) : Value :=
  .record
    [ ("statement_index", .integer r.index),
      ("statement", .text (String.ofList r.statement.text)),
      ("findings", .list (r.findings.map Finding.toValue)) ]

/- Totals as data. -/
def Tally.toValue (t : Tally) : Value :=
  .record
    [ ("statements", .integer t.statements),
      ("total", .integer t.total),
      ("by_risk", .record (Risk.all.map fun r =>
        (r.name, .integer (t.byRisk.get r)))),
      ("by_category", .record (Category.all.map fun c =>
        (c.name, .integer (t.byCategory.get c)))),
      ("suppressed", .integer t.suppressed) ]

/- A report as data: only statements with findings count. -/
def Report.toValue (r : Report) : Value :=
  .record
    [ ("summary", r.summary.toValue),
      ("results", .list
        ((r.statements.filter
          StatementReport.hasFindings).map
            StatementReport.toValue)) ]

end SqlAudit
