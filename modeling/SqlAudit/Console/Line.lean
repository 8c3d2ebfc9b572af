import SqlAudit.Console.Style
import SqlAudit.Report

/-
  The lines that are printed about a report.

  Key definitions include:
    * `SqlAudit.Line`
    * `SqlAudit.Line.render`
    * `SqlAudit.Report.lines`
-/

------------------------------------------------------------
-- Lines
------------------------------------------------------------

namespace SqlAudit

/- What can be printed about a report. -/
inductive Line where
| statementHeader (number : Int)
| statementText (text : List Char)
| blank
| entry (finding : Finding)
| explanation (text : List Char)
| summaryHeader
| total (count : Nat)
| riskTotal (risk : Risk) (count : Nat)
| saved (path : List Char)
  deriving Repr

namespace Line

/- The risk tier in front of its total. -/
def riskHeading : Risk → String
| .error => ">  High Risk   :: "
| .warning => ">  Medium Risk :: "
| .info => ">  Low Risk    :: "

/- A finding in one line. -/
def entryText
    (color : Bool)
    (f : Finding) : List Char :=
  let risk := '(' :: f.risk.label.toList ++ [')']
  f.risk.style.paint color risk ++ " (".toList ++
    f.category.title.toList ++ ") ".toList ++
    Console.clean f.title.display

/- The text of a line. -/
def text
    (color : Bool) :
    Line → List Char
| .statementHeader number =>
    Style.bold.paint color <|
      "==================== Statement ".toList ++
        (toString number).toList ++
        " ====================".toList
| .statementText text => Console.clean text
| .blank => []
| .entry f => entryText color f
| .explanation text => Console.clean text
| .summaryHeader =>
    Style.bold.paint color
      "==================== Summary ===================".toList
| .total count =>
    "All Anti-Patterns and Hints  :: ".toList ++
      (toString count).toList
| .riskTotal risk count =>
    risk.style.paint color <|
      (riskHeading risk).toList ++ (toString count).toList
| .saved path =>
    Console.clean ("Report saved to: ".toList ++ path)

/- A line with its end. -/
def render
    (color : Bool)
    (l : Line) : List Char :=
  l.text color ++ ['\n']

end Line

end SqlAudit

------------------------------------------------------------
-- Lines Of A Report
------------------------------------------------------------

namespace SqlAudit

/- The lines about one finding. -/
def Finding.lines
    (verbose : Bool)
    (f : Finding) : List Line :=
  .entry f ::
    if verbose then [.explanation f.message.display] else []

/- The lines about one statement, if it has findings. -/
def StatementReport.lines
    (verbose : Bool)
    (r : StatementReport) : List Line :=
  if r.hasFindings then
    (if verbose then
      [ .statementHeader (r.index + 1),
        .statementText r.statement.text, .blank ]
    else []) ++ r.findings.flatMap (Finding.lines verbose)
  else
    []

/- The lines about the totals. -/
def Tally.lines (t : Tally) : List Line :=
  [ .summaryHeader, .total t.total,
    .riskTotal .error (t.byRisk.get .error),
    .riskTotal .warning (t.byRisk.get .warning),
    .riskTotal .info (t.byRisk.get .info) ]

/- The lines about a report. -/
def Report.lines
    (verbose : Bool)
    (r : Report) : List Line :=
  r.statements.flatMap (StatementReport.lines verbose) ++
    r.summary.lines

end SqlAudit
