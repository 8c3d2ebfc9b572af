import SqlAudit.Audit
import SqlAudit.CommandLine.Options
import SqlAudit.Console.Line
import SqlAudit.Console.Listing
import SqlAudit.Files.Tree
import SqlAudit.Text.Newline
import SqlAudit.Text.Utf8
import SqlAudit.Value.Json

/-
  A run of the command line, from its arguments to what it
  prints, writes and returns.

  Key definitions include:
    * `SqlAudit.Surroundings`
    * `SqlAudit.Outcome`
    * `SqlAudit.CommandLine.readScript`
    * `SqlAudit.CommandLine.perform`
    * `SqlAudit.CommandLine.run`
-/

------------------------------------------------------------
-- What A Run Is Given And What It Does
------------------------------------------------------------

namespace SqlAudit

/-
  What a run can read: the files, the name of the working
  directory, and standard input unless it is a terminal.
-/
structure Surroundings where
  files : FileTree
  workingDirectory : List Char
  input : Option (List Char)
  deriving Repr, DecidableEq

/- Failures that are reported with exit code 2. -/
inductive Failure where
| configuration (e : Configuration.Error)
| selection (e : Selection.Error)
| files (cause : FileTree.Cause) (path : Path)
| script (e : Script.Error)
  deriving Repr

/- The wording of a failure. -/
def Failure.message : Failure → List Char
| .configuration e => e.message
| .selection e => e.message
| .files cause path => cause.message path
| .script e => e.message

/- Why a run comes to no report. -/
inductive Interruption where
| failure (cause : Failure)
| noInput
| unselectable (e : Selection.Error)
| undecodable (e : Utf8.Error)
| nullInPath
  deriving Repr

/- Only an unknown rule is a failure that is reported. -/
def Interruption.ofSelection :
    Selection.Error → Interruption
| .unknownRule id available =>
    .failure (.selection (.unknownRule id available))
| e => .unselectable e

/- A file that cannot be read or written interrupts a run. -/
def Interruption.ofFiles :
    FileTree.Error → Interruption
| .refused cause path => .failure (.files cause path)
| .nullInPath => .nullInPath

/-
  How a run ends: it returns a code, it exits with one or
  with a message, or an error is not handled.
-/
inductive Ending where
| returned (code : Nat)
| exited (code : Nat)
| refused (message : List Char)
| unselectable (e : Selection.Error)
| undecodable (e : Utf8.Error)
| nullInPath
| fault (e : Fault)
  deriving Repr

/- What is printed: lines about a report, or a text. -/
inductive Printed where
| lines (ls : List Line)
| text (s : List Char)
  deriving Repr

/- What a run does. -/
structure Outcome where
  ending : Ending
  color : Bool := false
  printed : Printed := .lines []
  complaint : List Char := []
  saved : Option (Path × List Char) := none
  trace : List Trace.Record := []
  deriving Repr

namespace Outcome

/- What is printed on standard output. -/
def output (o : Outcome) : List Char :=
  match o.printed with
  | .lines ls => ls.flatMap (Line.render o.color)
  | .text s => s

/- The outcome ends with a failure. -/
def fail
    (o : Outcome)
    (cause : Failure) : Outcome :=
  { o with
    ending := .returned 2
    complaint :=
      Console.clean ("Error: ".toList ++ cause.message) ++
        ['\n']
    trace := o.trace ++ [Trace.failed] }

/- The outcome is cut short. -/
def interrupt
    (o : Outcome) : Interruption → Outcome
| .failure cause => o.fail cause
| .noInput =>
    { o with
      ending := .refused
        ("Provide a SQL file path or pipe ".toList ++
          "SQL via stdin.".toList) }
| .unselectable e => { o with ending := .unselectable e }
| .undecodable e => { o with ending := .undecodable e }
| .nullInPath => { o with ending := .nullInPath }

/- The outcome of a run that comes to no report. -/
def interrupted (i : Interruption) : Outcome :=
  interrupt { ending := .returned 2 } i

end Outcome

end SqlAudit

------------------------------------------------------------
-- Running
------------------------------------------------------------

namespace SqlAudit.CommandLine

/-
  The script to check: that of the file, or standard input
  if no file is named.
-/
def readScript
    (around : Surroundings)
    (file : Option (List Char)) :
    Except Interruption (List Char) := do
  match file.filter (!·.isEmpty) with
  | some name =>
      let bytes ← (around.files.read (Path.ofText name)).mapError
        Interruption.ofFiles
      match Utf8.decode bytes with
      | .ok text => return Text.unifyLines text
      | .error e => .error (.undecodable e)
  | none =>
      match around.input with
      | some text => return text
      | none => .error .noInput

/- The rules that the options select. -/
def selectRules
    (registry : Registry)
    (o : Options) : Except Selection.Error (List Rule) :=
  let values := List.map fun s => Value.text (String.ofList s)
  registry.select (values o.rules) (values o.categories)

/- The audit that the options ask for. -/
def examine
    (registry : Registry)
    (around : Surroundings)
    (o : Options)
    (config : Configuration) :
    Except Interruption Audit := do
  let catalog ← (selectRules registry o).mapError
    Interruption.ofSelection
  let script ← readScript around o.file
  (audit config catalog script).mapError fun e =>
    .failure (.script e)

/- Print a report, and save it if that is asked for. -/
def deliver
    (around : Surroundings)
    (o : Options)
    (trace : List Trace.Record)
    (report : Report) : Outcome :=
  let lines := report.lines o.verbose
  let outcome : Outcome :=
    { ending :=
        .returned (if report.summary.total == 0 then 0 else 1)
      color := o.color
      printed := .lines lines
      trace := trace }
  match o.output.filter (!·.isEmpty) with
  | none => outcome
  | some name =>
      let path := Path.ofText name
      match around.files.write path with
      | .error e => outcome.interrupt (.ofFiles e)
      | .ok place =>
          let shown := path.fromRoot around.workingDirectory
          { outcome with
            printed := .lines (lines ++ [.saved shown])
            saved := some (place, report.toValue.json) }

/- Do what options ask for. -/
def perform
    (registry : Registry)
    (around : Surroundings)
    (o : Options) : Outcome :=
  match o.settings.check with
  | .error e => .interrupted (.failure (.configuration e))
  | .ok config =>
      if o.listRules then
        { ending := .returned 0
          printed := .text (registry.listing.render o.color) }
      else
        match examine registry around o config with
        | .error e => .interrupted e
        | .ok a =>
            match a.run.report with
            | .error e =>
                { ending := .fault e, trace := a.trace }
            | .ok report => deliver around o a.trace report

/- A run with the given arguments. -/
def run
    (registry : Registry)
    (around : Surroundings)
    (arguments : List (List Char)) : Outcome :=
  match Options.parse arguments with
  | .error .help =>
      { ending := .exited 0, printed := .text help }
  | .error (.misuse e) =>
      { ending := .exited 2, complaint := complaint e }
  | .ok o => perform registry around o

end SqlAudit.CommandLine
