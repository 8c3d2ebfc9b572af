import SqlAudit.Catalog.Standard
import SqlAudit.CommandLine.Run

/-
  The program: it gathers what a run can see, does the run,
  and carries out what the run decided.

  Key definitions include:
    * `main`
-/

open SqlAudit

------------------------------------------------------------
-- Gathering
------------------------------------------------------------

namespace SqlAudit.Program

/- All bytes of a stream. -/
partial def readAll
    (stream : IO.FS.Stream)
    (read : ByteArray) : IO ByteArray := do
  let more ← stream.read 65536
  if more.isEmpty then return read
  else readAll stream (read ++ more)

/- What is at a place, if anything. -/
def look (place : Path) : IO (Option FileTree.Entry) := do
  try
    let real ← IO.FS.realPath (String.ofList place.toText)
    if ← real.isDir then
      return some .directory
    else if ← real.pathExists then
      try
        let bytes ← IO.FS.readBinFile real
        return some (.file bytes.toList)
      catch _ =>
        return some .barred
    else
      return none
  catch _ =>
    return none

/- The files on the way of the paths that options name. -/
def lookAround (o : Options) : IO FileTree := do
  let paths := (o.file.toList ++ o.output.toList).map Path.ofText
  let places := (paths.flatMap FileTree.places).eraseDups
  let found ← places.mapM fun place => do
    return (← look place).map fun entry => (place, entry)
  return ⟨found.filterMap id⟩

/- Options ask for a script from standard input. -/
def needsInput (o : Options) : Bool :=
  !o.listRules && !o.file.any (!·.isEmpty)

/- Standard input, unless it is a terminal. -/
def readInput :
    IO (Except Utf8.Error (Option (List Char))) := do
  let stdin ← IO.getStdin
  if ← stdin.isTty then
    return .ok none
  else
    let bytes ← readAll stdin .empty
    return (Utf8.decode bytes.toList).map some

end SqlAudit.Program

------------------------------------------------------------
-- Carrying Out
------------------------------------------------------------

namespace SqlAudit.Program

/- Write a report and the directories above it. -/
def save
    (o : Options)
    (content : List Char) : IO Unit := do
  let path := Path.ofText (o.output.getD [])
  IO.FS.createDirAll (String.ofList path.parent.toText)
  IO.FS.writeFile (String.ofList path.toText)
    (String.ofList content)

/- The exit code of an ending; some endings have a message. -/
def finish : Ending → IO UInt32
| .returned code => return code.toUInt32
| .exited code => return code.toUInt32
| .refused message => do
    IO.eprintln (String.ofList message)
    return 1
| .unselectable e => do
    IO.eprintln (String.ofList e.message)
    return 1
| .undecodable e => do
    IO.eprintln (String.ofList e.message)
    return 1
| .nullInPath => do
    IO.eprintln "embedded null byte"
    return 1
| .fault e => do
    IO.eprintln (String.ofList e.message)
    return 1

/- The whole run. -/
def execute (arguments : List (List Char)) : IO UInt32 := do
  let asked := (Options.parse arguments).toOption
  let o := asked.getD {}
  let input ←
    if asked.any needsInput then readInput
    else pure (.ok none)
  match input with
  | .error e => finish (.undecodable e)
  | .ok input =>
      let around : Surroundings :=
        { files := ← lookAround o
          workingDirectory := (← IO.currentDir).toString.toList
          input := input }
      let outcome := CommandLine.run .standard around arguments
      if let some (_, content) := outcome.saved then
        save o content
      IO.print (String.ofList outcome.output)
      IO.eprint (String.ofList outcome.complaint)
      finish outcome.ending

end SqlAudit.Program

/- Check a script for anti-patterns. -/
def main (arguments : List String) : IO UInt32 :=
  SqlAudit.Program.execute (arguments.map String.toList)
