import SqlAudit.Text.Cut

/-
  Paths of files.

  A path is the list of names along it. Empty names and
  single dots are left out; double dots are kept, since what
  they mean depends on what is there.

  Key definitions include:
    * `SqlAudit.Path.ofText`
    * `SqlAudit.Path.toText`
    * `SqlAudit.Path.parent`
-/

------------------------------------------------------------
-- Paths
------------------------------------------------------------

namespace SqlAudit

/-
  Where a path starts: in the working directory, or at the
  root, which two slashes can stand for as well as one.
-/
inductive Path.Start where
| here
| root
| doubleRoot
  deriving Repr, DecidableEq

/- A path from the root or from the working directory. -/
structure Path where
  start : Path.Start
  names : List (List Char)
  deriving Repr, DecidableEq

namespace Path

/- The name of the directory above. -/
def above : List Char := "..".toList

namespace Start

/- The start of the path that a text spells. -/
def ofText (s : List Char) : Start :=
  match (s.takeWhile (· == '/')).length with
  | 0 => .here
  | 2 => .doubleRoot
  | _ => .root

/- The start of a path as text. -/
def toText : Start → List Char
| .here => []
| .root => ['/']
| .doubleRoot => ['/', '/']

/- The start, by one slash if it is the root. -/
def single : Start → Start
| .here => .here
| _ => .root

end Start

/- The path starts at the root. -/
def isAbsolute (p : Path) : Bool :=
  p.start != .here

/- The path that a text spells. -/
def ofText (s : List Char) : Path where
  start := .ofText s
  names := (Text.cutAt '/' s).filter fun name =>
    !name.isEmpty && name != ".".toList

/- The path as text. -/
def toText (p : Path) : List Char :=
  if p.start == .here && p.names.isEmpty then ".".toList
  else p.start.toText ++ ['/'].intercalate p.names

/- The path without its last name. -/
def parent (p : Path) : Path :=
  { p with names := p.names.dropLast }

/- The path from the root, given the working directory. -/
def fromRoot
    (p : Path)
    (workingDirectory : List Char) : List Char :=
  if p.isAbsolute then p.toText
  else if p.names.isEmpty then workingDirectory
  else workingDirectory ++ '/' :: p.toText

end Path

end SqlAudit
