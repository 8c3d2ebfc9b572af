import SqlAudit.Files.Path
import SqlAudit.Text.Quoted

/-
  A tree of files around a working directory.

  Key definitions include:
    * `SqlAudit.FileTree`
    * `SqlAudit.FileTree.places`
    * `SqlAudit.FileTree.read`
    * `SqlAudit.FileTree.makeDirectories`
    * `SqlAudit.FileTree.write`
-/

------------------------------------------------------------
-- Errors
------------------------------------------------------------

namespace SqlAudit

/- Why the system refuses to read or write a file. -/
inductive FileTree.Cause where
| notFound
| denied
| alreadyExists
| notADirectory
| isADirectory
| nameTooLong
  deriving Repr, DecidableEq

/-
  Why a file cannot be read or written: the system refuses a
  path, or the path holds a null character, which no path
  can.
-/
inductive FileTree.Error where
| refused (cause : FileTree.Cause) (path : Path)
| nullInPath
  deriving Repr, DecidableEq

namespace FileTree

/- The number and the name of a cause. -/
def Cause.text : Cause → String
| .notFound => "[Errno 2] No such file or directory"
| .denied => "[Errno 13] Permission denied"
| .alreadyExists => "[Errno 17] File exists"
| .notADirectory => "[Errno 20] Not a directory"
| .isADirectory => "[Errno 21] Is a directory"
| .nameTooLong => "[Errno 36] File name too long"

/- A cause as it is reported. -/
def Cause.message
    (cause : Cause)
    (path : Path) : List Char :=
  cause.text.toList ++ ": ".toList ++
    Text.quoted path.toText

end FileTree

end SqlAudit

------------------------------------------------------------
-- Trees
------------------------------------------------------------

namespace SqlAudit

/-
  What a path can lead to: a directory, a file with its
  bytes, or a file that nobody may open.
-/
inductive FileTree.Entry where
| directory
| file (bytes : List UInt8)
| barred
  deriving Repr, DecidableEq

/-
  What is known to be there, by the path without detours.
  The directories above a file are there without being
  mentioned.
-/
structure FileTree where
  entries : List (Path × FileTree.Entry)
  deriving Repr, DecidableEq

namespace FileTree

/- The root, the working directory and those above it. -/
def isTop (p : Path) : Bool :=
  p.names.all (· == Path.above)

/- One path leads to something below the other. -/
def isAbove
    (p q : Path) : Bool :=
  p.start == q.start && p.names.isPrefixOf q.names

/- What is at a path without detours. -/
def entry?
    (tree : FileTree)
    (p : Path) : Option Entry :=
  if isTop p then
    some .directory
  else
    match tree.entries.find? (·.1 == p) with
    | some (_, e) => some e
    | none =>
        if tree.entries.any (fun e => isAbove p e.1) then
          some .directory
        else
          none

/- One name further. -/
def step
    (p : Path)
    (name : List Char) : Path :=
  if name != Path.above then
    { p with names := p.names ++ [name] }
  else if p.isAbsolute then
    p.parent
  else
    match p.names.getLast? with
    | none => { p with names := [Path.above] }
    | some last =>
        if last == Path.above then
          { p with names := p.names ++ [Path.above] }
        else
          p.parent

/- The number of bytes of a text. -/
def byteLength (s : List Char) : Nat :=
  (s.map Char.utf8Size).foldr (· + ·) 0

/- The most bytes that a name can have. -/
def nameLimit : Nat := 255

/- The most bytes that a path can have. -/
def pathLimit : Nat := 4095

/-
  The path without detours that names lead to from a path.
  All but the last name have to lead to directories.
-/
def follow
    (tree : FileTree) :
    Path → List (List Char) → Except Cause Path
| p, [] => .ok p
| p, name :: rest =>
    match tree.entry? p with
    | none => .error .notFound
    | some (.file _) | some .barred => .error .notADirectory
    | some .directory =>
        if nameLimit < byteLength name then
          .error .nameTooLong
        else
          tree.follow (step p name) rest

/- The place of a path. -/
def locate
    (tree : FileTree)
    (p : Path) : Except Cause Path :=
  if pathLimit < byteLength p.toText then
    .error .nameTooLong
  else
    tree.follow ⟨p.start.single, []⟩ p.names

/-
  The places that a path leads through, the last one
  included.
-/
def placesFrom : Path → List (List Char) → List Path
| _, [] => []
| p, name :: rest =>
    step p name :: placesFrom (step p name) rest

/- The places on the way of a path. -/
def places (p : Path) : List Path :=
  placesFrom ⟨p.start.single, []⟩ p.names

/- The path leads to a directory. -/
def isDirectory
    (tree : FileTree)
    (p : Path) : Bool :=
  match tree.locate p with
  | .ok place => tree.entry? place == some .directory
  | .error _ => false

end FileTree

end SqlAudit

------------------------------------------------------------
-- Reading And Writing
------------------------------------------------------------

namespace SqlAudit

namespace FileTree

/- A path that holds no null character. -/
def checkPath (p : Path) : Except Error Unit :=
  if p.names.any (·.contains '\x00') then .error .nullInPath
  else .ok ()

/- The bytes of a file. -/
def read
    (tree : FileTree)
    (p : Path) : Except Error (List UInt8) := do
  checkPath p
  match tree.locate p with
  | .error cause => .error (.refused cause p)
  | .ok place =>
      match tree.entry? place with
      | none => .error (.refused .notFound p)
      | some .directory => .error (.refused .isADirectory p)
      | some .barred => .error (.refused .denied p)
      | some (.file bytes) => return bytes

/- A new directory; those above it have to be there. -/
def makeDirectory
    (tree : FileTree)
    (p : Path) : Except Cause FileTree :=
  match tree.locate p with
  | .error cause => .error cause
  | .ok place =>
      if (tree.entry? place).isSome then
        .error .alreadyExists
      else
        .ok ⟨(place, .directory) :: tree.entries⟩

/- A failure to make a directory that is there after all. -/
def unlessThere
    (tree : FileTree)
    (p : Path)
    (cause : Cause) : Except Error FileTree :=
  if cause != .notFound && tree.isDirectory p then .ok tree
  else .error (.refused cause p)

/-
  A directory and those above it, as far as they are not
  there. The names are given last first.
-/
def makeFrom
    (tree : FileTree)
    (start : Path.Start) :
    (names : List (List Char)) → Except Error FileTree
| [] => .ok tree
| name :: above =>
    let p : Path := ⟨start, (name :: above).reverse⟩
    match tree.makeDirectory p with
    | .ok tree => .ok tree
    | .error .notFound => do
        let tree ← tree.makeFrom start above
        match tree.makeDirectory p with
        | .ok tree => .ok tree
        | .error cause => tree.unlessThere p cause
    | .error cause => tree.unlessThere p cause

/- A directory and those above it. -/
def makeDirectories
    (tree : FileTree)
    (p : Path) : Except Error FileTree := do
  checkPath p
  tree.makeFrom p.start p.names.reverse

/- The place that a file can be written to. -/
def target
    (tree : FileTree)
    (p : Path) : Except Error Path := do
  checkPath p
  match tree.locate p with
  | .error cause => .error (.refused cause p)
  | .ok place =>
      match tree.entry? place with
      | some .directory => .error (.refused .isADirectory p)
      | some .barred => .error (.refused .denied p)
      | _ => return place

/-
  The place of a file that is written together with the
  directories above it.
-/
def write
    (tree : FileTree)
    (p : Path) : Except Error Path := do
  let tree ← tree.makeDirectories p.parent
  tree.target p

end FileTree

end SqlAudit
