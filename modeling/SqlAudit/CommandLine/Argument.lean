import SqlAudit.CommandLine.Misuse
import SqlAudit.Text.Letter

/-
  Telling options from other arguments.

  A long option may be shortened as long as it is the only
  one that begins so, and its value may follow after an
  equals sign. A short option may have its value, or more
  short options, right behind it. After two dashes nothing
  is an option.

  Key definitions include:
    * `SqlAudit.Argument`
    * `SqlAudit.Argument.classify`
    * `SqlAudit.Argument.classifyAll`
    * `SqlAudit.Argument.segments`
-/

------------------------------------------------------------
-- Arguments
------------------------------------------------------------

namespace SqlAudit

/-
  An option as it is given: by a short or long spelling,
  maybe with text attached to it.
-/
structure OptionUse where
  flag : Flag
  short : Bool
  value : Option (List Char)
  deriving Repr, DecidableEq

/- An argument and what it is. -/
inductive Argument where
| plain (text : List Char)
| separator
| option (use : OptionUse)
| unknown (text : List Char)
  deriving Repr, DecidableEq

namespace Argument

/- Two dashes by themselves. -/
def dashes : List Char := "--".toList

/- A spelling with one dash. -/
def isShort (spelling : List Char) : Bool :=
  !dashes.isPrefixOf spelling

/- The text before the first equals sign, and after it. -/
def atEquals
    (s : List Char) : List Char × Option (List Char) :=
  match s.dropWhile (· != '=') with
  | [] => (s, none)
  | _ :: value => (s.takeWhile (· != '='), some value)

/- The options that an argument may be short for. -/
def candidates
    (s : List Char) : List (List Char × OptionUse) :=
  if isShort s then
    (Flag.spelled.filter (·.1 == s.take 2)).map
      fun (spelling, f) =>
        (spelling, ⟨f, true, some (s.drop 2)⟩)
  else
    let (start, value) := atEquals s
    (Flag.spelled.filter (start.isPrefixOf ·.1)).map
      fun (spelling, f) =>
        (spelling, ⟨f, false, value⟩)

/-
  A dash and a number. A line feed may follow it.
-/
def isNegative : List Char → Bool
| '-' :: s =>
    let s :=
      if s.getLast? == some '\n' then s.dropLast else s
    let rest := s.dropWhile Text.isDecimalDigit
    match rest with
    | [] => !s.isEmpty
    | '.' :: decimals =>
        !decimals.isEmpty && decimals.all Text.isDecimalDigit
    | _ => false
| _ => false

/- The option that an argument spells out. -/
def spelledOut?
    (s : List Char) : Option OptionUse :=
  match Flag.ofSpelling? s with
  | some f => some ⟨f, isShort s, none⟩
  | none =>
      match atEquals s with
      | (start, some value) =>
          (Flag.ofSpelling? start).map fun f =>
            ⟨f, isShort start, some value⟩
      | (_, none) => none

/- What an argument before two dashes is. -/
def classify
    (s : List Char) : Except Misuse Argument :=
  if s.head? != some '-' || s.length == 1 then
    .ok (.plain s)
  else
    match spelledOut? s with
    | some use => .ok (.option use)
    | none =>
        match candidates s with
        | [(_, use)] => .ok (.option use)
        | [] =>
            if isNegative s || s.contains ' ' then
              .ok (.plain s)
            else
              .ok (.unknown s)
        | several => .error (.ambiguous s (several.map (·.1)))

/- What each argument is. -/
def classifyAll :
    List (List Char) → Except Misuse (List Argument)
| [] => .ok []
| s :: rest =>
    if s == dashes then
      .ok (.separator :: rest.map .plain)
    else do
      let a ← classify s
      let more ← classifyAll rest
      return a :: more

/- The argument as it was given, if it is no option. -/
def text : Argument → List Char
| .plain s => s
| .separator => dashes
| .unknown s => s
| .option _ => []

/- The argument can be a value. -/
def isPlain : Argument → Bool
| .plain _ => true
| _ => false

/- The argument is an option, known or not. -/
def isOption : Argument → Bool
| .option _ => true
| .unknown _ => true
| _ => false

/-
  The arguments before the first option, and each option
  with the arguments between it and the next.
-/
def segments
    (arguments : List Argument) :
    List Argument × List (Argument × List Argument) :=
  arguments.foldr
    (fun a (run, rest) =>
      if a.isOption then ([], (a, run) :: rest)
      else (a :: run, rest))
    ([], [])

end Argument

end SqlAudit
