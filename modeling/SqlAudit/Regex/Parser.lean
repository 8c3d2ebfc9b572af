import SqlAudit.Regex.Class
import SqlAudit.Regex.Group

/-
  Reading a regular expression from its text.

  The text is read once from left to right. Open groups wait
  on a stack, so the first fault met is the one reported.

  Key definitions include:
    * `SqlAudit.Regex.Level`
    * `SqlAudit.Regex.Progress`
    * `SqlAudit.Regex.Progress.step`
    * `SqlAudit.Regex.parse`
-/

------------------------------------------------------------
-- Levels
------------------------------------------------------------

namespace SqlAudit

namespace Regex

/- What kind of piece a repetition would apply to. -/
inductive Piece.Kind where
| solid
| anchor
| repetition
  deriving Repr, DecidableEq

/- One piece of a sequence. -/
structure Piece where
  kind : Piece.Kind
  regex : Regex
  deriving Repr, DecidableEq

/-
  What has been read inside one pair of parentheses: the
  finished alternatives and the pieces of the current one,
  both last first, and the mode.
-/
structure Level where
  branches : List Regex := []
  pieces : List Piece := []
  mode : Mode := {}
  deriving Repr, DecidableEq

namespace Level

/- Nothing read yet. -/
def start (mode : Mode) : Level where
  mode := mode

/- The expression of the current alternative. -/
def branch (level : Level) : Regex :=
  seqOf (level.pieces.reverse.map Piece.regex)

/- The expression of the whole level. -/
def regex (level : Level) : Regex :=
  altOf (level.branch :: level.branches).reverse

/- Begin another alternative. -/
def nextBranch (level : Level) : Level :=
  { level with
    branches := level.branch :: level.branches
    pieces := [] }

/- Add a piece to the current alternative. -/
def push
    (level : Level)
    (kind : Piece.Kind)
    (r : Regex) : Level :=
  { level with pieces := ⟨kind, r⟩ :: level.pieces }

/- Add a piece that is one character of an entry. -/
def pushItem
    (level : Level)
    (item : ClassItem) : Level :=
  level.push .solid
    (.char (.ofItem level.mode.letters item))

/- Nothing has been read but switches. -/
def isFresh (level : Level) : Bool :=
  level.branches.isEmpty && level.pieces.isEmpty

end Level

end Regex

end SqlAudit

------------------------------------------------------------
-- Repetitions
------------------------------------------------------------

namespace SqlAudit

namespace Regex

/- Repeat the last piece of a level. -/
def Level.repeatLast
    (level : Level)
    (mark : Lexeme)
    (least : Nat)
    (most : Option Nat)
    (rest : List Lexeme) :
    Except Error (Level × List Lexeme) := do
  match level.pieces with
  | [] => mark.fail .nothingToRepeat
  | piece :: pieces =>
      match piece.kind with
      | .anchor => mark.fail .nothingToRepeat
      | .repetition => mark.fail .multipleRepeat
      | .solid =>
          let done := fun greed =>
            Level.push { level with pieces := pieces }
              .repetition
              (.repeated piece.regex least most greed)
          match rest with
          | l :: rest' =>
              if l.isPlain '?' then
                return (done .frugal, ← taken rest')
              else if l.isPlain '+' then
                return (done .possessive, ← taken rest')
              else
                return (done .greedy, rest)
          | [] => return (done .greedy, [])

/- The bounds of the three marks of repetition. -/
def markBounds? : Char → Option (Nat × Option Nat)
| '*' => some (0, none)
| '+' => some (1, none)
| '?' => some (0, some 1)
| _ => none

/- The digits that lexemes begin with, and what follows. -/
def digits : List Lexeme → List Char × List Lexeme
| [] => ([], [])
| l :: rest =>
    match l.plain?.filter Char.isDigit with
    | some c =>
        let (cs, rest) := digits rest
        (c :: cs, rest)
    | none => ([], l :: rest)

/-
  The digits of bounds up to the closing brace: `m`, `m,`,
  `,n` or `m,n`. Anything else is no bound.
-/
def bounds? (rest : List Lexeme) :
    Option (List Char × List Char × List Lexeme) :=
  let (low, afterLow) := digits rest
  match afterLow with
  | l :: after =>
      if l.isPlain ',' then
        match digits after with
        | (high, m :: rest) =>
            if m.isPlain '\x7d' then some (low, high, rest)
            else none
        | _ => none
      else if l.isPlain '\x7d' && !low.isEmpty then
        some (low, low, after)
      else
        none
  | [] => none

/- The numbers of rounds that are too large. -/
def roundLimit : Nat := 4294967295

/- The number of rounds that digits stand for, if any. -/
def roundsOf?
    (ds : List Char) : Except Error (Option Nat) :=
  if ds.isEmpty then
    .ok none
  else if Text.digitLimit < ds.length then
    .error ⟨.longNumber ds.length, none⟩
  else if roundLimit ≤ numberOf 10 ds then
    .error ⟨.manyRounds, none⟩
  else
    .ok (some (numberOf 10 ds))

/-
  Repeat the last piece of a level as the bounds after a
  brace say. Without bounds, the brace is a character.
-/
def Level.brace
    (level : Level)
    (l : Lexeme)
    (rest : List Lexeme) :
    Except Error (Level × List Lexeme) := do
  match bounds? rest with
  | none => return (level.pushItem (.single '\x7b'), rest)
  | some (low, high, after) =>
      let after ← taken after
      let least := (← roundsOf? low).getD 0
      let most ← roundsOf? high
      if most.any (· < least) then
        .error ⟨.crossedBounds, some (l.position + 1)⟩
      level.repeatLast l least most after

end Regex

end SqlAudit

------------------------------------------------------------
-- Escapes
------------------------------------------------------------

namespace SqlAudit

namespace Regex

/- A piece and what follows it. -/
abbrev PieceRead : Type := Piece × List Lexeme

/- The piece that matches one character of an entry. -/
def Piece.ofItem
    (mode : Mode)
    (item : ClassItem) : Piece where
  kind := .solid
  regex := .char (.ofItem mode.letters item)

/- The group with a number, which has to be closed. -/
def echoNumber
    (finish : Nat)
    (mode : Mode)
    (memory : Memory)
    (l : Lexeme)
    (number : Nat)
    (rest : List Lexeme) : Except Error PieceRead := do
  if memory.next ≤ number then
    .error ⟨.badReference number, some (l.position + 1)⟩
  if !memory.isClosed number then
    l.fail .openReference
  memory.checkLook finish number rest
  return (⟨.solid, .echo number mode.letters⟩, rest)

/-
  The piece that an escaped digit other than zero begins:
  three octal digits are the number of a character, and one
  or two digits that of a group.
-/
def readReference
    (finish : Nat)
    (mode : Mode)
    (memory : Memory)
    (l : Lexeme)
    (c : Char)
    (rest : List Lexeme) : Except Error PieceRead := do
  let (second, rest) ← readWhile Char.isDigit 1 rest
  let (third, rest) ←
    if !second.isEmpty && (c :: second).all isOctal then
      readWhile isOctal 1 rest
    else
      pure ([], rest)
  let ds := c :: second ++ third
  if third.isEmpty then
    echoNumber finish mode memory l (numberOf 10 ds) rest
  else if greatestOctal < numberOf 8 ds then
    l.fail (.largeOctal ('\\' :: ds))
  else
    return (.ofItem mode (ofCode (numberOf 8 ds)), rest)

/- The piece that an escaped character begins. -/
def readEscaped
    (finish : Nat)
    (mode : Mode)
    (memory : Memory)
    (l : Lexeme)
    (c : Char)
    (rest : List Lexeme) : Except Error PieceRead := do
  match kindItem? mode.alphabet c, anchor? mode.alphabet c,
      control? c with
  | some item, _, _ => return (.ofItem mode item, rest)
  | none, some a, _ => return (⟨.anchor, .anchor a⟩, rest)
  | none, none, some d =>
      return (.ofItem mode (.single d), rest)
  | none, none, none =>
      match ← readNumber? finish l c rest with
      | some (code, rest) =>
          return (.ofItem mode (ofCode code), rest)
      | none =>
          if c == '0' then
            let (code, rest) ← readOctal l c rest
            return (.ofItem mode (ofCode code), rest)
          else if c.isDigit then
            readReference finish mode memory l c rest
          else if c.isAlpha then
            l.fail (.badEscape l.text)
          else
            return (.ofItem mode (.single c), rest)

end Regex

end SqlAudit

------------------------------------------------------------
-- Progress
------------------------------------------------------------

namespace SqlAudit

namespace Regex

/- An open parenthesis and the level around it. -/
structure Frame where
  opened : Lexeme
  kind : Bracket
  level : Level
  deriving Repr, DecidableEq

/-
  How far a pattern has been read: the open groups, the
  level inside them, and what is known about groups.
-/
structure Progress where
  frames : List Frame := []
  level : Level := {}
  memory : Memory := {}
  deriving Repr, DecidableEq

/- The expression of a bracket that closes. -/
def Bracket.close
    (level : Level)
    (memory : Memory) : Bracket → Regex × Memory
| .capture number =>
    (.group number level.regex,
      memory.closeGroup number level.regex)
| .plain => (level.regex, memory)
| .atomic => (.atomic level.regex, memory)
| .look wanted behind outermost =>
    let r := level.regex
    let width := (r.width memory.widths).least
    let side := if behind then Side.behind width else .ahead
    (.look wanted side r,
      if outermost then { memory with behind := none }
      else memory)
| .given number none =>
    (.given number level.branch .empty, memory)
| .given number (some first) =>
    (.given number first level.branch, memory)

namespace Progress

/- The progress with another level. -/
def withLevel
    (p : Progress)
    (level : Level) : Progress :=
  { p with level := level }

/- Close the innermost group. -/
def close
    (p : Progress)
    (l : Lexeme) : Except Error Progress :=
  match p.frames with
  | [] =>
      if p.memory.isMixed then .error ⟨.mixedAlphabets, none⟩
      else l.fail .unbalancedGroup
  | frame :: frames =>
      let (r, memory) := frame.kind.close p.level p.memory
      .ok ⟨frames, frame.level.push .solid r, memory⟩

/- Begin another alternative, or the branch of a choice. -/
def alternate
    (p : Progress)
    (l : Lexeme) : Except Error Progress :=
  match p.frames with
  | ⟨opened, .given number first, outer⟩ :: frames =>
      if first.isSome then
        l.fail .thirdBranch
      else
        let kind := Bracket.given number (some p.level.branch)
        .ok ⟨⟨opened, kind, outer⟩ :: frames,
          .start p.level.mode, p.memory⟩
  | _ => .ok (p.withLevel p.level.nextBranch)

/- Take an opening into account. -/
def enter
    (p : Progress)
    (l : Lexeme)
    (opening : Opening)
    (memory : Memory) : Except Error Progress :=
  let p := { p with memory := memory }
  match opening with
  | .comment => .ok p
  | .echo number =>
      .ok (p.withLevel (p.level.push .solid
        (.echo number p.level.mode.letters)))
  | .throughout on =>
      if p.frames.isEmpty && p.level.isFresh then
        .ok (p.withLevel
          (.start (p.level.mode.change on [])))
      else
        l.fail .lateSwitches
  | .bracket kind mode =>
      .ok ⟨⟨l, kind, p.level⟩ :: p.frames, .start mode,
        memory⟩

/- Take a bare character into account. -/
def plain
    (p : Progress)
    (finish : Nat)
    (l : Lexeme)
    (c : Char)
    (rest : List Lexeme) :
    Except Error (Progress × List Lexeme) := do
  let mode := p.level.mode
  let push := fun kind r =>
    (p.withLevel (p.level.push kind r), rest)
  match c with
  | '(' =>
      let (opening, memory, rest) ←
        readOpening finish mode p.memory l rest
      return (← p.enter l opening memory, rest)
  | '[' =>
      let (cls, rest) ← readClass finish mode l rest
      return (p.withLevel (p.level.push .solid (.char cls)),
        rest)
  | '.' =>
      return push .solid
        (.char (if mode.anyChar then .any else .line))
  | '^' =>
      return push .anchor
        (.anchor (if mode.lines then .lineStart else .first))
  | '$' =>
      return push .anchor
        (.anchor (if mode.lines then .lineEnd else .lastLine))
  | '\x7b' =>
      let (level, rest) ← p.level.brace l rest
      return (p.withLevel level, rest)
  | c =>
      match markBounds? c with
      | some (least, most) =>
          let (level, rest) ←
            p.level.repeatLast l least most rest
          return (p.withLevel level, rest)
      | none =>
          return (p.withLevel (p.level.pushItem (.single c)),
            rest)

/- The blanks that a spaced pattern may hold. -/
def isSpace (c : Char) : Bool :=
  CharKind.blank.has .ascii c

/- The rest after the end of the line. -/
def skipLine : List Lexeme → Except Error (List Lexeme)
| [] => .ok []
| l :: rest => do
    let rest' ← taken rest
    if l.isPlain '\n' then return rest'
    else skipLine rest

/- Take a lexeme and what belongs to it into account. -/
def step
    (p : Progress)
    (finish : Nat)
    (l : Lexeme)
    (rest : List Lexeme) :
    Except Error (Progress × List Lexeme) := do
  match l.form with
  | .dangling => l.fail .danglingEscape
  | .escaped c =>
      let (piece, rest) ← readEscaped finish p.level.mode
        p.memory l c (← taken rest)
      return (p.withLevel
        (p.level.push piece.kind piece.regex), rest)
  | .plain '|' => return (← p.alternate l, ← taken rest)
  | .plain ')' => return (← p.close l, ← taken rest)
  | .plain c =>
      let rest ← taken rest
      if p.level.mode.spaced && isSpace c then
        return (p, rest)
      else if p.level.mode.spaced && c == '#' then
        return (p, ← skipLine rest)
      else
        p.plain finish l c rest

end Progress

end Regex

end SqlAudit

------------------------------------------------------------
-- The Parser
------------------------------------------------------------

namespace SqlAudit

namespace Regex

/-
  Read on to the end of the pattern. Every step takes a
  lexeme, so `fuel` need not exceed their number.
-/
def parseFrom
    (finish : Nat) :
    (fuel : Nat) → Progress → List Lexeme →
      Except Error Progress
| _, p, [] =>
    match p.frames with
    | [] => .ok p
    | frame :: _ => frame.opened.fail .unclosedGroup
| 0, _, l :: _ => l.fail .unexpectedEnd
| fuel + 1, p, l :: rest => do
    let (p, rest) ← p.step finish l rest
    parseFrom finish fuel p rest

/-
  Why an expression cannot be searched for: a look behind a
  place has a body that is not of the one width that it
  steps back, or something is repeated though nothing may
  be. The first cause from the left is the one that counts.
-/
def cause?
    (groups : List (Option Width))
    (unrepeated : Bool) : Regex → Option Cause
| .empty | .char _ | .anchor _ | .echo .. => none
| .seq r s | .alt r s | .given _ r s =>
    (r.cause? groups unrepeated).or
      (s.cause? groups unrepeated)
| .repeated r _ _ greed =>
    if unrepeated then some (.repetition greed)
    else r.cause? groups unrepeated
| .atomic r | .group _ r | .look _ .ahead r =>
    r.cause? groups unrepeated
| .look _ (.behind n) r =>
    if r.width groups == .exactly n then
      r.cause? groups unrepeated
    else
      some .variableLook

/-
  The expression of a pattern that has been read to its end.
  Groups that are asked for by number have to be there, and
  the expression has to be one that can be searched for.
-/
def Progress.regex
    (p : Progress) : Except Error Regex := do
  if p.memory.isMixed then
    .error ⟨.mixedAlphabets, none⟩
  let missing := fun (asked : Nat × Nat) =>
    decide (p.memory.next ≤ asked.1)
  if let some (n, position) :=
      p.memory.asked.find? missing then
    .error ⟨.badReference n, some position⟩
  let r := p.level.regex
  match r.cause? p.memory.widths p.level.mode.unrepeated with
  | some cause => .error ⟨cause, none⟩
  | none => return r

/- The regular expression that the text stands for. -/
def parse (pattern : List Char) : Except Error Regex := do
  let ls := lexemes pattern
  let p ← parseFrom pattern.length ls.length {} ls
  p.regex

end Regex

end SqlAudit
