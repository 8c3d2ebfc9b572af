import SqlAudit.Regex.Switch
import SqlAudit.Text.Integer

/-
  Reading the opening of a group.

  A bare parenthesis opens a group that remembers. After a
  question mark there can be a mere bracket, a name, switches,
  a look around the place, a condition, a comment, or the
  name of a group to echo.

  Key definitions include:
    * `SqlAudit.Regex.Memory`
    * `SqlAudit.Regex.Bracket`
    * `SqlAudit.Regex.Opening`
    * `SqlAudit.Regex.readOpening`
-/

------------------------------------------------------------
-- Groups So Far
------------------------------------------------------------

namespace SqlAudit

namespace Regex

/-
  What is known about groups while a pattern is read: their
  widths in order, as far as they are closed, their names,
  the first group inside a look behind, the groups that are
  asked for by number and where, and the alphabets that were
  switched on throughout.
-/
structure Memory where
  widths : List (Option Width) := []
  names : List (List Char × Nat) := []
  behind : Option Nat := none
  asked : List (Nat × Nat) := []
  alphabets : List Switch := []
  deriving Repr, DecidableEq

namespace Memory

/- The number of the next group. -/
def next (memory : Memory) : Nat :=
  memory.widths.length + 1

/- The group is known and closed. -/
def isClosed
    (memory : Memory)
    (number : Nat) : Bool :=
  match memory.widths[number - 1]? with
  | some width => 0 < number && width.isSome
  | none => false

/- The number of the group with a name. -/
def named?
    (memory : Memory)
    (name : List Char) : Option Nat :=
  (memory.names.find? (·.1 == name)).map (·.2)

/- Open a group, maybe with a name. -/
def openGroup
    (memory : Memory)
    (name : Option (List Char)) : Memory :=
  { memory with
    widths := memory.widths ++ [none]
    names := memory.names ++
      (name.map fun n => (n, memory.next)).toList }

/- Close a group. -/
def closeGroup
    (memory : Memory)
    (number : Nat)
    (r : Regex) : Memory :=
  let width := r.width memory.widths
  { memory with
    widths := memory.widths.set (number - 1) (some width) }

/- Ask for a group by number, at a place. -/
def ask
    (memory : Memory)
    (number position : Nat) : Memory :=
  if memory.asked.any (·.1 == number) then
    memory
  else
    { memory with
      asked := memory.asked ++ [(number, position)] }

/-
  The group may be asked for here. In a look behind, only
  groups before it may.
-/
def checkLook
    (memory : Memory)
    (finish : Nat)
    (number : Nat)
    (rest : List Lexeme) : Except Error Unit :=
  match memory.behind with
  | none => .ok ()
  | some first =>
      if !memory.isClosed number then
        failAt finish rest .openReference
      else if first ≤ number then
        failAt finish rest .lookReference
      else
        .ok ()

/- Both alphabets were switched on throughout. -/
def isMixed (memory : Memory) : Bool :=
  memory.alphabets.contains .ascii &&
    memory.alphabets.contains .full

end Memory

end Regex

end SqlAudit

------------------------------------------------------------
-- Openings
------------------------------------------------------------

namespace SqlAudit

namespace Regex

/-
  The kinds of brackets: one that remembers, one that does
  not, one whose match is final, a look around the place,
  and a choice by whether a group holds a text. A look
  behind knows whether it is inside another one, and a
  choice knows its first branch once that is read.
-/
inductive Bracket where
| capture (number : Nat)
| plain
| atomic
| look (wanted behind outermost : Bool)
| given (number : Nat) (first : Option Regex)
  deriving Repr, DecidableEq

/-
  What an opening parenthesis comes to: a comment, an echo
  of a group, switches for the whole pattern, or a bracket
  with its mode.
-/
inductive Opening where
| comment
| echo (number : Nat)
| throughout (on : List Switch)
| bracket (kind : Bracket) (mode : Mode)
  deriving Repr, DecidableEq

/- An opening, what is known then, and what follows. -/
abbrev Opened : Type := Opening × Memory × List Lexeme

end Regex

end SqlAudit

------------------------------------------------------------
-- Names And Numbers
------------------------------------------------------------

namespace SqlAudit

namespace Regex

/- The mark after a name has been taken: where it begins. -/
def nameStart
    (finish : Nat)
    (name : List Char)
    (rest : List Lexeme) : Nat :=
  place finish rest - (name.length + 1)

/- The name of a group, up to a mark. -/
def readGroupName
    (finish : Nat)
    (mark : Char)
    (rest : List Lexeme) :
    Except Error (List Char × List Lexeme) := do
  let (name, rest) ← readUntil finish mark "group name" [] rest
  if Text.isName name then
    return (name, rest)
  else
    .error ⟨.badName name, some (nameStart finish name rest)⟩

/- A group with a name. -/
def readNamedGroup
    (finish : Nat)
    (mode : Mode)
    (memory : Memory)
    (rest : List Lexeme) : Except Error Opened := do
  let (name, rest) ← readGroupName finish '>' rest
  match memory.named? name with
  | some earlier =>
      .error ⟨.repeatedName name memory.next earlier,
        some (nameStart finish name rest)⟩
  | none =>
      return (.bracket (.capture memory.next) mode,
        memory.openGroup (some name), rest)

/- An echo of a group by its name. -/
def readEcho
    (finish : Nat)
    (memory : Memory)
    (rest : List Lexeme) : Except Error Opened := do
  let (name, rest) ← readGroupName finish ')' rest
  let start := some (nameStart finish name rest)
  match memory.named? name with
  | none => .error ⟨.unknownName name, start⟩
  | some number =>
      if !memory.isClosed number then
        .error ⟨.openReference, start⟩
      memory.checkLook finish number rest
      return (.echo number, memory, rest)

/- The numbers that no group can have. -/
def groupLimit : Nat := 1073741823

/- The number of the group that a condition asks for. -/
def conditionNumber
    (name : List Char)
    (position : Nat)
    (memory : Memory) : Except Error (Nat × Memory) :=
  let fail := fun cause => .error ⟨cause, some position⟩
  if Text.isName name then
    match memory.named? name with
    | some number => .ok (number, memory)
    | none => fail (.unknownName name)
  else
    match Text.parseShortInt? name with
    | none => fail (.badName name)
    | some n =>
        if n < 0 then fail (.badName name)
        else if n == 0 then fail .zeroReference
        else if groupLimit ≤ n.toNat then
          fail (.badReference n.toNat)
        else
          .ok (n.toNat, memory.ask n.toNat position)

/- A condition on a group. -/
def readCondition
    (finish : Nat)
    (mode : Mode)
    (memory : Memory)
    (rest : List Lexeme) : Except Error Opened := do
  let (name, rest) ← readUntil finish ')' "group name" [] rest
  let (number, memory) ←
    conditionNumber name (nameStart finish name rest) memory
  memory.checkLook finish number rest
  return (.bracket (.given number none) mode, memory, rest)

end Regex

end SqlAudit

------------------------------------------------------------
-- Reading An Opening
------------------------------------------------------------

namespace SqlAudit

namespace Regex

/- The rest after a comment. -/
def skipComment
    (opened : Lexeme) :
    List Lexeme → Except Error (List Lexeme)
| [] => opened.fail .unclosedComment
| l :: rest => do
    let rest' ← taken rest
    if l.isPlain ')' then return rest'
    else skipComment opened rest

/- What follows the letter for names. -/
def readExtension
    (finish : Nat)
    (mode : Mode)
    (memory : Memory)
    (question : Lexeme)
    (rest : List Lexeme) : Except Error Opened := do
  match rest with
  | [] => failAt finish [] .unexpectedEnd
  | l :: rest =>
      let rest ← taken rest
      if l.isPlain '<' then
        readNamedGroup finish mode memory rest
      else if l.isPlain '=' then
        readEcho finish memory rest
      else
        question.fail (.unknownExtension ('P' :: l.text))

/- What follows the mark of a look behind the place. -/
def readBehind
    (finish : Nat)
    (mode : Mode)
    (memory : Memory)
    (question : Lexeme)
    (rest : List Lexeme) : Except Error Opened := do
  match rest with
  | [] => failAt finish [] .unexpectedEnd
  | l :: rest =>
      let rest ← taken rest
      if l.isPlain '=' || l.isPlain '!' then
        let look := Bracket.look (l.isPlain '=') true
          memory.behind.isNone
        let first := memory.behind.getD memory.next
        return (.bracket look mode,
          { memory with behind := some first }, rest)
      else
        question.fail (.unknownExtension ('<' :: l.text))

/- What follows switches. -/
def readSwitched
    (finish : Nat)
    (mode : Mode)
    (memory : Memory)
    (first : Option Switch)
    (rest : List Lexeme) : Except Error Opened := do
  let (switches, rest) ← readSwitches finish first rest
  match switches with
  | .throughout on =>
      let alphabets := memory.alphabets ++
        on.filter Switch.isAlphabet
      return (.throughout on,
        { memory with alphabets := alphabets }, rest)
  | .within on off =>
      return (.bracket .plain (mode.change on off), memory,
        rest)

/- What follows a parenthesis and a question mark. -/
def readMarked
    (finish : Nat)
    (mode : Mode)
    (memory : Memory)
    (opened question : Lexeme)
    (rest : List Lexeme) : Except Error Opened := do
  match rest with
  | [] => failAt finish [] .unexpectedEnd
  | l :: rest =>
      let rest ← taken rest
      let bracket := fun kind =>
        (Opening.bracket kind mode, memory, rest)
      match l.plain? with
      | some 'P' =>
          readExtension finish mode memory question rest
      | some ':' => return bracket .plain
      | some '#' =>
          return (.comment, memory,
            ← skipComment opened rest)
      | some '=' => return bracket (.look true false false)
      | some '!' => return bracket (.look false false false)
      | some '<' =>
          readBehind finish mode memory question rest
      | some '(' => readCondition finish mode memory rest
      | some '>' => return bracket .atomic
      | some '-' =>
          readSwitched finish mode memory none rest
      | _ =>
          match Switch.ofLexeme? l with
          | some s =>
              readSwitched finish mode memory (some s) rest
          | none =>
              question.fail (.unknownExtension l.text)

/- What follows an opening parenthesis. -/
def readOpening
    (finish : Nat)
    (mode : Mode)
    (memory : Memory)
    (opened : Lexeme)
    (rest : List Lexeme) : Except Error Opened := do
  let capture :=
    (Opening.bracket (.capture memory.next) mode,
      memory.openGroup none, rest)
  match rest with
  | question :: rest =>
      if question.isPlain '?' then
        readMarked finish mode memory opened question
          (← taken rest)
      else
        return capture
  | [] => return capture

end Regex

end SqlAudit
