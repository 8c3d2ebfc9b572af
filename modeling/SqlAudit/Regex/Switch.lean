import SqlAudit.Regex.Basic
import SqlAudit.Regex.Lexeme
import SqlAudit.Text.Name

/-
  Switches that change the meaning of a pattern, for all of
  it or for one group.

  Key definitions include:
    * `SqlAudit.Regex.Switch`
    * `SqlAudit.Regex.Mode`
    * `SqlAudit.Regex.readSwitches`
-/

------------------------------------------------------------
-- Switches
------------------------------------------------------------

namespace SqlAudit

namespace Regex

/-
  The switches: letters count in any case, anchors are about
  lines, a dot is any character, blanks are no part of the
  pattern, kinds of characters draw on ASCII or on all
  characters, the place decides about letters, and nothing
  is repeated.
-/
inductive Switch where
| anyCase
| lines
| anyChar
| spaced
| ascii
| full
| locale
| unrepeated
  deriving Repr, DecidableEq

namespace Switch

/- The switch with a letter. -/
def ofChar? : Char → Option Switch
| 'i' => some .anyCase
| 'm' => some .lines
| 's' => some .anyChar
| 'x' => some .spaced
| 'a' => some .ascii
| 'u' => some .full
| 'L' => some .locale
| 't' => some .unrepeated
| _ => none

/- The switch that a lexeme is. -/
def ofLexeme? (l : Lexeme) : Option Switch :=
  l.plain?.bind ofChar?

/- The switch is about the alphabet. -/
def isAlphabet : Switch → Bool
| .ascii | .full | .locale => true
| _ => false

end Switch

end Regex

end SqlAudit

------------------------------------------------------------
-- Modes
------------------------------------------------------------

namespace SqlAudit

namespace Regex

/- The switches that are on at a place of a pattern. -/
structure Mode where
  anyCase : Bool := false
  lines : Bool := false
  anyChar : Bool := false
  spaced : Bool := false
  alphabet : Alphabet := .full
  unrepeated : Bool := false
  deriving Repr, DecidableEq

namespace Mode

/- Turn a switch on or off. -/
def set
    (mode : Mode)
    (on : Bool) : Switch → Mode
| .anyCase => { mode with anyCase := on }
| .lines => { mode with lines := on }
| .anyChar => { mode with anyChar := on }
| .spaced => { mode with spaced := on }
| .ascii => { mode with alphabet := .ascii }
| .full => { mode with alphabet := .full }
| .locale => mode
| .unrepeated => { mode with unrepeated := on }

/- Turn switches on, and then others off. -/
def change
    (mode : Mode)
    (on off : List Switch) : Mode :=
  let mode := on.foldl (fun m s => m.set true s) mode
  off.foldl (fun m s => m.set false s) mode

/- Which characters count as the same. -/
def letters (mode : Mode) : CaseRule :=
  match mode.anyCase, mode.alphabet with
  | false, _ => .exact
  | true, .ascii => .ascii
  | true, .full => .full

end Mode

end Regex

end SqlAudit

------------------------------------------------------------
-- Reading Switches
------------------------------------------------------------

namespace SqlAudit

namespace Regex

/-
  Switches as they stand in a pattern: for all of it, or for
  one group those to turn on and those to turn off.
-/
inductive Switches where
| throughout (on : List Switch)
| within (on off : List Switch)
  deriving Repr, DecidableEq

/- What is wrong with a lexeme among switches. -/
def notASwitch
    (l : Lexeme)
    (otherwise : Cause) : Cause :=
  if l.plain?.any Text.isLetter then .unknownSwitch
  else otherwise

/-
  The switches to turn on, the first of which has been
  taken, and the mark that ends them.
-/
def readOn
    (finish : Nat) :
    List Switch → Switch → List Lexeme →
      Except Error (List Switch × Lexeme × List Lexeme)
| on, s, rest => do
    let others := on.filter Switch.isAlphabet
    if s == .locale then
      failAt finish rest .localeSwitch
    if s.isAlphabet && others.any (· != s) then
      failAt finish rest .alphabetSwitches
    match rest with
    | [] => failAt finish [] .missingSwitchEnd
    | l :: rest =>
        let rest' ← taken rest
        if l.isPlain ')' || l.isPlain '-' || l.isPlain ':' then
          return (s :: on, l, rest')
        match Switch.ofLexeme? l with
        | some t => readOn finish (s :: on) t rest
        | none => l.fail (notASwitch l .missingSwitchEnd)

/-
  The switches to turn off, the first of which has been
  taken, up to the colon that ends them.
-/
def readOff
    (finish : Nat) :
    List Switch → Switch → List Lexeme →
      Except Error (List Switch × List Lexeme)
| off, s, rest => do
    if s.isAlphabet then
      failAt finish rest .alphabetOff
    match rest with
    | [] => failAt finish [] .missingColon
    | l :: rest =>
        let rest' ← taken rest
        if l.isPlain ':' then
          return (s :: off, rest')
        match Switch.ofLexeme? l with
        | some t => readOff finish (s :: off) t rest
        | none => l.fail (notASwitch l .missingColon)

/- The switches to turn off, after the dash before them. -/
def readOffAfterDash
    (finish : Nat)
    (rest : List Lexeme) :
    Except Error (List Switch × List Lexeme) := do
  match rest with
  | [] => failAt finish [] .missingSwitch
  | l :: rest =>
      let rest ← taken rest
      match Switch.ofLexeme? l with
      | some s => readOff finish [] s rest
      | none => l.fail (notASwitch l .missingSwitch)

/- An error one character before what is left. -/
def failBefore
    {α : Type}
    (finish : Nat)
    (rest : List Lexeme)
    (cause : Cause) : Except Error α :=
  .error ⟨cause, some (place finish rest - 1)⟩

/-
  The switches of a group, the first lexeme of which is a
  switch or the dash before those to turn off.
-/
def readSwitches
    (finish : Nat)
    (first : Option Switch)
    (rest : List Lexeme) :
    Except Error (Switches × List Lexeme) := do
  let (on, mark, rest) ←
    match first with
    | some s => do
        let (on, l, rest) ← readOn finish [] s rest
        pure (on, l.plain?, rest)
    | none => pure ([], some '-', rest)
  if mark == some ')' then
    return (.throughout on, rest)
  if on.contains .unrepeated then
    failBefore finish rest .globalOn
  let (off, rest) ←
    if mark == some '-' then readOffAfterDash finish rest
    else pure ([], rest)
  if off.contains .unrepeated then
    failBefore finish rest .globalOff
  if on.any off.contains then
    failBefore finish rest .onAndOff
  return (.within on off, rest)

end Regex

end SqlAudit
