import SqlAudit.Regex.Error

/-
  The smallest pieces of a pattern's text: a character, or a
  character with a backslash before it.

  A backslash at the very end is met together with the
  lexeme before it.

  Key definitions include:
    * `SqlAudit.Regex.Lexeme`
    * `SqlAudit.Regex.lexemes`
    * `SqlAudit.Regex.taken`
    * `SqlAudit.Regex.readWhile`
    * `SqlAudit.Regex.readUntil`
-/

------------------------------------------------------------
-- Lexemes
------------------------------------------------------------

namespace SqlAudit

namespace Regex

/- The three forms of a lexeme. -/
inductive Lexeme.Form where
| plain (c : Char)
| escaped (c : Char)
| dangling
  deriving Repr, DecidableEq

/- A lexeme and where it stands in the pattern. -/
structure Lexeme where
  form : Lexeme.Form
  position : Nat
  deriving Repr, DecidableEq

namespace Lexeme

/- The text of a lexeme. -/
def text (l : Lexeme) : List Char :=
  match l.form with
  | .plain c => [c]
  | .escaped c => ['\\', c]
  | .dangling => ['\\']

/- The bare character that the lexeme is. -/
def plain? (l : Lexeme) : Option Char :=
  match l.form with
  | .plain c => some c
  | _ => none

/- The lexeme is the bare character. -/
def isPlain
    (l : Lexeme)
    (c : Char) : Bool :=
  l.form == .plain c

/- An error at the lexeme. -/
def fail
    {α : Type}
    (l : Lexeme)
    (cause : Cause) : Except Error α :=
  .error ⟨cause, some l.position⟩

end Lexeme

/- The lexemes of a text that begins at the position. -/
def lexemesAt : Nat → List Char → List Lexeme
| _, [] => []
| n, '\\' :: c :: rest =>
    ⟨.escaped c, n⟩ :: lexemesAt (n + 2) rest
| n, ['\\'] => [⟨.dangling, n⟩]
| n, c :: rest => ⟨.plain c, n⟩ :: lexemesAt (n + 1) rest

/- The lexemes of a pattern. -/
def lexemes (pattern : List Char) : List Lexeme :=
  lexemesAt 0 pattern

end Regex

end SqlAudit

------------------------------------------------------------
-- Taking Lexemes
------------------------------------------------------------

namespace SqlAudit

namespace Regex

/- What is left after a lexeme has been taken. -/
def taken (rest : List Lexeme) : Except Error (List Lexeme) :=
  match rest with
  | [l] =>
      if l.form == .dangling then l.fail .danglingEscape
      else .ok rest
  | _ => .ok rest

/- Where the lexemes that are left begin. -/
def place
    (finish : Nat)
    (rest : List Lexeme) : Nat :=
  match rest with
  | l :: _ => l.position
  | [] => finish

/- An error before the lexemes that are left. -/
def failAt
    {α : Type}
    (finish : Nat)
    (rest : List Lexeme)
    (cause : Cause) : Except Error α :=
  .error ⟨cause, some (place finish rest)⟩

/- Bare characters of some sort, up to a number of them. -/
def readWhile
    (wanted : Char → Bool) :
    Nat → List Lexeme →
      Except Error (List Char × List Lexeme)
| 0, rest => .ok ([], rest)
| _ + 1, [] => .ok ([], [])
| n + 1, l :: rest =>
    match l.plain? with
    | none => .ok ([], l :: rest)
    | some c =>
        if wanted c then do
          let (cs, rest) ← readWhile wanted n (← taken rest)
          return (c :: cs, rest)
        else
          .ok ([], l :: rest)

/-
  A name up to the mark that ends it, and what follows. The
  kind says what the name stands for.
-/
def readUntil
    (finish : Nat)
    (mark : Char)
    (kind : String) :
    List Char → List Lexeme →
      Except Error (List Char × List Lexeme)
| [], [] => failAt finish [] (.missingName kind)
| c :: cs, [] =>
    .error ⟨.unclosedName mark,
      some (finish - (c :: cs).length)⟩
| name, l :: rest => do
    let rest' ← taken rest
    if l.isPlain mark then
      if name.isEmpty then l.fail (.missingName kind)
      else return (name, rest')
    else
      readUntil finish mark kind (name ++ l.text) rest

end Regex

end SqlAudit
