import SqlAudit.Regex.Basic
import SqlAudit.Regex.Lexeme
import SqlAudit.Text.CharName

/-
  What a character with a backslash before it stands for.

  Some letters stand for a kind of character, for a control
  character or for a condition on the place. Others begin
  the number of a character: two, four or eight hexadecimal
  digits, or up to three octal ones. Other letters stand for
  nothing, and all that is no letter for itself.

  Key definitions include:
    * `SqlAudit.Regex.kindItem?`
    * `SqlAudit.Regex.anchor?`
    * `SqlAudit.Regex.readNumber?`
    * `SqlAudit.Regex.ofCode`
-/

------------------------------------------------------------
-- Letters With A Meaning
------------------------------------------------------------

namespace SqlAudit

namespace Regex

/- The kinds of characters with a letter of their own. -/
def kindItem?
    (alphabet : Alphabet) : Char → Option ClassItem
| 'd' => some (.kind .digit alphabet)
| 'D' => some (.unlike .digit alphabet)
| 's' => some (.kind .blank alphabet)
| 'S' => some (.unlike .blank alphabet)
| 'w' => some (.kind .word alphabet)
| 'W' => some (.unlike .word alphabet)
| _ => none

/- The control characters with a letter of their own. -/
def control? : Char → Option Char
| 'a' => some '\x07'
| 'f' => some '\x0c'
| 'n' => some '\n'
| 'r' => some '\r'
| 't' => some '\t'
| 'v' => some '\x0b'
| _ => none

/- The anchors with a letter of their own. -/
def anchor?
    (alphabet : Alphabet) : Char → Option Anchor
| 'A' => some .first
| 'Z' => some .last
| 'b' => some (.wordEdge alphabet)
| 'B' => some (.notWordEdge alphabet)
| _ => none

end Regex

end SqlAudit

------------------------------------------------------------
-- Numbers Of Characters
------------------------------------------------------------

namespace SqlAudit

namespace Regex

/- The value of a hexadecimal digit. -/
def hexValue? (c : Char) : Option Nat :=
  if c.isDigit then some (c.toNat - '0'.toNat)
  else if 'a' ≤ c && c ≤ 'f' then
    some (c.toNat - 'a'.toNat + 10)
  else if 'A' ≤ c && c ≤ 'F' then
    some (c.toNat - 'A'.toNat + 10)
  else none

/- An octal digit. -/
def isOctal (c : Char) : Bool :=
  '0' ≤ c && c ≤ '7'

/- The number that digits stand for in the base. -/
def numberOf
    (base : Nat)
    (digits : List Char) : Nat :=
  digits.foldl
    (fun n c => n * base + (hexValue? c).getD 0) 0

/- How many hexadecimal digits follow the letter. -/
def hexLength? : Char → Option Nat
| 'x' => some 2
| 'u' => some 4
| 'U' => some 8
| _ => none

/- The greatest number of a character. -/
def greatestCode : Nat := 0x10ffff

/- The greatest number that octal digits may stand for. -/
def greatestOctal : Nat := 0xff

/- A character by its number in hexadecimal digits. -/
def readHex
    (l : Lexeme)
    (length : Nat)
    (rest : List Lexeme) :
    Except Error (Nat × List Lexeme) := do
  let (digits, rest) ←
    readWhile (fun c => (hexValue? c).isSome) length rest
  let code := numberOf 16 digits
  if digits.length != length then
    l.fail (.incompleteEscape (l.text ++ digits))
  else if greatestCode < code then
    l.fail (.badEscape (l.text ++ digits))
  else
    return (code, rest)

/- A character by its name in braces. -/
def readNamed
    (finish : Nat)
    (l : Lexeme)
    (rest : List Lexeme) :
    Except Error (Nat × List Lexeme) := do
  match rest with
  | [] => failAt finish [] .missingBrace
  | brace :: rest =>
      if brace.isPlain '\x7b' then
        let (name, rest) ← readUntil finish '\x7d'
          "character name" [] (← taken rest)
        match Text.charNamed? name with
        | some c => return (c.toNat, rest)
        | none => l.fail (.unknownCharacter name)
      else
        brace.fail .missingBrace

/- A character by its number or name, after its letter. -/
def readNumber?
    (finish : Nat)
    (l : Lexeme)
    (letter : Char)
    (rest : List Lexeme) :
    Except Error (Option (Nat × List Lexeme)) :=
  match hexLength? letter with
  | some length => (readHex l length rest).map some
  | none =>
      if letter == 'N' then
        (readNamed finish l rest).map some
      else
        .ok none

/- A character by its number in octal digits. -/
def readOctal
    (l : Lexeme)
    (first : Char)
    (rest : List Lexeme) :
    Except Error (Nat × List Lexeme) := do
  let (digits, rest) ← readWhile isOctal 2 rest
  let code := numberOf 8 (first :: digits)
  if greatestOctal < code then
    l.fail (.largeOctal (l.text ++ digits))
  else
    return (code, rest)

end Regex

end SqlAudit

------------------------------------------------------------
-- Characters By Number
------------------------------------------------------------

namespace SqlAudit

namespace Regex

/- The number is one of those that no character has. -/
def isSurrogate (code : Nat) : Bool :=
  0xd800 ≤ code && code ≤ 0xdfff

/- The characters with numbers between two numbers. -/
def between
    (first last : Nat) : ClassItem :=
  .range
    (if isSurrogate first then '\ue000' else .ofNat first)
    (if isSurrogate last then '\ud7ff' else .ofNat last)

/- The character with a number, if there is one. -/
def ofCode (code : Nat) : ClassItem :=
  if isSurrogate code then between code code
  else .single (.ofNat code)

end Regex

end SqlAudit
