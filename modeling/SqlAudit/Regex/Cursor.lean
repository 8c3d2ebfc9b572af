import SqlAudit.Regex.Basic

/-
  Places in a text, together with what groups hold there.

  Key definitions include:
    * `SqlAudit.Cursor`
    * `SqlAudit.Cursor.next?`
    * `SqlAudit.Cursor.onward`
    * `SqlAudit.Cursor.hold`
    * `SqlAudit.Anchor.holds`
-/

------------------------------------------------------------
-- Cursors
------------------------------------------------------------

namespace SqlAudit

/-
  A place in a text: the characters before it, the nearest
  first, the text after it, how many characters that is, and
  the texts that groups hold.
-/
structure Cursor where
  before : List Char
  rest : List Char
  left : Nat
  left_eq : left = rest.length
  held : List (Nat × List Char)
  deriving Repr, DecidableEq

namespace Cursor

/- The start of a text. -/
def start (text : List Char) : Cursor where
  before := []
  rest := text
  left := text.length
  left_eq := rfl
  held := []

/- The character after the place, and the place after it. -/
def next? : Cursor → Option (Char × Cursor)
| ⟨_, [], _, _, _⟩ => none
| ⟨before, c :: rest, left, h, held⟩ =>
    some (c,
      ⟨c :: before, rest, left - 1, by simp [h], held⟩)

/- The place some characters before the place. -/
def back? : Nat → Cursor → Option Cursor
| 0, c => some c
| _ + 1, ⟨[], _, _, _, _⟩ => none
| n + 1, ⟨c :: before, rest, left, h, held⟩ =>
    back? n ⟨before, c :: rest, left + 1, by simp [h], held⟩

/- The places of a text from `rest` on to its end. -/
def onwardFrom :
    List Char →
      (rest : List Char) →
      (left : Nat) →
      left = rest.length →
      List Cursor
| before, [], left, h => [⟨before, [], left, h, []⟩]
| before, c :: rest, left, h =>
    ⟨before, c :: rest, left, h, []⟩ ::
      onwardFrom (c :: before) rest (left - 1)
        (by simp [h])

/- The place and those after it, up to the end. -/
def onward (c : Cursor) : List Cursor :=
  onwardFrom c.before c.rest c.left c.left_eq

end Cursor

end SqlAudit

------------------------------------------------------------
-- Groups
------------------------------------------------------------

namespace SqlAudit

namespace Cursor

/- The text that a group holds. -/
def held?
    (c : Cursor)
    (number : Nat) : Option (List Char) :=
  (c.held.find? (·.1 == number)).map (·.2)

/- The group holds the text between two places. -/
def hold
    (c : Cursor)
    (number : Nat)
    (start : Cursor) : Cursor :=
  let text := start.rest.take (start.left - c.left)
  { c with
    held :=
      (number, text) :: c.held.filter (·.1 != number) }

/- The place with the groups as they are at another one. -/
def holdAs
    (c d : Cursor) : Cursor :=
  { c with held := d.held }

/- The place with no group that holds a text. -/
def forget (c : Cursor) : Cursor :=
  { c with held := [] }

/- The place after a text, if the text stands here. -/
def after?
    (letters : CaseRule) :
    List Char → Cursor → Option Cursor
| [], c => some c
| x :: text, c =>
    match c.next? with
    | some (y, d) =>
        if letters.small x == letters.small y then
          after? letters text d
        else
          none
    | none => none

end Cursor

end SqlAudit

------------------------------------------------------------
-- Anchors
------------------------------------------------------------

namespace SqlAudit

namespace Cursor

/- The character before the place is a word's. -/
def wordBefore
    (alphabet : Alphabet)
    (c : Cursor) : Bool :=
  c.before.head?.any (CharKind.word.has alphabet)

/- The character after the place is a word's. -/
def wordAfter
    (alphabet : Alphabet)
    (c : Cursor) : Bool :=
  c.rest.head?.any (CharKind.word.has alphabet)

end Cursor

/-
  The condition holds at the place. A place of an empty text
  is no place beside or inside a word.
-/
def Anchor.holds : Anchor → Cursor → Bool
| .first, c => c.before.isEmpty
| .last, c => c.rest.isEmpty
| .lastLine, c => c.rest.isEmpty || c.rest == ['\n']
| .lineStart, c =>
    c.before.isEmpty || c.before.head? == some '\n'
| .lineEnd, c =>
    c.rest.isEmpty || c.rest.head? == some '\n'
| .wordEdge a, c => c.wordBefore a != c.wordAfter a
| .notWordEdge a, c =>
    c.wordBefore a == c.wordAfter a &&
      !(c.before.isEmpty && c.rest.isEmpty)

end SqlAudit
