import SqlAudit.Text.Blank
import SqlAudit.Text.Letter
import SqlAudit.Text.Variant

/-
  Regular expressions over text.

  A group remembers the text that it matched last, and the
  expression can ask for that text again. A repetition says
  how often at least and at most its body is matched, and in
  which order the choices are tried.

  Key definitions include:
    * `SqlAudit.CharClass`
    * `SqlAudit.Anchor`
    * `SqlAudit.Regex`
-/

------------------------------------------------------------
-- Alphabets And Letter Case
------------------------------------------------------------

namespace SqlAudit

/- The characters that the kinds of characters draw on. -/
inductive Alphabet where
| full
| ascii
  deriving Repr, DecidableEq

/-
  Which characters count as the same: only the character
  itself, the two forms of an ASCII letter, or all the forms
  of any letter.
-/
inductive CaseRule where
| exact
| ascii
| full
  deriving Repr, DecidableEq

namespace CaseRule

/- The characters that count as the given one. -/
def variants : CaseRule → Char → List Char
| .exact, c => [c]
| .ascii, c => [c.toLower, c.toUpper]
| .full, c => Text.variants c

/- The form that stands for all forms of a character. -/
def small : CaseRule → Char → Char
| .exact, c => c
| .ascii, c => c.toLower
| .full, c => Text.small c

end CaseRule

end SqlAudit

------------------------------------------------------------
-- Character Classes
------------------------------------------------------------

namespace SqlAudit

/- The three kinds of characters that have a name. -/
inductive CharKind where
| digit
| blank
| word
  deriving Repr, DecidableEq

/- The character of the alphabet is of the kind. -/
def CharKind.has : CharKind → Alphabet → Char → Bool
| .digit, .full, c => Text.isDecimalDigit c
| .blank, .full, c => Text.isBlank c
| .word, .full, c => Text.isWordChar c
| .digit, .ascii, c => c.isDigit
| .blank, .ascii, c => c == ' ' || (9 ≤ c.toNat && c.toNat ≤ 13)
| .word, .ascii, c => c.isAlphanum || c == '_'

/- One entry of a character class. -/
inductive ClassItem where
| single (c : Char)
| range (first last : Char)
| kind (k : CharKind) (alphabet : Alphabet)
| unlike (k : CharKind) (alphabet : Alphabet)
  deriving Repr, DecidableEq

namespace ClassItem

/- The entry holds the character. -/
def has : ClassItem → Char → Bool
| .single d, c => c == d
| .range first last, c =>
    first.toNat ≤ c.toNat && c.toNat ≤ last.toNat
| .kind k alphabet, c => k.has alphabet c
| .unlike k alphabet, c => !k.has alphabet c

/- The entry holds a character that counts as this one. -/
def hasUnder : CaseRule → ClassItem → Char → Bool
| .exact, item, c => item.has c
| rule, .single d, c => (rule.variants c).contains d
| rule, .range first last, c =>
    (rule.variants c).any (ClassItem.range first last).has
| _, item, c => item.has c

end ClassItem

/- The characters of some entry, or of none if negated. -/
structure CharClass where
  negated : Bool
  items : List ClassItem
  letters : CaseRule := .exact
  deriving Repr, DecidableEq

namespace CharClass

/- The class holds the character. -/
def has
    (cls : CharClass)
    (c : Char) : Bool :=
  (cls.items.any fun item => item.hasUnder cls.letters c) !=
    cls.negated

/- The class of one entry. -/
def ofItem
    (letters : CaseRule)
    (item : ClassItem) : CharClass where
  negated := false
  items := [item]
  letters := letters

/- The class of one character. -/
def single (c : Char) : CharClass :=
  ofItem .exact (.single c)

/- Every character except the line feed. -/
def line : CharClass where
  negated := true
  items := [.single '\n']

/- Every character. -/
def any : CharClass where
  negated := true
  items := []

end CharClass

end SqlAudit

------------------------------------------------------------
-- Expressions
------------------------------------------------------------

namespace SqlAudit

/-
  Conditions on a place in the text: its start, its end, its
  end or the place before a final line feed, the start and
  the end of a line, a place where words begin or end, and
  any other place.
-/
inductive Anchor where
| first
| last
| lastLine
| lineStart
| lineEnd
| wordEdge (alphabet : Alphabet)
| notWordEdge (alphabet : Alphabet)
  deriving Repr, DecidableEq

/-
  How a repetition chooses: as often as possible first, as
  seldom as possible first, or as often as possible without
  a second thought.
-/
inductive Greed where
| greedy
| frugal
| possessive
  deriving Repr, DecidableEq

/-
  Where a look around a place begins: at the place, or a
  number of characters before it.
-/
inductive Side where
| ahead
| behind (width : Nat)
  deriving Repr, DecidableEq

/-
  Regular expressions. Of an atomic one, only the best match
  counts. A look is wanted or unwanted, and moves nowhere.
  An echo matches the text that its group holds. A given
  group, if it holds a text, leads to the first of two
  expressions, and else to the second.
-/
inductive Regex where
| empty
| char (cls : CharClass)
| anchor (a : Anchor)
| seq (r s : Regex)
| alt (r s : Regex)
| repeated
    (r : Regex)
    (least : Nat)
    (most : Option Nat)
    (greed : Greed)
| atomic (r : Regex)
| group (number : Nat) (r : Regex)
| echo (number : Nat) (letters : CaseRule)
| look (wanted : Bool) (side : Side) (r : Regex)
| given (number : Nat) (r s : Regex)
  deriving Repr, DecidableEq

namespace Regex

/- Expressions one after the other. -/
def seqOf : List Regex → Regex
| [] => .empty
| [r] => r
| r :: rs => .seq r (seqOf rs)

/- A choice between expressions, the first one preferred. -/
def altOf : List Regex → Regex
| [] => .empty
| [r] => r
| r :: rs => .alt r (altOf rs)

end Regex

end SqlAudit

------------------------------------------------------------
-- Widths
------------------------------------------------------------

namespace SqlAudit

namespace Regex

/- The least and the greatest number of characters. -/
structure Width where
  least : Nat
  most : Option Nat
  deriving Repr, DecidableEq

namespace Width

/- Exactly `n` characters. -/
def exactly (n : Nat) : Width where
  least := n
  most := some n

/- One width after the other. -/
def add
    (v w : Width) : Width where
  least := v.least + w.least
  most := v.most.bind fun m => w.most.map (m + ·)

/- One width or the other. -/
def or
    (v w : Width) : Width where
  least := min v.least w.least
  most := v.most.bind fun m => w.most.map (max m ·)

/- A width some number of times. -/
def times
    (w : Width)
    (least : Nat)
    (most : Option Nat) : Width where
  least := w.least * least
  most :=
    if w.most == some 0 || most == some 0 then some 0
    else w.most.bind fun m => most.map (m * ·)

end Width

/- How many characters the matches of an expression have. -/
def width
    (groups : List (Option Width)) : Regex → Width
| .empty => .exactly 0
| .char _ => .exactly 1
| .anchor _ => .exactly 0
| .seq r s => (r.width groups).add (s.width groups)
| .alt r s => (r.width groups).or (s.width groups)
| .repeated r least most _ =>
    (r.width groups).times least most
| .atomic r | .group _ r => r.width groups
| .echo n _ =>
    ((groups[n - 1]?).getD none).getD (.exactly 0)
| .look .. => .exactly 0
| .given _ r s => (r.width groups).or (s.width groups)

end Regex

end SqlAudit
