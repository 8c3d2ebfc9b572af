import SqlAudit.Regex.Escape
import SqlAudit.Regex.Switch

/-
  Reading a character class.

  Key definitions include:
    * `SqlAudit.Regex.ClassEntry`
    * `SqlAudit.Regex.readClass`
-/

------------------------------------------------------------
-- Entries
------------------------------------------------------------

namespace SqlAudit

namespace Regex

/- An entry: the number of a character, or a kind. -/
inductive ClassEntry where
| code (n : Nat)
| kind (item : ClassItem)
  deriving Repr, DecidableEq

/- The entry as it stands in the class. -/
def ClassEntry.item : ClassEntry → ClassItem
| .code n => ofCode n
| .kind item => item

/- The entry that an escaped character stands for. -/
def escapedEntry
    (finish : Nat)
    (alphabet : Alphabet)
    (l : Lexeme)
    (c : Char)
    (rest : List Lexeme) :
    Except Error (ClassEntry × List Lexeme) := do
  match control? c, kindItem? alphabet c with
  | some d, _ => return (.code d.toNat, rest)
  | none, some item => return (.kind item, rest)
  | none, none =>
      if c == 'b' then
        return (.code 8, rest)
      match ← readNumber? finish l c rest with
      | some (code, rest) => return (.code code, rest)
      | none =>
          if isOctal c then
            let (code, rest) ← readOctal l c rest
            return (.code code, rest)
          else if c.isAlphanum then
            l.fail (.badEscape l.text)
          else
            return (.code c.toNat, rest)

/- The entry that a lexeme begins. -/
def readEntry
    (finish : Nat)
    (alphabet : Alphabet)
    (l : Lexeme)
    (rest : List Lexeme) :
    Except Error (ClassEntry × List Lexeme) :=
  match l.form with
  | .plain c => .ok (.code c.toNat, rest)
  | .escaped c => escapedEntry finish alphabet l c rest
  | .dangling => l.fail .danglingEscape

end Regex

end SqlAudit

------------------------------------------------------------
-- Classes
------------------------------------------------------------

namespace SqlAudit

namespace Regex

/-
  The range between two entries, if they are characters in
  order. An error is noticed after the second one.
-/
def rangeItem
    (finish : Nat)
    (first last : Lexeme)
    (a b : ClassEntry)
    (rest : List Lexeme) : Except Error ClassItem :=
  let length := first.text.length + 1 + last.text.length
  let refused := .error
    ⟨.badRange first.text last.text,
      some (place finish rest - length)⟩
  match a, b with
  | .code m, .code n =>
      if n < m then refused else .ok (between m n)
  | _, _ => refused

/-
  The entries of a class up to its closing bracket, and what
  follows it. A bracket in the first place is an entry. Each
  round takes a lexeme, so `fuel` need not exceed their
  number.
-/
def readItems
    (finish : Nat)
    (alphabet : Alphabet)
    (opened : Lexeme) :
    (fuel : Nat) → List ClassItem → List Lexeme →
      Except Error (List ClassItem × List Lexeme)
| 0, _, _ => opened.fail .unclosedClass
| _, _, [] => opened.fail .unclosedClass
| fuel + 1, items, l :: rest => do
    let rest ← taken rest
    if l.isPlain ']' && !items.isEmpty then
      return (items.reverse, rest)
    let (a, rest) ← readEntry finish alphabet l rest
    match rest with
    | [] => opened.fail .unclosedClass
    | dash :: after =>
        if dash.isPlain '-' then
          match ← taken after with
          | [] => opened.fail .unclosedClass
          | m :: rest =>
              let rest ← taken rest
              if m.isPlain ']' then
                return ((.single '-' :: a.item ::
                  items).reverse, rest)
              let (b, rest) ←
                readEntry finish alphabet m rest
              let item ← rangeItem finish l m a b rest
              readItems finish alphabet opened fuel
                (item :: items) rest
        else
          readItems finish alphabet opened fuel
            (a.item :: items) (dash :: after)

/- A class, from the lexeme after its opening bracket. -/
def readClass
    (finish : Nat)
    (mode : Mode)
    (opened : Lexeme)
    (rest : List Lexeme) :
    Except Error (CharClass × List Lexeme) := do
  let (negated, rest) ←
    match rest with
    | l :: after =>
        if l.isPlain '^' then
          pure (true, ← taken after)
        else
          pure (false, rest)
    | [] => pure (false, rest)
  let (items, rest) ← readItems finish mode.alphabet
    opened rest.length [] rest
  return (⟨negated, items, mode.letters⟩, rest)

end Regex

end SqlAudit
