import SqlAudit.Regex.Parser

/-
  The parts that the text of a pattern is made of.

  A part is a character, a class, an anchor, a parenthesis, a
  bar or a repetition. The definitions here say how parts are
  written, when they stand for what their names say, and what
  they stand for.

  Key definitions include:
    * `SqlAudit.Regex.Part`
    * `SqlAudit.Regex.Part.forms`
    * `SqlAudit.Regex.Part.piece?`
    * `SqlAudit.Regex.Part.Spelled`

  Key theorems include:
    * `SqlAudit.Regex.lexemesAt_text`
    * `SqlAudit.Regex.Part.settled`
    * `SqlAudit.Regex.lexemes_parts`
-/

------------------------------------------------------------
-- Lexemes One After The Other
------------------------------------------------------------

namespace SqlAudit

namespace Regex

/- The text of a form. -/
def Lexeme.Form.text : Lexeme.Form → List Char
| .plain c => [c]
| .escaped c => ['\\', c]
| .dangling => ['\\']

/- The form is that of a lexeme, whatever follows it. -/
def Lexeme.Form.Settled : Lexeme.Form → Prop
| .plain c => c ≠ '\\'
| .escaped _ => True
| .dangling => False

/- The lexemes of some forms, from a position on. -/
def lexemesOf : Nat → List Lexeme.Form → List Lexeme
| _, [] => []
| n, form :: forms =>
    ⟨form, n⟩ :: lexemesOf (n + form.text.length) forms

@[simp]
theorem lexemesOf_nil (n : Nat) : lexemesOf n [] = [] := rfl

@[simp]
theorem lexemesOf_cons
    (n : Nat)
    (form : Lexeme.Form)
    (forms : List Lexeme.Form) :
    lexemesOf n (form :: forms) =
      ⟨form, n⟩ ::
        lexemesOf (n + form.text.length) forms := rfl

@[simp]
theorem length_lexemesOf
    (n : Nat)
    (forms : List Lexeme.Form) :
    (lexemesOf n forms).length = forms.length := by
  induction forms generalizing n with
  | nil => rfl
  | cons form forms ih => simp [ih]

theorem lexemesOf_append
    (n : Nat)
    (forms others : List Lexeme.Form) :
    lexemesOf n (forms ++ others) =
      lexemesOf n forms ++
        lexemesOf (n + (forms.flatMap Lexeme.Form.text).length)
          others := by
  induction forms generalizing n with
  | nil => simp
  | cons form forms ih => simp [ih, Nat.add_assoc]

/- Settled forms are the lexemes of their texts. -/
theorem lexemesAt_text
    (n : Nat)
    {forms : List Lexeme.Form}
    (hSettled : ∀ form ∈ forms, form.Settled) :
    lexemesAt n (forms.flatMap Lexeme.Form.text) =
      lexemesOf n forms := by
  induction forms generalizing n with
  | nil => simp [lexemesAt]
  | cons form forms ih =>
      have hForm := hSettled form (by simp)
      have hRest := ih (n + form.text.length)
        fun form hMem => hSettled form (by simp [hMem])
      cases form with
      | plain c =>
          have hPlain : c ≠ '\\' := hForm
          rw [lexemesOf_cons, ← hRest]
          simp [lexemesAt, Lexeme.Form.text, hPlain]
      | escaped c =>
          rw [lexemesOf_cons, ← hRest]
          simp [lexemesAt, Lexeme.Form.text]
      | dangling => exact absurd hForm id

/- Only a last lexeme can be a backslash alone. -/
@[simp]
theorem taken_cons_cons
    (l m : Lexeme)
    (rest : List Lexeme) :
    taken (l :: m :: rest) = .ok (l :: m :: rest) := rfl

@[simp]
theorem taken_plain_cons
    (c : Char)
    (n : Nat)
    (rest : List Lexeme) :
    taken (⟨.plain c, n⟩ :: rest) =
      .ok (⟨.plain c, n⟩ :: rest) := by
  cases rest with
  | nil => rfl
  | cons l rest => rfl

/- Before settled forms, any lexeme can be taken. -/
@[simp]
theorem taken_lexemesOf
    (n : Nat)
    {forms : List Lexeme.Form}
    (hSettled : ∀ form ∈ forms, form.Settled) :
    taken (lexemesOf n forms) = .ok (lexemesOf n forms) := by
  match forms, hSettled with
  | [], _ => rfl
  | [form], hSettled =>
      have hForm : form ≠ .dangling := by
        rintro rfl
        exact hSettled .dangling (by simp)
      simp [taken, hForm]
  | _ :: _ :: _, _ => rfl

end Regex

end SqlAudit

------------------------------------------------------------
-- Parts
------------------------------------------------------------

namespace SqlAudit

namespace Regex

/- An entry of a class: a character, an escape or a range. -/
inductive Entry where
| single (c : Char)
| escaped (c : Char)
| range (first last : Char)
  deriving Repr, DecidableEq

/- The kinds of parentheses that only bracket what follows. -/
inductive Parenthesis where
| remembering
| plain
| atomic
| ahead (wanted : Bool)
  deriving Repr, DecidableEq

/-
  How often something is repeated: by one of the marks, or
  by one or two numbers in braces, written as their digits.
-/
inductive Rounds where
| star
| plus
| option
| exactly (count : List Char)
| between (low high : List Char)
  deriving Repr, DecidableEq

/- The parts of a pattern. -/
inductive Part where
| literal (c : Char)
| escaped (c : Char)
| any
| start
| finish
| bracket (negated : Bool) (entries : List Entry)
| opening (kind : Parenthesis)
| closing
| bar
| repeated (rounds : Rounds) (greed : Greed)
  deriving Repr, DecidableEq

end Regex

end SqlAudit

------------------------------------------------------------
-- How Parts Are Written
------------------------------------------------------------

namespace SqlAudit

namespace Regex

/- The lexemes of an entry. -/
def Entry.forms : Entry → List Lexeme.Form
| .single c => [.plain c]
| .escaped c => [.escaped c]
| .range first last => [.plain first, .plain '-', .plain last]

/- The lexemes that say what a parenthesis is for. -/
def Parenthesis.marks : Parenthesis → List Lexeme.Form
| .remembering => []
| .plain => [.plain '?', .plain ':']
| .atomic => [.plain '?', .plain '>']
| .ahead true => [.plain '?', .plain '=']
| .ahead false => [.plain '?', .plain '!']

/- The lexemes of a repetition, but for its greed. -/
def Rounds.forms : Rounds → List Lexeme.Form
| .star => [.plain '*']
| .plus => [.plain '+']
| .option => [.plain '?']
| .exactly count =>
    .plain '\x7b' :: (count.map .plain ++ [.plain '\x7d'])
| .between low high =>
    .plain '\x7b' :: (low.map .plain ++
      .plain ',' :: (high.map .plain ++ [.plain '\x7d']))

/- The lexemes that say how a repetition chooses. -/
def greedForms : Greed → List Lexeme.Form
| .greedy => []
| .frugal => [.plain '?']
| .possessive => [.plain '+']

/- The lexemes of a part. -/
def Part.forms : Part → List Lexeme.Form
| .literal c => [.plain c]
| .escaped c => [.escaped c]
| .any => [.plain '.']
| .start => [.plain '^']
| .finish => [.plain '$']
| .bracket negated entries =>
    .plain '[' :: ((if negated then [.plain '^'] else []) ++
      (entries.flatMap Entry.forms ++ [.plain ']']))
| .opening kind => .plain '(' :: kind.marks
| .closing => [.plain ')']
| .bar => [.plain '|']
| .repeated rounds greed => rounds.forms ++ greedForms greed

/- The text of a part. -/
def Part.text (part : Part) : List Char :=
  part.forms.flatMap Lexeme.Form.text

end Regex

end SqlAudit

------------------------------------------------------------
-- Parts That Are What They Seem
------------------------------------------------------------

namespace SqlAudit

namespace Regex

/- The characters that mean something of their own. -/
def operators : List Char :=
  "\\|()[.^$\x7b*+?".toList

/- The characters that mean something inside a class. -/
def classOperators : List Char :=
  "\\]-^".toList

/- With a backslash, the character needs no other. -/
def standsEscaped (c : Char) : Bool :=
  !c.isAlphanum || (kindItem? .full c).isSome ||
    (control? c).isSome || (anchor? .full c).isSome

/- The same, inside a class. -/
def entersEscaped (c : Char) : Bool :=
  !c.isAlphanum || (kindItem? .full c).isSome ||
    (control? c).isSome || c == 'b'

/- Digits of a number that is not too large. -/
def IsCount (ds : List Char) : Prop :=
  ds.all Char.isDigit = true ∧
    ds.length ≤ Text.digitLimit ∧ numberOf 10 ds < roundLimit

instance (ds : List Char) : Decidable (IsCount ds) :=
  inferInstanceAs (Decidable (_ ∧ _ ∧ _))

/- The entry stands for what its name says. -/
def Entry.Spelled : Entry → Prop
| .single c => c ∉ classOperators
| .escaped c => entersEscaped c = true
| .range first last =>
    first ∉ classOperators ∧ last ∉ classOperators ∧
      first.toNat ≤ last.toNat

instance (entry : Entry) : Decidable entry.Spelled :=
  match entry with
  | .single c => inferInstanceAs (Decidable (c ∉ _))
  | .escaped _ => inferInstanceAs (Decidable (_ = true))
  | .range _ _ => inferInstanceAs (Decidable (_ ∧ _ ∧ _))

/- The numbers of a repetition are not too large. -/
def Rounds.Spelled : Rounds → Prop
| .star | .plus | .option => True
| .exactly count => count ≠ [] ∧ IsCount count
| .between low high =>
    IsCount low ∧ IsCount high ∧
      (high = [] ∨ numberOf 10 low ≤ numberOf 10 high)

instance (rounds : Rounds) : Decidable rounds.Spelled :=
  match rounds with
  | .star | .plus | .option => inferInstanceAs (Decidable True)
  | .exactly _ => inferInstanceAs (Decidable (_ ∧ _))
  | .between _ _ => inferInstanceAs (Decidable (_ ∧ _ ∧ _))

/- The part stands for what its name says. -/
def Part.Spelled : Part → Prop
| .literal c => c ∉ operators
| .escaped c => standsEscaped c = true
| .bracket _ entries =>
    entries ≠ [] ∧ ∀ entry ∈ entries, entry.Spelled
| .repeated rounds _ => rounds.Spelled
| _ => True

instance (part : Part) : Decidable part.Spelled :=
  match part with
  | .literal c => inferInstanceAs (Decidable (c ∉ _))
  | .escaped _ => inferInstanceAs (Decidable (_ = true))
  | .bracket _ _ => inferInstanceAs (Decidable (_ ∧ _))
  | .repeated rounds _ =>
      inferInstanceAs (Decidable rounds.Spelled)
  | .any | .start | .finish | .opening _ | .closing | .bar =>
      inferInstanceAs (Decidable True)

end Regex

end SqlAudit

------------------------------------------------------------
-- What Parts Stand For
------------------------------------------------------------

namespace SqlAudit

namespace Regex

/- The entry as the class holds it. -/
def Entry.item : Entry → ClassItem
| .single c => ofCode c.toNat
| .escaped c =>
    match control? c, kindItem? .full c with
    | some d, _ => ofCode d.toNat
    | none, some item => item
    | none, none => ofCode (if c == 'b' then 8 else c.toNat)
| .range first last => between first.toNat last.toNat

/- The bounds of a repetition. -/
def Rounds.bounds : Rounds → Nat × Option Nat
| .star => (0, none)
| .plus => (1, none)
| .option => (0, some 1)
| .exactly count =>
    (numberOf 10 count, some (numberOf 10 count))
| .between low high =>
    (numberOf 10 low,
      if high.isEmpty then none
      else some (numberOf 10 high))

/- The piece that a part is, if it is one. -/
def Part.piece? : Part → Option Piece
| .literal c => some (.ofItem {} (.single c))
| .escaped c =>
    match kindItem? .full c, anchor? .full c, control? c with
    | some item, _, _ => some (.ofItem {} item)
    | none, some a, _ => some ⟨.anchor, .anchor a⟩
    | none, none, some d => some (.ofItem {} (.single d))
    | none, none, none => some (.ofItem {} (.single c))
| .any => some ⟨.solid, .char .line⟩
| .start => some ⟨.anchor, .anchor .first⟩
| .finish => some ⟨.anchor, .anchor .lastLine⟩
| .bracket negated entries =>
    some ⟨.solid, .char ⟨negated, entries.map Entry.item,
      .exact⟩⟩
| .opening _ | .closing | .bar | .repeated .. => none

end Regex

end SqlAudit

------------------------------------------------------------
-- The Lexemes Of Parts
------------------------------------------------------------

namespace SqlAudit

namespace Regex

theorem Entry.settled
    {entry : Entry}
    (hSpelled : entry.Spelled) :
    ∀ form ∈ entry.forms, form.Settled := by
  cases entry with
  | single c =>
      have hPlain : c ≠ '\\' := by
        rintro rfl
        exact hSpelled (by decide)
      simp [Entry.forms, Lexeme.Form.Settled, hPlain]
  | escaped c => simp [Entry.forms, Lexeme.Form.Settled]
  | range first last =>
      rcases hSpelled with ⟨hFirst, hLast, _⟩
      have hFirstPlain : first ≠ '\\' := by
        rintro rfl
        exact hFirst (by decide)
      have hLastPlain : last ≠ '\\' := by
        rintro rfl
        exact hLast (by decide)
      simp [Entry.forms, Lexeme.Form.Settled, hFirstPlain,
        hLastPlain]

theorem settled_entries
    {entries : List Entry}
    (hSpelled : ∀ entry ∈ entries, entry.Spelled)
    {forms : List Lexeme.Form}
    (hSettled : ∀ form ∈ forms, form.Settled) :
    ∀ form ∈ entries.flatMap Entry.forms ++ .plain ']' :: forms,
      form.Settled := by
  intro form hMem
  rcases List.mem_append.mp hMem with hEntries | hRest
  · rcases List.mem_flatMap.mp hEntries with
      ⟨entry, hEntry, hForm⟩
    exact entry.settled (hSpelled entry hEntry) form hForm
  · rcases List.mem_cons.mp hRest with rfl | hForms
    · simp [Lexeme.Form.Settled]
    · exact hSettled form hForms

theorem settled_class
    (negated : Bool)
    {entries : List Entry}
    (hSpelled : ∀ entry ∈ entries, entry.Spelled)
    {forms : List Lexeme.Form}
    (hSettled : ∀ form ∈ forms, form.Settled) :
    ∀ form ∈ (if negated then [.plain '^'] else []) ++
        (entries.flatMap Entry.forms ++ .plain ']' :: forms),
      form.Settled := by
  intro form hMem
  rcases List.mem_append.mp hMem with hCaret | hRest
  · cases negated with
    | true =>
        have hSame : form = .plain '^' := by
          simpa using hCaret
        simp [hSame, Lexeme.Form.Settled]
    | false => cases hCaret
  · exact settled_entries hSpelled hSettled form hRest

theorem Parenthesis.settled
    (kind : Parenthesis) :
    ∀ form ∈ kind.marks, form.Settled := by
  cases kind with
  | ahead wanted =>
      cases wanted <;>
        simp [Parenthesis.marks, Lexeme.Form.Settled]
  | _ => simp [Parenthesis.marks, Lexeme.Form.Settled]

theorem Rounds.settled
    {rounds : Rounds}
    (hSpelled : rounds.Spelled) :
    ∀ form ∈ rounds.forms, form.Settled := by
  have hDigits {ds : List Char} (hCount : IsCount ds) :
      ∀ d ∈ ds, d ≠ '\\' := by
    rintro d hMem rfl
    have hDigit := List.all_eq_true.mp hCount.1 _ hMem
    exact absurd hDigit (by decide)
  cases rounds with
  | star | plus | option =>
      simp [Rounds.forms, Lexeme.Form.Settled]
  | exactly count =>
      intro form hMem
      simp only [Rounds.forms, List.mem_cons,
        List.mem_append, List.mem_map, List.not_mem_nil,
        or_false] at hMem
      rcases hMem with rfl | ⟨d, hMem, rfl⟩ | rfl
      · simp [Lexeme.Form.Settled]
      · exact hDigits hSpelled.2 d hMem
      · simp [Lexeme.Form.Settled]
  | between low high =>
      rcases hSpelled with ⟨hLow, hHigh, _⟩
      intro form hMem
      simp only [Rounds.forms, List.mem_cons,
        List.mem_append, List.mem_map, List.not_mem_nil,
        or_false] at hMem
      rcases hMem with rfl | ⟨d, hMem, rfl⟩ | rfl |
        ⟨d, hMem, rfl⟩ | rfl
      · simp [Lexeme.Form.Settled]
      · exact hDigits hLow d hMem
      · simp [Lexeme.Form.Settled]
      · exact hDigits hHigh d hMem
      · simp [Lexeme.Form.Settled]

/- What follows a part does not change its lexemes. -/
theorem Part.settled
    {part : Part}
    (hSpelled : part.Spelled) :
    ∀ form ∈ part.forms, form.Settled := by
  cases part with
  | literal c =>
      have hPlain : c ≠ '\\' := by
        rintro rfl
        exact hSpelled (by decide)
      simp [Part.forms, Lexeme.Form.Settled, hPlain]
  | escaped c => simp [Part.forms, Lexeme.Form.Settled]
  | any | start | finish | closing | bar =>
      simp [Part.forms, Lexeme.Form.Settled]
  | bracket negated entries =>
      intro form hMem
      simp only [Part.forms, List.mem_cons] at hMem
      rcases hMem with rfl | hInside
      · simp [Lexeme.Form.Settled]
      · exact settled_class negated hSpelled.2 (by simp) form
          hInside
  | opening kind =>
      intro form hMem
      rcases List.mem_cons.mp hMem with rfl | hMark
      · simp [Lexeme.Form.Settled]
      · exact kind.settled form hMark
  | repeated rounds greed =>
      intro form hMem
      rcases List.mem_append.mp hMem with hRounds | hGreed
      · exact Rounds.settled hSpelled form hRounds
      · cases greed <;>
          simp_all [greedForms, Lexeme.Form.Settled]

theorem settled_parts
    {parts : List Part}
    (hSpelled : ∀ part ∈ parts, part.Spelled) :
    ∀ form ∈ parts.flatMap Part.forms, form.Settled := by
  intro form hMem
  rcases List.mem_flatMap.mp hMem with ⟨part, hPart, hForm⟩
  exact part.settled (hSpelled part hPart) form hForm

/- The text of parts has the lexemes of the parts. -/
theorem lexemes_parts
    {parts : List Part}
    (hSpelled : ∀ part ∈ parts, part.Spelled) :
    lexemes (parts.flatMap Part.text) =
      lexemesOf 0 (parts.flatMap Part.forms) := by
  have hText :
      parts.flatMap Part.text =
        (parts.flatMap Part.forms).flatMap
          Lexeme.Form.text := by
    rw [List.flatMap_assoc]
    rfl
  rw [hText]
  exact lexemesAt_text 0 (settled_parts hSpelled)

end Regex

end SqlAudit
