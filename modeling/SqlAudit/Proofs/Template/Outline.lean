import SqlAudit.Proofs.Regex.Acceptance
import SqlAudit.Rule.Basic

/-
  Templates in which the table stands for itself.

  An outline is a sequence of parts of a pattern and of fields
  for the table. In its template, the table is never inside a
  class, between braces or behind a backslash. Such a template
  can be filled in for every table, and whether the result is
  a pattern does not depend on the table.

  Key definitions include:
    * `SqlAudit.Template.Slot`
    * `SqlAudit.Template.Outline`
    * `SqlAudit.Template.Outline.text`
    * `SqlAudit.Template.Outline.parts`

  Key theorems include:
    * `SqlAudit.Template.Outline.fill_text`
    * `SqlAudit.Template.Outline.completes_parts`
    * `SqlAudit.Template.Outline.exists_tablePattern`
-/

------------------------------------------------------------
-- Outlines
------------------------------------------------------------

namespace SqlAudit

namespace Template

/- A field for the table, or a part of the pattern. -/
inductive Slot where
| table
| part (p : Regex.Part)
  deriving Repr, DecidableEq

/- A text as a template holds it: each brace twice. -/
def doubled (s : List Char) : List Char :=
  s.flatMap fun c =>
    if c == '\x7b' || c == '\x7d' then [c, c] else [c]

/- The part that stands for a character itself. -/
def charPart (c : Char) : Regex.Part :=
  if Regex.specialChars.contains c then .escaped c
  else .literal c

namespace Slot

/- The text of a slot in the template. -/
def text : Slot → List Char
| .table => placeholder
| .part p => doubled p.text

/- The text of a slot in the pattern, given the table. -/
def filled
    (table : List Char) : Slot → List Char
| .table => table
| .part p => p.text

/- The parts that a slot comes to, given the table. -/
def parts
    (table : List Char) : Slot → List Regex.Part
| .table => table.map charPart
| .part p => [p]

/- The part of a slot stands for what its name says. -/
def Spelled : Slot → Prop
| .table => True
| .part p => p.Spelled

instance (slot : Slot) : Decidable slot.Spelled :=
  match slot with
  | .table => inferInstanceAs (Decidable True)
  | .part p => inferInstanceAs (Decidable p.Spelled)

/- Two slots that are not read as one. -/
def Joins : Slot → Slot → Prop
| .part p, .part q => p.Joins q
| _, _ => True

instance (slot next : Slot) : Decidable (slot.Joins next) :=
  match slot, next with
  | .part p, .part q => inferInstanceAs (Decidable (p.Joins q))
  | .part _, .table => inferInstanceAs (Decidable True)
  | .table, _ => inferInstanceAs (Decidable True)

end Slot

/- Slots, each of which stands for what its name says. -/
structure Outline where
  slots : List Slot
  spelled : ∀ slot ∈ slots, slot.Spelled
  joined : slots.IsChain Slot.Joins

namespace Outline

/- The template. -/
def text (outline : Outline) : List Char :=
  outline.slots.flatMap Slot.text

/- The parts of the pattern about a table. -/
def parts
    (outline : Outline)
    (table : List Char) : List Regex.Part :=
  outline.slots.flatMap (Slot.parts table)

end Outline

end Template

end SqlAudit

------------------------------------------------------------
-- Filling In An Outline
------------------------------------------------------------

namespace SqlAudit

namespace Template

/- Nothing after a colon lays nothing out. -/
theorem layout_parse_nil :
    Layout.parse [] = .ok ⟨' ', .left, none, none⟩ := by
  rfl

/-
  Filling in a rest of a template gives a text, with as much
  fuel as the rest is long or more.
-/
def Fills (table rest result : List Char) : Prop :=
  ∀ fuel, rest.length ≤ fuel →
    fillFrom table 2 fuel rest = .ok result

namespace Fills

variable {table rest result : List Char}

theorem nil : Fills table [] [] := by
  intro fuel _
  cases fuel <;> rfl

/- A character that is no brace is kept. -/
theorem char
    (hRest : Fills table rest result)
    {c : Char}
    (hOpen : c ≠ '\x7b')
    (hClose : c ≠ '\x7d') :
    Fills table (c :: rest) (c :: result) := by
  intro fuel hFuel
  cases fuel with
  | zero => simp at hFuel
  | succ fuel =>
      have hThen := hRest fuel (by simpa using hFuel)
      change
        (if (c == '\x7d') = true then _
          else if (c == '\x7b') = true then _
          else (fillFrom table 2 fuel rest).map (c :: ·)) = _
      rw [if_neg (by simpa using hClose),
        if_neg (by simpa using hOpen), hThen]
      rfl

/- Of a brace that stands twice, one is kept. -/
theorem brace
    (hRest : Fills table rest result)
    {c : Char}
    (hBrace : c = '\x7b' ∨ c = '\x7d') :
    Fills table (c :: c :: rest) (c :: result) := by
  intro fuel hFuel
  cases fuel with
  | zero => simp at hFuel
  | succ fuel =>
      have hLess : rest.length ≤ fuel := by
        simp only [List.length_cons] at hFuel
        omega
      have hThen := hRest fuel hLess
      have hStep :
          fillFrom table 2 (fuel + 1) (c :: c :: rest) =
            (fillFrom table 2 fuel rest).map (c :: ·) := by
        rcases hBrace with rfl | rfl
        · rfl
        · rfl
      rw [hStep, hThen]
      rfl

theorem doubled
    (hRest : Fills table rest result)
    (s : List Char) :
    Fills table (Template.doubled s ++ rest)
      (s ++ result) := by
  induction s with
  | nil => exact hRest
  | cons c s ih =>
      by_cases hBrace : c = '\x7b' ∨ c = '\x7d'
      · simpa [Template.doubled, hBrace] using ih.brace hBrace
      · rcases not_or.mp hBrace with ⟨hOpen, hClose⟩
        simpa [Template.doubled, hOpen, hClose] using
          ih.char hOpen hClose

/- A field for the table holds the table. -/
theorem field
    (hRest : Fills table rest result) :
    Fills table (placeholder ++ rest) (table ++ result) := by
  intro fuel hFuel
  have hLength : placeholder.length = 7 := by decide
  rw [List.length_append, hLength] at hFuel
  cases fuel with
  | zero => omega
  | succ fuel =>
      have hLess : rest.length ≤ fuel := by omega
      have hThen := hRest fuel hLess
      have hField :
          Template.field ('t' :: 'a' :: 'b' :: 'l' :: 'e' ::
              '\x7d' :: rest) =
            .ok (⟨tableField, none, []⟩, rest) := by
        rfl
      have hLayOut : layOut [] (.text table) = .ok table := by
        change (Layout.parse []).map (·.apply table) = _
        rw [layout_parse_nil]
        simp [Except.map, Layout.apply]
      -- The name of the field ends at its brace, and what it
      -- stands for has neither conversion nor layout.
      have hStep :
          fillFrom table 2 (fuel + 1) (placeholder ++ rest) =
            layOut [] (.text table) >>= fun value =>
              fillFrom table 2 fuel rest >>= fun tail =>
                .ok (value ++ tail) := by
        change
          (Template.field
            ('t' :: 'a' :: 'b' :: 'l' :: 'e' :: '\x7d' ::
              rest) >>= _) = _
        rw [hField]
        rfl
      rw [hStep, hLayOut, hThen]
      rfl

end Fills

namespace Outline

/- An outline can be filled in for every table. -/
theorem fill_text
    (outline : Outline)
    (table : List Char) :
    fill outline.text table =
      .ok (outline.slots.flatMap (Slot.filled table)) := by
  have hFills (slots : List Slot) :
      Fills table (slots.flatMap Slot.text)
        (slots.flatMap (Slot.filled table)) := by
    induction slots with
    | nil => exact .nil
    | cons slot slots ih =>
        cases slot with
        | table => exact ih.field
        | part p => exact ih.doubled p.text
  exact hFills outline.slots _ (Nat.le_refl _)

end Outline

end Template

end SqlAudit

------------------------------------------------------------
-- The Parts Of A Table
------------------------------------------------------------

namespace SqlAudit

namespace Template

theorem operators_subset_specialChars :
    ∀ c ∈ Regex.operators, c ∈ Regex.specialChars := by
  have hAll :
      Regex.operators.all Regex.specialChars.contains =
        true := by
    decide
  intro c hMem
  exact List.contains_iff_mem.mp
    (List.all_eq_true.mp hAll c hMem)

theorem standsEscaped_specialChars :
    ∀ c ∈ Regex.specialChars,
      Regex.standsEscaped c = true := by
  have hAll :
      Regex.specialChars.all Regex.standsEscaped = true := by
    decide
  exact List.all_eq_true.mp hAll

theorem kind_specialChars :
    ∀ c ∈ Regex.specialChars,
      (Regex.Part.escaped c).piece?.map Regex.Piece.kind =
        some .solid := by
  have hAll :
      Regex.specialChars.all (fun c =>
        (Regex.Part.escaped c).piece?.map
          Regex.Piece.kind == some .solid) = true := by
    decide
  intro c hMem
  exact eq_of_beq (List.all_eq_true.mp hAll c hMem)

theorem charPart_spelled
    (c : Char) :
    (charPart c).Spelled := by
  unfold charPart
  by_cases hSpecial : c ∈ Regex.specialChars
  · rw [if_pos (by simpa using hSpecial)]
    exact standsEscaped_specialChars c hSpecial
  · rw [if_neg (by simpa using hSpecial)]
    intro hOperator
    exact hSpecial (operators_subset_specialChars c hOperator)

/- A character on its own is a piece that can be repeated. -/
theorem next?_charPart
    (s : Regex.Stand)
    (c : Char) :
    s.next? (charPart c) = some ⟨s.depth, some .solid⟩ := by
  unfold charPart
  by_cases hSpecial : c ∈ Regex.specialChars
  · rw [if_pos (by simpa using hSpecial)]
    simp only [Regex.Stand.next?,
      kind_specialChars c hSpecial]
  · rw [if_neg (by simpa using hSpecial)]
    rfl

/- A character on its own takes no mark from others. -/
theorem charPart_joins
    (c : Char)
    (next : Regex.Part) :
    (charPart c).Joins next := by
  intro hAwaits
  unfold charPart at hAwaits
  split at hAwaits
  · cases hAwaits
  · cases hAwaits

theorem joins_charPart
    (part : Regex.Part)
    (c : Char) :
    part.Joins (charPart c) := by
  intro _
  unfold charPart
  split
  · rfl
  · rfl

theorem text_charPart
    (c : Char) :
    (charPart c).text = Regex.escape [c] := by
  unfold charPart
  by_cases hSpecial : c ∈ Regex.specialChars
  · simp [hSpecial, Regex.Part.text, Regex.Part.forms,
      Regex.Lexeme.Form.text, Regex.escape]
  · simp [hSpecial, Regex.Part.text, Regex.Part.forms,
      Regex.Lexeme.Form.text, Regex.escape]

/- The escaped text of a table is that of its parts. -/
theorem flatMap_text_charPart
    (table : List Char) :
    (table.map charPart).flatMap Regex.Part.text =
      Regex.escape table := by
  induction table with
  | nil => rfl
  | cons c table ih =>
      have hHead := text_charPart c
      simp only [Regex.escape, List.flatMap_cons,
        List.flatMap_nil, List.append_nil] at hHead ih
      simp only [List.map_cons, List.flatMap_cons, ih, hHead,
        Regex.escape]

/- After a table, the last piece can be repeated. -/
theorem completes_table
    {table : List Char}
    (hTable : table ≠ [])
    (s : Regex.Stand)
    (parts : List Regex.Part) :
    s.completes (table.map charPart ++ parts) =
      Regex.Stand.completes ⟨s.depth, some .solid⟩ parts := by
  induction table generalizing s with
  | nil => exact absurd rfl hTable
  | cons c table ih =>
      simp only [List.map_cons, List.cons_append,
        Regex.Stand.completes, next?_charPart]
      by_cases hRest : table = []
      · rw [hRest]
        rfl
      · exact ih hRest ⟨s.depth, some .solid⟩

namespace Outline

variable (outline : Outline)

/- The filled-in outline is the text of its parts. -/
theorem flatMap_text_parts
    (table : List Char) :
    (outline.parts table).flatMap Regex.Part.text =
      outline.slots.flatMap
        (Slot.filled (Regex.escape table)) := by
  rw [parts, List.flatMap_assoc]
  congr 1
  funext slot
  cases slot with
  | table => exact flatMap_text_charPart table
  | part p => simp [Slot.parts, Slot.filled]

theorem parts_spelled
    (table : List Char) :
    ∀ part ∈ outline.parts table, part.Spelled := by
  intro part hMem
  rcases List.mem_flatMap.mp hMem with ⟨slot, hSlot, hPart⟩
  cases slot with
  | table =>
      rcases List.mem_map.mp hPart with ⟨c, _, rfl⟩
      exact charPart_spelled c
  | part p =>
      rcases List.mem_singleton.mp hPart with rfl
      exact outline.spelled _ hSlot

/- The parts of a slot are not read as one. -/
theorem slot_parts_joined
    (table : List Char)
    (slot : Slot) :
    (slot.parts table).IsChain Regex.Part.Joins := by
  cases slot with
  | table =>
      apply List.Pairwise.isChain
      apply List.pairwise_map.mpr
      exact List.pairwise_of_forall fun c d =>
        charPart_joins c (charPart d)
  | part p => exact .singleton p

theorem joins_of_slots
    {table : List Char}
    {slot next : Slot}
    (hJoins : slot.Joins next)
    {part other : Regex.Part}
    (hPart : part ∈ slot.parts table)
    (hOther : other ∈ next.parts table) :
    part.Joins other := by
  cases slot with
  | table =>
      rcases List.mem_map.mp hPart with ⟨c, _, rfl⟩
      exact charPart_joins c other
  | part p =>
      rcases List.mem_singleton.mp hPart with rfl
      cases next with
      | table =>
          rcases List.mem_map.mp hOther with ⟨c, _, rfl⟩
          exact joins_charPart part c
      | part q =>
          rcases List.mem_singleton.mp hOther with rfl
          exact hJoins

theorem parts_joined
    {table : List Char}
    (hTable : table ≠ []) :
    (outline.parts table).IsChain Regex.Part.Joins := by
  have hSome : [] ∉ outline.slots.map (Slot.parts table) := by
    intro hMem
    rcases List.mem_map.mp hMem with ⟨slot, _, hNone⟩
    cases slot with
    | table => exact hTable (List.map_eq_nil_iff.mp hNone)
    | part p => cases hNone
  rw [parts, List.flatMap_def, List.isChain_flatten hSome]
  constructor
  · intro parts hMem
    rcases List.mem_map.mp hMem with ⟨slot, _, rfl⟩
    exact slot_parts_joined table slot
  · rw [List.isChain_map]
    apply outline.joined.imp
    intro slot next hJoins part hPart other hOther
    exact joins_of_slots hJoins (List.mem_of_getLast? hPart)
      (List.mem_of_head? hOther)

/-
  Whether the parts about a table make a pattern is the same
  for every table.
-/
theorem completes_parts
    {table other : List Char}
    (hTable : table ≠ [])
    (hOther : other ≠ []) :
    Regex.Stand.completes {} (outline.parts table) =
      Regex.Stand.completes {} (outline.parts other) := by
  have hSlots (slots : List Slot) (s : Regex.Stand) :
      s.completes (slots.flatMap (Slot.parts table)) =
        s.completes (slots.flatMap (Slot.parts other)) := by
    induction slots generalizing s with
    | nil => rfl
    | cons slot slots ih =>
        cases slot with
        | table =>
            simp only [List.flatMap_cons, Slot.parts,
              completes_table hTable, completes_table hOther,
              ih]
        | part p =>
            simp only [List.flatMap_cons, Slot.parts,
              List.singleton_append, Regex.Stand.completes]
            cases s.next? p with
            | none => rfl
            | some t => exact ih t
  exact hSlots outline.slots {}

/- A template that works for one table works for each. -/
theorem exists_tablePattern_iff
    {table : List Char}
    (hTable : table ≠ []) :
    (∃ r, tablePattern outline.text table = .ok r) ↔
      Regex.Stand.completes {} (outline.parts table) =
        true := by
  rw [← Regex.exists_parse_parts_iff
    (outline.parts_spelled table)
    (outline.parts_joined hTable),
    outline.flatMap_text_parts]
  unfold tablePattern
  rw [outline.fill_text]
  cases hParse : Regex.parse
      (outline.slots.flatMap
        (Slot.filled (Regex.escape table))) with
  | error e => simp [hParse]
  | ok r => simp [hParse]

end Outline

end Template

end SqlAudit
