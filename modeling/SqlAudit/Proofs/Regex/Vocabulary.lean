import SqlAudit.Proofs.Regex.Wording

/-
  The syllables that motifs are made of.

  A word is a text that stands for itself. Other syllables
  are blanks, visible characters, the characters of a line,
  and those of a class, each once or repeated.

  Key definitions include:
    * `SqlAudit.Regex.Marking`
    * `SqlAudit.Regex.Motif.word`
    * `SqlAudit.Regex.Motif.ofString`
    * `SqlAudit.Regex.Syllable.times`
    * `SqlAudit.Regex.Motif.between`

  Key theorems include:
    * `SqlAudit.Regex.Motif.mem_language_word_iff`
    * `SqlAudit.Regex.Motif.occurs_ofString_iff`
    * `SqlAudit.Regex.Motif.occurs_between_iff`
-/

------------------------------------------------------------
-- Words
------------------------------------------------------------

namespace SqlAudit

namespace Regex

/-
  The characters that get a backslash: the operators at
  least, and only such as then mean themselves.
-/
structure Marking where
  chars : List Char
  operators_subset : ∀ c ∈ operators, c ∈ chars
  meant : chars.all (fun c =>
    standsEscaped c &&
      (Part.escaped c).piece? ==
        some ⟨.solid, .char (.single c)⟩) = true

namespace Marking

theorem escaped_of_mem
    {marking : Marking}
    {c : Char}
    (hMem : c ∈ marking.chars) :
    standsEscaped c = true ∧
      (Part.escaped c).piece? =
        some ⟨.solid, .char (.single c)⟩ := by
  have hMeant := List.all_eq_true.mp marking.meant c hMem
  simpa using hMeant

/- The part that stands for a character itself. -/
def part
    (marking : Marking)
    (c : Char) : Part :=
  if marking.chars.contains c then .escaped c
  else .literal c

theorem spelled_part
    (marking : Marking)
    (c : Char) :
    (marking.part c).Spelled := by
  unfold part
  by_cases hMarked : c ∈ marking.chars
  · rw [if_pos (by simpa using hMarked)]
    exact (escaped_of_mem hMarked).1
  · rw [if_neg (by simpa using hMarked)]
    exact fun hOperator =>
      hMarked (marking.operators_subset c hOperator)

theorem piece_part
    (marking : Marking)
    (c : Char) :
    (marking.part c).piece? =
      some ⟨.solid, .char (.single c)⟩ := by
  unfold part
  by_cases hMarked : c ∈ marking.chars
  · rw [if_pos (by simpa using hMarked)]
    exact (escaped_of_mem hMarked).2
  · rw [if_neg (by simpa using hMarked)]
    rfl

/- Only the operators get a backslash. -/
def least : Marking where
  chars := operators
  operators_subset := fun _ hMem => hMem
  meant := by rfl

end Marking

/- One character that stands for itself. -/
def Syllable.char
    (marking : Marking)
    (c : Char) : Syllable where
  part := marking.part c
  cls := .single c
  rounds := none
  spelled := marking.spelled_part c
  piece := marking.piece_part c
  rounds_spelled := by simp

namespace Motif

/- A text that stands for itself. -/
def word
    (marking : Marking)
    (w : List Char) : Motif :=
  w.map (Syllable.char marking)

/- The same, with no more backslashes than are needed. -/
def ofString (w : String) : Motif :=
  word .least w.toList

theorem mem_language_append_iff
    {first second : Motif}
    {w : List Char} :
    w ∈ language (first ++ second) ↔
      ∃ u ∈ first.language,
        ∃ v ∈ second.language, u ++ v = w := by
  rw [language, List.map_append, List.prod_append]
  exact Language.mem_mul

theorem mem_language_cons_iff
    {s : Syllable}
    {motif : Motif}
    {w : List Char} :
    w ∈ language (s :: motif) ↔
      ∃ u ∈ s.regex.language,
        ∃ v ∈ motif.language, u ++ v = w := by
  rw [language, List.map_cons, List.prod_cons]
  exact Language.mem_mul

theorem mem_language_nil_iff
    {w : List Char} :
    w ∈ language [] ↔ w = [] :=
  Language.mem_one w

/- A word means itself and nothing else. -/
theorem mem_language_word_iff
    {marking : Marking}
    {w v : List Char} :
    v ∈ (word marking w).language ↔ v = w := by
  induction w generalizing v with
  | nil => exact mem_language_nil_iff
  | cons c w ih =>
      have hHead (u : List Char) :
          u ∈ (Syllable.char marking c).regex.language ↔
            u = [c] := by
        change
          (∃ x, (CharClass.single c).has x = true ∧ u = [x]) ↔ _
        simp [CharClass.has, CharClass.single,
          CharClass.ofItem, ClassItem.hasUnder, ClassItem.has]
      change
        v ∈ language
          (Syllable.char marking c :: word marking w) ↔ _
      simp [mem_language_cons_iff, hHead, ih, eq_comm]

theorem mem_language_ofString_iff
    {w : String}
    {v : List Char} :
    v ∈ (ofString w).language ↔ v = w.toList :=
  mem_language_word_iff

theorem occurs_ofString_iff
    {w : String}
    {text : List Char} :
    (ofString w).Occurs text ↔ w.toList <:+: text := by
  simp [Occurs, mem_language_ofString_iff]

/- Where a motif occurs, so does its start. -/
theorem Occurs.of_append
    {first second : Motif}
    {text : List Char}
    (hOccurs : Occurs (first ++ second) text) :
    first.Occurs text := by
  rcases hOccurs with ⟨w, hWord, hInfix⟩
  rcases mem_language_append_iff.mp hWord with
    ⟨u, hFirst, v, _, rfl⟩
  have hStart := List.prefix_append u v
  exact ⟨u, hFirst, hStart.isInfix.trans hInfix⟩

end Motif

end Regex

end SqlAudit

------------------------------------------------------------
-- Classes And Repetitions
------------------------------------------------------------

namespace SqlAudit

namespace Regex

namespace Syllable

/- A blank. -/
def blank : Syllable where
  part := .escaped 's'
  cls := .ofItem .exact (.kind .blank .full)
  rounds := none
  spelled := by rfl
  piece := rfl
  rounds_spelled := by simp

/- A character that is no blank. -/
def visible : Syllable where
  part := .escaped 'S'
  cls := .ofItem .exact (.unlike .blank .full)
  rounds := none
  spelled := by rfl
  piece := rfl
  rounds_spelled := by simp

/- A character that does not end a line. -/
def inLine : Syllable where
  part := .any
  cls := .line
  rounds := none
  spelled := trivial
  piece := rfl
  rounds_spelled := by simp

/- A character of some entry. -/
def oneOf
    (entries : List Entry)
    (hSome : entries ≠ [])
    (hSpelled : ∀ entry ∈ entries, entry.Spelled) :
    Syllable where
  part := .bracket false entries
  cls := ⟨false, entries.map Entry.item, .exact⟩
  rounds := none
  spelled := ⟨hSome, hSpelled⟩
  piece := rfl
  rounds_spelled := by simp

/- A syllable by one of the marks of repetition. -/
def times
    (s : Syllable)
    (rounds : Rounds)
    (hSpelled : rounds.Spelled) : Syllable :=
  { s with
    rounds := some rounds
    rounds_spelled := by
      rintro _ ⟨⟩
      exact hSpelled }

variable (s : Syllable)
variable {w : List Char}

theorem mem_language_once_iff
    (hOnce : s.rounds = none) :
    w ∈ s.regex.language ↔
      ∃ x, s.cls.has x = true ∧ w = [x] := by
  simp only [Syllable.regex, hOnce, Option.elim_none]
  rfl

theorem mem_language_plus_iff :
    w ∈ (s.times .plus trivial).regex.language ↔
      w ≠ [] ∧ ∀ x ∈ w, s.cls.has x = true := by
  change
    w ∈ (Regex.repeated (.char s.cls) 1 none
      .greedy).language ↔ _
  rw [mem_language_repeated_char_iff, ← List.length_pos_iff]
  simp [Nat.lt_iff_add_one_le]

theorem mem_language_star_iff :
    w ∈ (s.times .star trivial).regex.language ↔
      ∀ x ∈ w, s.cls.has x = true := by
  change
    w ∈ (Regex.repeated (.char s.cls) 0 none
      .greedy).language ↔ _
  rw [mem_language_repeated_char_iff]
  simp

theorem mem_language_option_iff :
    w ∈ (s.times .option trivial).regex.language ↔
      w = [] ∨ ∃ x, s.cls.has x = true ∧ w = [x] := by
  change
    w ∈ (Regex.repeated (.char s.cls) 0 (some 1)
      .greedy).language ↔ _
  rw [mem_language_repeated_char_iff]
  match w with
  | [] => simp
  | [x] => simp
  | x :: y :: w => simp

theorem has_blank (x : Char) :
    blank.cls.has x = Text.isBlank x := by
  simp [blank, CharClass.has, CharClass.ofItem,
    ClassItem.hasUnder, ClassItem.has, CharKind.has]

theorem has_visible (x : Char) :
    visible.cls.has x = !Text.isBlank x := by
  simp [visible, CharClass.has, CharClass.ofItem,
    ClassItem.hasUnder, ClassItem.has, CharKind.has]

theorem has_oneOf
    {entries : List Entry}
    {items : List ClassItem}
    (hSome : entries ≠ [])
    (hSpelled : ∀ entry ∈ entries, entry.Spelled)
    (hItems : entries.map Entry.item = items)
    (x : Char) :
    (oneOf entries hSome hSpelled).cls.has x =
      items.any fun item => item.has x := by
  simp [oneOf, CharClass.has, ClassItem.hasUnder, hItems]

theorem has_inLine (x : Char) :
    inLine.cls.has x = (x != '\n') := by
  simp [inLine, CharClass.has, CharClass.line,
    ClassItem.hasUnder, ClassItem.has, bne]

end Syllable

end Regex

end SqlAudit

------------------------------------------------------------
-- Between Words
------------------------------------------------------------

namespace SqlAudit

/- One blank or more. -/
def Text.IsGap (gap : List Char) : Prop :=
  gap ≠ [] ∧ ∀ c ∈ gap, isBlank c = true

namespace Regex

namespace Motif

/- One blank or more. -/
def gap : Motif :=
  [Syllable.blank.times .plus trivial]

/- A motif with a word on each side. -/
def between
    (first : String)
    (middle : Motif)
    (last : String) : Motif :=
  ofString first ++ middle ++ ofString last

theorem mem_language_singleton_iff
    {s : Syllable}
    {w : List Char} :
    w ∈ language [s] ↔ w ∈ s.regex.language := by
  simp [mem_language_cons_iff, mem_language_nil_iff]

theorem mem_language_gap_iff
    {w : List Char} :
    w ∈ gap.language ↔ Text.IsGap w := by
  simp only [gap, mem_language_singleton_iff,
    Syllable.mem_language_plus_iff, Syllable.has_blank]
  rfl

theorem occurs_between_iff
    {first last : String}
    {middle : Motif}
    {text : List Char} :
    (between first middle last).Occurs text ↔
      ∃ w ∈ middle.language,
        first.toList ++ w ++ last.toList <:+: text := by
  simp [between, Occurs, mem_language_append_iff,
    mem_language_ofString_iff]

end Motif

end Regex

end SqlAudit
