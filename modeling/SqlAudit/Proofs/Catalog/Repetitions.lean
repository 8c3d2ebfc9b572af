import SqlAudit.Proofs.Catalog.FixedTexts

/-
  The built-in rules whose patterns hold a repetition or a
  class of characters.

  Most of them look for two words with something between. A
  repetition at the end of a pattern asks for no more than
  its least number of characters, and so does one at the
  start, since any part of the text may come before a match.

  Key definitions include:
    * `SqlAudit.Catalog.HoldsBetween`

  Key theorems include:
    * `SqlAudit.Catalog.recognises_between`
    * `SqlAudit.Catalog.recognises_id_column`
    * `SqlAudit.Catalog.recognises_numbered_name`
    * `SqlAudit.Catalog.repetitions_recognised`
-/

------------------------------------------------------------
-- Something Between Two Words
------------------------------------------------------------

namespace SqlAudit

/- One blank. -/
def Text.IsOneBlank (w : List Char) : Prop :=
  ∃ c, isBlank c = true ∧ w = [c]

namespace Catalog

open Regex

/-
  The text holds both words of some pair, and between them
  something with a property.
-/
def HoldsBetween
    (pairs : List (String × String))
    (Middle : List Char → Prop)
    (text : List Char) : Prop :=
  ∃ pair ∈ pairs, ∃ w,
    Middle w ∧
      pair.1.toList ++ w ++ pair.2.toList <:+: text

/- The choice between pairs of words with a motif between. -/
def choiceBetween
    (middle : Motif)
    (first : String × String)
    (others : List (String × String)) : Wording :=
  .choice (.between first.1 middle first.2)
    (others.map fun pair => .between pair.1 middle pair.2)

theorem recognises_between
    (d : Draft)
    {id : String}
    {middle : Motif}
    {first : String × String}
    {others : List (String × String)}
    (hWorded :
      Worded d .text id (choiceBetween middle first others))
    (hGuard : d.guardOrDefault = .always)
    {Middle : List Char → Prop}
    (hMiddle : ∀ w, w ∈ middle.language ↔ Middle w) :
    Recognises id (HoldsBetween (first :: others) Middle) := by
  apply (hWorded.recognises_of_always hGuard).congr
  intro t
  have hMotifs :
      (choiceBetween middle first others).motifs =
        (first :: others).map fun pair =>
          .between pair.1 middle pair.2 := rfl
  rw [hMotifs]
  simp only [List.mem_map, exists_exists_and_eq_and,
    Motif.occurs_between_iff, hMiddle]
  rfl

theorem mem_language_blank_iff
    {w : List Char} :
    w ∈ Motif.language [Syllable.blank] ↔
      Text.IsOneBlank w := by
  rw [Motif.mem_language_singleton_iff,
    Syllable.mem_language_once_iff _ rfl]
  simp only [Syllable.has_blank]
  rfl

theorem mem_language_visibles_iff
    {w : List Char} :
    w ∈ Motif.language [Syllable.visible.times .plus trivial] ↔
      w ≠ [] ∧ ∀ c ∈ w, Text.isBlank c = false := by
  rw [Motif.mem_language_singleton_iff,
    Syllable.mem_language_plus_iff]
  simp [Syllable.has_visible]

theorem mem_language_line_iff
    {w : List Char} :
    w ∈ Motif.language [Syllable.inLine.times .star trivial] ↔
      '\n' ∉ w := by
  rw [Motif.mem_language_singleton_iff,
    Syllable.mem_language_star_iff]
  simp [Syllable.has_inLine, List.forall_mem_ne']

end Catalog

end SqlAudit

------------------------------------------------------------
-- Repetitions At The Ends
------------------------------------------------------------

namespace SqlAudit

namespace Text

section

variable {P : Char → Prop}
variable {w : List Char}
variable (hSome : w ≠ [])
variable (hAll : ∀ c ∈ w, P c)

include hSome hAll

theorem exists_isPrefix_of_forall :
    ∃ c, P c ∧ [c] <+: w := by
  rcases List.exists_cons_of_ne_nil hSome with ⟨c, rest, rfl⟩
  exact ⟨c, hAll c (by simp), rest, rfl⟩

theorem exists_isSuffix_of_forall :
    ∃ c, P c ∧ [c] <:+ w := by
  refine ⟨w.getLast hSome, hAll _ (List.getLast_mem hSome),
    w.dropLast, ?_⟩
  exact List.dropLast_append_getLast hSome

end

theorem IsGap.of_isBlank
    {c : Char}
    (hBlank : isBlank c = true) :
    IsGap [c] := by
  simp [IsGap, hBlank]

/- What stands at the ends of a piece can be cut short. -/
theorem isInfix_of_ends
    {start w finish first last text : List Char}
    (hInfix : start ++ w ++ finish <:+: text)
    (hFirst : first <:+ start)
    (hLast : last <+: finish) :
    first ++ w ++ last <:+: text := by
  rcases hFirst with ⟨before, rfl⟩
  rcases hLast with ⟨after, rfl⟩
  refine List.IsInfix.trans ?_ hInfix
  exact ⟨before, after, by simp⟩

end Text

namespace Catalog

open Regex

/- Gaps on both sides ask for no more than blanks. -/
theorem occurs_spaced_iff
    {middle : Motif}
    {text : List Char} :
    Motif.Occurs (.gap ++ middle ++ .gap) text ↔
      ∃ w ∈ middle.language, ∃ a b,
        Text.isBlank a = true ∧ Text.isBlank b = true ∧
          [a] ++ w ++ [b] <:+: text := by
  simp only [Motif.Occurs, Motif.mem_language_append_iff,
    Motif.mem_language_gap_iff]
  constructor
  · rintro ⟨_, ⟨_, ⟨g, hGap, w, hMiddle, rfl⟩, h, hNext, rfl⟩,
      hInfix⟩
    rcases Text.exists_isSuffix_of_forall hGap.1 hGap.2 with
      ⟨a, hFirst, hSuffix⟩
    rcases Text.exists_isPrefix_of_forall hNext.1 hNext.2 with
      ⟨b, hLast, hPrefix⟩
    exact ⟨w, hMiddle, a, b, hFirst, hLast,
      Text.isInfix_of_ends hInfix hSuffix hPrefix⟩
  · rintro ⟨w, hMiddle, a, b, hFirst, hLast, hInfix⟩
    exact ⟨_, ⟨_, ⟨[a], .of_isBlank hFirst, w, hMiddle, rfl⟩,
      [b], .of_isBlank hLast, rfl⟩, hInfix⟩

/- A gap at the end asks for no more than a blank. -/
theorem occurs_before_gap_iff
    {first : String}
    {text : List Char} :
    (Motif.between first .gap "").Occurs text ↔
      ∃ b, Text.isBlank b = true ∧
        first.toList ++ [b] <:+: text := by
  simp only [Motif.occurs_between_iff,
    Motif.mem_language_gap_iff]
  constructor
  · rintro ⟨g, hGap, hInfix⟩
    rcases Text.exists_isPrefix_of_forall hGap.1 hGap.2 with
      ⟨b, hBlank, hPrefix⟩
    have hShort : first.toList ++ [b] <+: first.toList ++ g :=
      (List.prefix_append_right_inj _).mpr hPrefix
    refine ⟨b, hBlank, hShort.isInfix.trans ?_⟩
    simpa using hInfix
  · rintro ⟨b, hBlank, hInfix⟩
    exact ⟨[b], .of_isBlank hBlank, by simpa using hInfix⟩

/- A repetition at the end asks for nothing if none will do. -/
theorem occurs_before_star_iff
    {first : String}
    {s : Syllable}
    {text : List Char} :
    (Motif.between first [s.times .star trivial]
        "").Occurs text ↔
      first.toList <:+: text := by
  constructor
  · intro hOccurs
    rw [Motif.between, List.append_assoc] at hOccurs
    exact Motif.occurs_ofString_iff.mp hOccurs.of_append
  · intro hInfix
    apply Motif.occurs_between_iff.mpr
    refine ⟨[], ?_, by simpa using hInfix⟩
    rw [Motif.mem_language_singleton_iff,
      Syllable.mem_language_star_iff]
    simp

end Catalog

end SqlAudit

------------------------------------------------------------
-- Columns Called `id`
------------------------------------------------------------

namespace SqlAudit

namespace Catalog

open Regex

/-
  The text holds `id` or `(id` between two blanks, or `,id`
  before one.
-/
def HoldsIdColumn (text : List Char) : Prop :=
  (∃ name ∈ ["id", "(id"], ∃ a b,
    Text.isBlank a = true ∧ Text.isBlank b = true ∧
      [a] ++ name.toList ++ [b] <:+: text) ∨
  ∃ b, Text.isBlank b = true ∧
    ",id".toList ++ [b] <:+: text

/- An opening parenthesis. -/
def opening : Syllable :=
  .oneOf [.escaped '('] (by simp) (by decide)

theorem has_opening (x : Char) :
    opening.cls.has x = (x == '(') := by
  have hItems :
      [Entry.escaped '('].map Entry.item = [.single '('] := by
    rfl
  rw [opening, Syllable.has_oneOf _ _ hItems]
  simp [ClassItem.has]

/- The name `id`, perhaps after an opening parenthesis. -/
def idName : Motif :=
  [opening.times .option trivial] ++ .ofString "id"

theorem mem_language_idName_iff
    {w : List Char} :
    w ∈ idName.language ↔
      ∃ name ∈ ["id", "(id"], name.toList = w := by
  simp only [idName, Motif.mem_language_append_iff,
    Motif.mem_language_singleton_iff,
    Syllable.mem_language_option_iff, has_opening,
    Motif.mem_language_ofString_iff, beq_iff_eq,
    exists_eq_left]
  simp [or_and_right, exists_or]

/-
  A choice between a column called `id`, in two wordings,
  and some other motifs.
-/
def idWording (others : List Motif) : Wording :=
  .choice (.gap ++ idName ++ .gap)
    (.between ",id" .gap "" :: others)

theorem exists_occurs_idWording_iff
    {others : List Motif}
    {text : List Char} :
    (∃ motif ∈ (idWording others).motifs,
        motif.Occurs text) ↔
      HoldsIdColumn text ∨
        ∃ motif ∈ others, motif.Occurs text := by
  have hNamed :
      Motif.Occurs (.gap ++ idName ++ .gap) text ↔
        ∃ name ∈ ["id", "(id"], ∃ a b,
          Text.isBlank a = true ∧ Text.isBlank b = true ∧
            [a] ++ name.toList ++ [b] <:+: text := by
    rw [occurs_spaced_iff]
    simp only [mem_language_idName_iff]
    constructor
    · rintro ⟨_, ⟨name, hMem, rfl⟩, hBetween⟩
      exact ⟨name, hMem, hBetween⟩
    · rintro ⟨name, hMem, hBetween⟩
      exact ⟨_, ⟨name, hMem, rfl⟩, hBetween⟩
  have hMotifs :
      (idWording others).motifs =
        (.gap ++ idName ++ .gap) ::
          .between ",id" .gap "" :: others := rfl
  rw [hMotifs, List.exists_mem_cons_iff,
    List.exists_mem_cons_iff, hNamed, occurs_before_gap_iff,
    ← or_assoc]
  rfl

/- The same column with a type behind it. -/
def serialColumn : Motif :=
  .gap ++ .ofString "id" ++ .gap ++ .ofString "serial"

theorem holdsIdColumn_of_serialColumn
    {text : List Char}
    (hOccurs : serialColumn.Occurs text) :
    HoldsIdColumn text := by
  have hSpaced :
      Motif.Occurs (.gap ++ .ofString "id" ++ .gap) text :=
    hOccurs.of_append
  rcases occurs_spaced_iff.mp hSpaced with
    ⟨_, hName, a, b, hFirst, hLast, hInfix⟩
  rw [Motif.mem_language_ofString_iff] at hName
  subst hName
  exact .inl ⟨"id", by simp, a, b, hFirst, hLast, hInfix⟩

theorem recognises_id_column :
    Recognises "logical_design.generic_primary_key" fun t =>
      isDdl t = true ∧ HoldsIdColumn t := by
  have hWorded :
      Worded LogicalDesign.genericPrimaryKey .text
        "logical_design.generic_primary_key"
        (idWording [serialColumn]) := {}
  apply hWorded.recognises.congr
  intro t
  simp only [exists_occurs_idWording_iff, List.mem_singleton,
    exists_eq_left,
    or_iff_left_of_imp holdsIdColumn_of_serialColumn]
  rfl

/- The third motif of the pattern is not needed. -/
theorem recognises_id_column_by_two :
    ∃ shorter,
      Regex.parse "(\\s+[\\(]?id\\s+)|(,id\\s+)".toList =
        .ok shorter ∧
      Recognises "logical_design.generic_primary_key" fun t =>
        isDdl t = true ∧ shorter.occursIn t = true := by
  have hText :
      "(\\s+[\\(]?id\\s+)|(,id\\s+)".toList =
        (idWording []).text := by rfl
  refine ⟨(idWording []).regex, ?_, ?_⟩
  · rw [hText]
    exact (idWording []).parse_text
  · apply recognises_id_column.congr
    intro t
    simp only [Wording.occursIn_iff,
      exists_occurs_idWording_iff, List.not_mem_nil,
      false_and, exists_false, or_false]

end Catalog

end SqlAudit

------------------------------------------------------------
-- Names With A Number
------------------------------------------------------------

namespace SqlAudit

namespace Catalog

open Regex

/- A digit. -/
def digit : Syllable :=
  .oneOf [.range '0' '9'] (by simp) (by decide)

/-
  A character of a name. The first of the ranges goes from
  the large letters to the small ones, and covers all that
  lies between.
-/
def nameChar : Syllable :=
  .oneOf [.range 'A' 'z', .range 'a' 'z', .escaped '-',
    .single '_', .single '@'] (by simp) (by decide)

theorem has_digit_iff
    {x : Char} :
    digit.cls.has x = true ↔ x.isDigit = true := by
  have hItems :
      [Entry.range '0' '9'].map Entry.item =
        [.range '0' '9'] := by
    rfl
  rw [digit, Syllable.has_oneOf _ _ hItems]
  simp only [List.any_cons, List.any_nil, Bool.or_false,
    ClassItem.has, Char.isDigit, Bool.and_eq_true,
    decide_eq_true_eq]
  rfl

theorem has_nameChar_iff
    {x : Char} :
    nameChar.cls.has x = true ↔
      x = '-' ∨ x = '@' ∨
        'A'.toNat ≤ x.toNat ∧ x.toNat ≤ 'z'.toNat := by
  have hItems :
      [Entry.range 'A' 'z', .range 'a' 'z', .escaped '-',
        .single '_', .single '@'].map Entry.item =
        [.range 'A' 'z', .range 'a' 'z', .single '-',
          .single '_', .single '@'] := by
    rfl
  rw [nameChar, Syllable.has_oneOf _ _ hItems]
  simp only [List.any_cons, List.any_nil, ClassItem.has,
    Bool.or_eq_true, Bool.and_eq_true, decide_eq_true_eq,
    beq_iff_eq, Bool.or_false]
  constructor
  · rintro (hWide | hSmall | rfl | rfl | rfl)
    · exact .inr (.inr hWide)
    · have hFrom : 'A'.toNat ≤ 'a'.toNat := by decide
      exact .inr (.inr ⟨hFrom.trans hSmall.1, hSmall.2⟩)
    · exact .inl rfl
    · exact .inr (.inr ⟨by decide, by decide⟩)
    · exact .inr (.inl rfl)
  · rintro (rfl | rfl | hWide)
    · exact .inr (.inr (.inl rfl))
    · exact .inr (.inr (.inr (.inr rfl)))
    · exact .inl hWide

/-
  A character of a name, digits and a space. The pattern has
  as many characters of the name as there are, but one will
  do.
-/
theorem recognises_numbered_name :
    Recognises "logical_design.metadata_tribbles" fun t =>
      isDdl t = true ∧
        ∃ c digits,
          (c = '-' ∨ c = '@' ∨
            'A'.toNat ≤ c.toNat ∧ c.toNat ≤ 'z'.toNat) ∧
          digits ≠ [] ∧ (∀ x ∈ digits, x.isDigit = true) ∧
            [c] ++ digits ++ [' '] <:+: t := by
  have hWorded :
      Worded LogicalDesign.metadataTribbles .text
        "logical_design.metadata_tribbles"
        (.motif ([nameChar.times .plus trivial] ++
          [digit.times .plus trivial] ++ .ofString " ")) := {}
  apply hWorded.recognises.congr
  intro t
  apply and_congr_right'
  simp only [Wording.motifs, List.mem_singleton,
    exists_eq_left, Motif.Occurs,
    Motif.mem_language_append_iff,
    Motif.mem_language_singleton_iff,
    Motif.mem_language_ofString_iff,
    Syllable.mem_language_plus_iff, has_digit_iff,
    has_nameChar_iff]
  constructor
  · rintro ⟨_, ⟨_, ⟨name, hName, digits, hDigits, rfl⟩, rfl⟩,
      hInfix⟩
    rcases Text.exists_isSuffix_of_forall hName.1 hName.2 with
      ⟨c, hChar, hSuffix⟩
    exact ⟨c, digits, hChar, hDigits.1, hDigits.2,
      Text.isInfix_of_ends hInfix hSuffix List.prefix_rfl⟩
  · rintro ⟨c, digits, hChar, hSome, hAll, hInfix⟩
    have hName : ∀ x ∈ [c], x = '-' ∨ x = '@' ∨
        'A'.toNat ≤ x.toNat ∧ x.toNat ≤ 'z'.toNat := by
      simpa using hChar
    exact ⟨_, ⟨_, ⟨[c], ⟨by simp, hName⟩, digits,
      ⟨hSome, hAll⟩, rfl⟩, rfl⟩, hInfix⟩

end Catalog

end SqlAudit

------------------------------------------------------------
-- Rules With Repetitions
------------------------------------------------------------

namespace SqlAudit

namespace Catalog

open Regex

/- A repetition of digits at the end asks for none. -/
theorem recognises_imprecision :
    Recognises "physical_design.imprecise_data_type"
      (HoldsAny ["float", "real", "double precision",
        "0.000"]) := by
  have hWorded :
      Worded PhysicalDesign.impreciseDataType .text
        "physical_design.imprecise_data_type"
        (.choice (.ofString "float") [.ofString "real",
          .ofString "double precision",
          .between "0.000" [digit.times .star trivial] ""]) :=
    {}
  apply (hWorded.recognises_of_always rfl).congr
  intro t
  simp only [Wording.motifs, HoldsAny,
    List.exists_mem_cons_iff, List.not_mem_nil, false_and,
    exists_false, or_false, Motif.occurs_ofString_iff,
    occurs_before_star_iff]

/- A blank that may be left out. -/
theorem recognises_files :
    Recognises "physical_design.external_files" fun t =>
      HoldsAny ["path varchar", "unlink("] t ∨
        HoldsBetween [("unlink", "(")] Text.IsOneBlank t := by
  have hWorded :
      Worded PhysicalDesign.externalFiles .text
        "physical_design.external_files"
        (.choice (.ofString "path varchar")
          [.between "unlink"
            [Syllable.blank.times .option trivial] "("]) := {}
  apply (hWorded.recognises_of_always rfl).congr
  intro t
  simp only [Wording.motifs, HoldsAny, HoldsBetween,
    List.exists_mem_cons_iff, List.not_mem_nil, false_and,
    exists_false, or_false, Motif.occurs_ofString_iff,
    Motif.occurs_between_iff,
    Motif.mem_language_singleton_iff,
    Syllable.mem_language_option_iff, Syllable.has_blank,
    or_and_right, exists_or, exists_eq_left, or_assoc]
  rfl

/-
  What the rules with repetitions fire on. A repetition gives
  back as much as the rest of its pattern needs, so that a
  text holds what a pattern describes exactly if the rule
  finds it there.
-/
theorem repetitions_recognised :
    Recognises "logical_design.multi_valued_attribute"
      (HoldsBetween
        [("id", "varchar"), ("id", "text"), ("id", "regexp")]
        Text.IsGap) ∧
    Recognises "logical_design.generic_primary_key"
      (fun t => isDdl t = true ∧
        ((∃ name ∈ ["id", "(id"], ∃ a b,
          Text.isBlank a = true ∧ Text.isBlank b = true ∧
            [a] ++ name.toList ++ [b] <:+: t) ∨
        ∃ b, Text.isBlank b = true ∧
          ",id".toList ++ [b] <:+: t)) ∧
    (∃ shorter,
      Regex.parse "(\\s+[\\(]?id\\s+)|(,id\\s+)".toList =
        .ok shorter ∧
      Recognises "logical_design.generic_primary_key" fun t =>
        isDdl t = true ∧ shorter.occursIn t = true) ∧
    Recognises "logical_design.metadata_tribbles"
      (fun t => isDdl t = true ∧
        ∃ c digits,
          (c = '-' ∨ c = '@' ∨
            'A'.toNat ≤ c.toNat ∧ c.toNat ≤ 'z'.toNat) ∧
          digits ≠ [] ∧ (∀ x ∈ digits, x.isDigit = true) ∧
            [c] ++ digits ++ [' '] <:+: t) ∧
    Recognises "physical_design.external_files"
      (fun t => HoldsAny ["path varchar", "unlink("] t ∨
        HoldsBetween [("unlink", "(")] Text.IsOneBlank t) ∧
    Recognises "physical_design.imprecise_data_type"
      (HoldsAny ["float", "real", "double precision",
        "0.000"]) ∧
    Recognises "query.select_star"
      (HoldsBetween [("select", "*")] Text.IsGap) ∧
    Recognises "query.pattern_matching"
      (HoldsBetween [("like", ""), ("regexp", "")]
        Text.IsOneBlank) ∧
    Recognises "query.implicit_columns"
      (HoldsBetween [("insert into ", " values")] fun w =>
        w ≠ [] ∧ ∀ c ∈ w, Text.isBlank c = false) ∧
    Recognises "query.distinct_join"
      (HoldsBetween [("distinct", "join")] fun w =>
        '\n' ∉ w) := by
  refine ⟨?_, recognises_id_column,
    recognises_id_column_by_two, recognises_numbered_name,
    recognises_files, recognises_imprecision, ?_, ?_, ?_, ?_⟩
  · exact recognises_between
      LogicalDesign.multiValuedAttribute {} rfl
      fun _ => Motif.mem_language_gap_iff
  · exact recognises_between Query.selectStar {} rfl
      fun _ => Motif.mem_language_gap_iff
  · exact recognises_between Query.patternMatching {} rfl
      fun _ => mem_language_blank_iff
  · exact recognises_between Query.implicitColumns {} rfl
      fun _ => mem_language_visibles_iff
  · exact recognises_between Query.distinctJoin {} rfl
      fun _ => mem_language_line_iff

end Catalog

end SqlAudit
