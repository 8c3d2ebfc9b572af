import SqlAudit.Proofs.Regex.Acceptance
import SqlAudit.Proofs.Regex.Language

/-
  Patterns that are a choice between motifs.

  A syllable is a part that stands for one character of a
  class, once or repeated. A motif is a sequence of
  syllables, and a wording is a motif, or a choice between
  motifs in parentheses. The parser reads a wording as it is
  meant, so that the wording occurs in a text exactly if some
  piece of the text consists of the syllables of a motif.

  Key definitions include:
    * `SqlAudit.Regex.Syllable`
    * `SqlAudit.Regex.Motif`
    * `SqlAudit.Regex.Wording`
    * `SqlAudit.Regex.Motif.Occurs`

  Key theorems include:
    * `SqlAudit.Regex.Wording.parse_text`
    * `SqlAudit.Regex.Wording.occursIn_iff`
-/

------------------------------------------------------------
-- Syllables And Motifs
------------------------------------------------------------

namespace SqlAudit

namespace Regex

/-
  A part that stands for one character of a class, and how
  often it is repeated, if it is.
-/
structure Syllable where
  part : Part
  cls : CharClass
  rounds : Option Rounds
  spelled : part.Spelled
  piece : part.piece? = some ⟨.solid, .char cls⟩
  rounds_spelled : ∀ r ∈ rounds, r.Spelled

namespace Syllable

/- The lexemes of a syllable. -/
def forms (s : Syllable) : List Lexeme.Form :=
  s.part.forms ++ s.rounds.elim [] Rounds.forms

/- The expression of a syllable. -/
def regex (s : Syllable) : Regex :=
  s.rounds.elim (.char s.cls) fun r =>
    .repeated (.char s.cls) r.bounds.1 r.bounds.2 .greedy

/- The kind of piece that a syllable is. -/
def kind (s : Syllable) : Piece.Kind :=
  s.rounds.elim .solid fun _ => .repetition

end Syllable

/- Syllables one after the other. -/
abbrev Motif : Type := List Syllable

namespace Motif

/- The lexemes of a motif. -/
def forms (motif : Motif) : List Lexeme.Form :=
  motif.flatMap Syllable.forms

/- The lexemes of a motif in parentheses. -/
def groupForms (motif : Motif) : List Lexeme.Form :=
  .plain '(' :: (motif.forms ++ [.plain ')'])

/- The pieces of a motif. -/
def pieces (motif : Motif) : List Piece :=
  motif.map fun s => ⟨s.kind, s.regex⟩

/- The expression of a motif. -/
def regex (motif : Motif) : Regex :=
  seqOf (motif.map Syllable.regex)

/- The texts that consist of the syllables of a motif. -/
def language (motif : Motif) : Language Char :=
  (motif.map fun s => s.regex.language).prod

end Motif

/- A motif, or a choice between motifs in parentheses. -/
inductive Wording where
| motif (only : Motif)
| choice (first : Motif) (others : List Motif)

namespace Wording

/- The motifs of a wording. -/
def motifs : Wording → List Motif
| .motif only => [only]
| .choice first others => first :: others

/- The lexemes of a choice. -/
def choiceForms :
    Motif → List Motif → List Lexeme.Form
| first, [] => first.groupForms
| first, next :: others =>
    first.groupForms ++ .plain '|' :: choiceForms next others

/- The groups of a choice, numbered from `n` on. -/
def groups : Nat → List Motif → List Regex
| _, [] => []
| n, first :: others =>
    .group n first.regex :: groups (n + 1) others

/- The lexemes of a wording. -/
def forms : Wording → List Lexeme.Form
| .motif only => only.forms
| .choice first others => choiceForms first others

/- The text of a wording. -/
def text (wording : Wording) : List Char :=
  wording.forms.flatMap Lexeme.Form.text

/- The expression of a wording. -/
def regex : Wording → Regex
| .motif only => only.regex
| .choice first others => altOf (groups 1 (first :: others))

end Wording

end Regex

end SqlAudit

------------------------------------------------------------
-- What May Follow
------------------------------------------------------------

namespace SqlAudit

namespace Regex

/-
  The lexemes that may stand behind a syllable: they are read
  as they are, and the first is no mark of a repetition.
-/
structure Follows (forms : List Lexeme.Form) : Prop where
  settled : ∀ form ∈ forms, form.Settled
  unmarked :
    ∀ c ∈ ['?', '+'], forms.head? ≠ some (.plain c)

namespace Follows

theorem nil : Follows [] where
  settled := by simp
  unmarked := by simp

theorem plain
    {c : Char}
    {forms : List Lexeme.Form}
    (hFollows : Follows forms)
    (hPlain : c ≠ '\\')
    (hMark : c ∉ ['?', '+']) :
    Follows (.plain c :: forms) where
  settled := by
    intro form hMem
    rcases List.mem_cons.mp hMem with rfl | hRest
    · exact hPlain
    · exact hFollows.settled form hRest
  unmarked := by
    rintro d hMem hHead
    cases hHead
    exact hMark hMem

theorem closing
    {forms : List Lexeme.Form}
    (hFollows : Follows forms) :
    Follows (.plain ')' :: forms) :=
  hFollows.plain (by simp) (by simp)

end Follows

namespace Syllable

theorem isRepetition_part
    (s : Syllable) :
    s.part.isRepetition = false := by
  have hPiece := s.piece
  cases hPart : s.part with
  | repeated rounds greed =>
      rw [hPart] at hPiece
      cases hPiece
  | _ => rfl

theorem settled
    (s : Syllable) :
    ∀ form ∈ s.forms, form.Settled := by
  intro form hMem
  rcases List.mem_append.mp hMem with hPart | hRounds
  · exact Part.settled s.spelled form hPart
  · cases hSome : s.rounds with
    | none => simp [hSome] at hRounds
    | some rounds =>
        rw [hSome] at hRounds
        exact Rounds.settled
          (s.rounds_spelled rounds hSome) form hRounds

/- A syllable may stand behind another. -/
theorem follows
    (s : Syllable)
    {forms : List Lexeme.Form}
    (hFollows : Follows forms) :
    Follows (s.forms ++ forms) where
  settled := by
    intro form hMem
    rcases List.mem_append.mp hMem with hSyllable | hRest
    · exact s.settled form hSyllable
    · exact hFollows.settled form hRest
  unmarked := by
    intro c hMark
    have hHead := s.part.head_forms s.spelled
      s.isRepetition_part hMark
    rcases List.exists_cons_of_ne_nil s.part.forms_ne_nil with
      ⟨form, others, hForms⟩
    simpa [Syllable.forms, hForms] using hHead

end Syllable

theorem Motif.follows
    (motif : Motif)
    {forms : List Lexeme.Form}
    (hFollows : Follows forms) :
    Follows (motif.forms ++ forms) := by
  induction motif with
  | nil => exact hFollows
  | cons s motif ih =>
      simp only [Motif.forms, List.flatMap_cons,
        List.append_assoc]
      exact s.follows ih

theorem Motif.follows_group
    (motif : Motif)
    {forms : List Lexeme.Form}
    (hFollows : Follows forms) :
    Follows (motif.groupForms ++ forms) := by
  have hInside := motif.follows hFollows.closing
  simpa [Motif.groupForms] using
    hInside.plain (c := '(') (by simp) (by simp)

theorem Wording.follows_choice
    (first : Motif)
    (others : List Motif)
    {forms : List Lexeme.Form}
    (hFollows : Follows forms) :
    Follows (choiceForms first others ++ forms) := by
  induction others generalizing first with
  | nil => exact first.follows_group hFollows
  | cons next others ih =>
      simp only [choiceForms, List.append_assoc,
        List.cons_append]
      apply first.follows_group
      exact (ih next).plain (by simp) (by simp)

end Regex

end SqlAudit

------------------------------------------------------------
-- Reading A Wording
------------------------------------------------------------

namespace SqlAudit

namespace Regex

/-
  Reading the lexemes takes the parser from one progress to
  another, whatever stands behind them. The fuel that is left
  is enough for what is left.
-/
def Leads
    (finish : Nat)
    (p : Progress)
    (forms : List Lexeme.Form)
    (q : Progress) : Prop :=
  ∀ n fuel rest,
    Follows rest →
    (forms ++ rest).length ≤ fuel →
    ∃ m left,
      rest.length ≤ left ∧
        parseFrom finish fuel p (lexemesOf n (forms ++ rest)) =
          parseFrom finish left q (lexemesOf m rest)

namespace Leads

variable {finish : Nat}
variable {p q r : Progress}
variable {forms others : List Lexeme.Form}

theorem nil : Leads finish p [] p := by
  intro n fuel rest _ hFuel
  exact ⟨n, fuel, hFuel, rfl⟩

theorem trans
    (hFirst : Leads finish p forms q)
    (hSecond : Leads finish q others r)
    (hFollows : ∀ rest, Follows rest → Follows (others ++ rest)) :
    Leads finish p (forms ++ others) r := by
  intro n fuel rest hRest hFuel
  rw [List.append_assoc] at hFuel ⊢
  rcases hFirst n fuel _ (hFollows rest hRest) hFuel with
    ⟨m, left, hLeft, hRead⟩
  rcases hSecond m left rest hRest hLeft with
    ⟨m', left', hLeft', hRead'⟩
  exact ⟨m', left', hLeft', hRead.trans hRead'⟩

/- One step of the parser takes some lexemes. -/
theorem step
    (hSome : forms ≠ [])
    (hStep : ∀ n fuel rest, Follows rest →
      ∃ m,
        parseFrom finish (fuel + 1) p
            (lexemesOf n (forms ++ rest)) =
          parseFrom finish fuel q (lexemesOf m rest)) :
    Leads finish p forms q := by
  intro n fuel rest hRest hFuel
  have hLength := List.length_pos_iff.mpr hSome
  rw [List.length_append] at hFuel
  cases fuel with
  | zero => omega
  | succ fuel =>
      rcases hStep n fuel rest hRest with ⟨m, hRead⟩
      exact ⟨m, fuel, by omega, hRead⟩

end Leads

/- A syllable adds one piece. -/
theorem Syllable.leads
    (s : Syllable)
    (finish : Nat)
    {p : Progress}
    (hMode : p.level.mode = {}) :
    Leads finish p s.forms
      (p.withLevel (p.level.push s.kind s.regex)) := by
  rcases s with ⟨part, cls, rounds, hSpelled, hPiece, hRounds⟩
  cases rounds with
  | none =>
      apply Leads.step (by simp [forms, part.forms_ne_nil])
      intro n fuel rest hRest
      simpa [forms, kind, regex] using
        parseFrom_piece finish fuel n p hMode hSpelled hPiece
          hRest.settled
  | some rounds =>
      have hRounds := hRounds rounds rfl
      intro n fuel rest hRest hFuel
      have hBehind :
          ∀ form ∈ rounds.forms ++ rest, form.Settled := by
        intro form hMem
        rcases List.mem_append.mp hMem with hForms | hTail
        · exact Rounds.settled hRounds form hForms
        · exact hRest.settled form hTail
      have hPart := List.length_pos_iff.mpr part.forms_ne_nil
      have hMark := List.length_pos_iff.mpr
        (show rounds.forms ≠ [] by
          cases rounds <;> simp [Rounds.forms])
      simp only [forms, Option.elim_some, List.append_assoc,
        List.length_append] at hFuel ⊢
      obtain ⟨fuel, rfl⟩ : ∃ k, fuel = k + 1 + 1 :=
        ⟨fuel - 2, by omega⟩
      -- The part is read in one step, and its repetition in
      -- the next, which replaces the piece of the part.
      rcases parseFrom_piece finish (fuel + 1) n p hMode
        hSpelled hPiece hBehind with ⟨m, hOnce⟩
      rcases parseFrom_rounds finish fuel m
        (p.withLevel (p.level.push .solid (.char cls))) hMode
        hRounds hRest.settled with ⟨l, m', hRepeated⟩
      have hLevel :
          (p.level.push .solid (.char cls)).pieces =
            ⟨.solid, .char cls⟩ :: p.level.pieces := rfl
      rcases repeatLast_solid hLevel l rounds.bounds.1
        rounds.bounds.2 .greedy m' hRest.settled
        hRest.unmarked with ⟨m'', hLast⟩
      refine ⟨m'', fuel, by omega, ?_⟩
      rw [hOnce, hRepeated]
      simp only [greedForms, List.nil_append] at hLast
      rw [Progress.withLevel, hLast]
      rfl

theorem Motif.leads
    (motif : Motif)
    (finish : Nat)
    {p : Progress}
    (hMode : p.level.mode = {}) :
    Leads finish p motif.forms
      (p.withLevel { p.level with
        pieces := motif.pieces.reverse ++ p.level.pieces }) := by
  induction motif generalizing p with
  | nil => exact .nil
  | cons s motif ih =>
      have hRest := ih
        (p := p.withLevel (p.level.push s.kind s.regex)) hMode
      have hBoth := (s.leads finish hMode).trans hRest
        fun _ => Motif.follows motif
      simpa [Motif.forms, Motif.pieces, Progress.withLevel,
        Level.push] using hBoth

/- The memory after a group has been opened and closed. -/
def Memory.withGroup
    (memory : Memory)
    (r : Regex) : Memory :=
  (memory.openGroup none).closeGroup memory.next r

theorem Memory.next_withGroup
    (memory : Memory)
    (r : Regex) :
    (memory.withGroup r).next = memory.next + 1 := by
  simp [withGroup, openGroup, closeGroup, next]

/- A motif in parentheses adds a group. -/
theorem Motif.leads_group
    (motif : Motif)
    (finish : Nat)
    {p : Progress}
    (hMode : p.level.mode = {}) :
    Leads finish p motif.groupForms
      ⟨p.frames,
        p.level.push .solid (.group p.memory.next motif.regex),
        p.memory.withGroup motif.regex⟩ := by
  intro n fuel rest hRest hFuel
  simp only [groupForms, List.cons_append, List.append_assoc,
    List.nil_append, List.length_cons, List.length_append]
    at hFuel ⊢
  obtain ⟨fuel, rfl⟩ : ∃ k, fuel = k + 1 :=
    ⟨fuel - 1, by omega⟩
  have hInside := motif.follows hRest.closing
  rcases parseFrom_opening finish fuel n p hMode .remembering
    hInside.settled (hInside.unmarked '?' (by simp)) with
    ⟨m, hOpened⟩
  let inner : Progress :=
    ⟨⟨⟨.plain '(', n⟩,
        Parenthesis.bracket p.memory .remembering, p.level⟩ ::
      p.frames, .start {},
      Parenthesis.opened p.memory .remembering⟩
  rcases motif.leads finish (p := inner) rfl m fuel
    (.plain ')' :: rest) hRest.closing
    (by simp only [List.length_append, List.length_cons]; omega)
    with ⟨m', left, hLeft, hRead⟩
  obtain ⟨left, rfl⟩ : ∃ k, left = k + 1 :=
    ⟨left - 1, by simp only [List.length_cons] at hLeft; omega⟩
  refine ⟨m' + 1, left, by simpa using hLeft, ?_⟩
  have hStart := hOpened.trans hRead
  rw [parseFrom_closing finish left m' _ hRest.settled]
    at hStart
  have hRegex :
      (Level.regex { pieces := motif.pieces.reverse }) =
        motif.regex := by
    simp [Level.regex, Level.branch, Motif.pieces,
      Motif.regex, altOf, Function.comp_def]
  simpa [Part.forms, Parenthesis.marks, inner, Level.start,
    Progress.withLevel, Progress.close, Parenthesis.bracket,
    Parenthesis.opened, Bracket.close, hRegex,
    Memory.withGroup, bind, Except.bind] using hStart

/-
  The alternatives that have been read, with nothing of the
  next one.
-/
structure Progress.Between
    (p : Progress)
    (done : List Regex) : Prop where
  frames : p.frames = []
  level : p.level = { branches := done.reverse }
  searchable : ∀ r ∈ done, Searchable r
  asked : p.memory.asked = []
  alphabets : p.memory.alphabets = []

theorem Syllable.searchable
    (s : Syllable) :
    Searchable s.regex := by
  intro widths
  cases hRounds : s.rounds with
  | none => simp [Syllable.regex, hRounds, cause?]
  | some rounds => simp [Syllable.regex, hRounds, cause?]

theorem Motif.searchable
    (motif : Motif) :
    Searchable motif.regex := by
  apply searchable_seqOf
  intro r hMem
  rcases List.mem_map.mp hMem with ⟨s, _, rfl⟩
  exact s.searchable

/- What has been read to the end is an expression. -/
theorem Progress.regex_of_calm
    {level : Level}
    {memory : Memory}
    (hLevel : level.Calm)
    (hAsked : memory.asked = [])
    (hAlphabets : memory.alphabets = []) :
    Progress.regex ⟨[], level, memory⟩ = .ok level.regex := by
  have hFits :
      Progress.Fits ⟨[], level, memory⟩
        ⟨0, level.pieces.head?.map Piece.kind⟩ :=
    ⟨rfl, rfl, hLevel, by simp, hAsked, hAlphabets⟩
  exact hFits.regex

/-
  A choice is read up to its end. The induction is on the
  motifs, and the alternatives before are carried along.
-/
theorem Wording.leads_choice
    (finish : Nat)
    (first : Motif)
    (others : List Motif)
    {p : Progress}
    {done : List Regex}
    (hBetween : p.Between done) :
    ∃ q,
      Leads finish p (choiceForms first others) q ∧
        q.frames = [] ∧
        q.regex =
          .ok (altOf (done ++
            groups p.memory.next (first :: others))) := by
  have hMode : p.level.mode = {} := by rw [hBetween.level]
  have hGroup := first.leads_group finish hMode
  have hSearchable :
      Searchable (.group p.memory.next first.regex) :=
    first.searchable
  cases others with
  | nil =>
      have hLevel : p.level.Calm := {
        mode := hMode
        branches := by
          simpa [hBetween.level] using hBetween.searchable
        pieces := by simp [hBetween.level] }
      rw [hBetween.frames] at hGroup
      refine ⟨_, hGroup, rfl, ?_⟩
      refine (Progress.regex_of_calm
        (hLevel.push .solid hSearchable) ?_ ?_).trans ?_
      · exact hBetween.asked
      · exact hBetween.alphabets
      · simp [hBetween.level, Level.push, Level.regex,
          Level.branch, seqOf, groups]
  | cons next others =>
      let group : Regex := .group p.memory.next first.regex
      let q : Progress :=
        ⟨[], { branches := (done ++ [group]).reverse },
          p.memory.withGroup first.regex⟩
      have hNext : q.Between (done ++ [group]) := {
        frames := rfl
        level := rfl
        searchable := by
          intro r hMem
          rcases List.mem_append.mp hMem with hOld | hNew
          · exact hBetween.searchable r hOld
          · rcases List.mem_singleton.mp hNew with rfl
            exact hSearchable
        asked := hBetween.asked
        alphabets := hBetween.alphabets }
      have hBar :
          Leads finish
            ⟨p.frames, p.level.push .solid group,
              p.memory.withGroup first.regex⟩
            [.plain '|'] q := by
        apply Leads.step (by simp)
        intro n fuel rest hRest
        refine ⟨n + 1, ?_⟩
        rw [List.singleton_append,
          parseFrom_bar finish fuel n _ hRest.settled]
        simp [Progress.alternate, hBetween.frames,
          hBetween.level, Level.nextBranch, Level.branch,
          Level.push, Progress.withLevel, seqOf, q, bind,
          Except.bind]
      rcases leads_choice finish next others hNext with
        ⟨r, hRest, hFrames, hRegex⟩
      refine ⟨r, ?_, hFrames, ?_⟩
      · have hAll := hGroup.trans
          (hBar.trans hRest fun _ => follows_choice next others)
          fun rest hFollows => by
            exact (follows_choice next others hFollows).plain
              (by simp) (by simp)
        simpa [choiceForms] using hAll
      · rw [hRegex]
        simp [groups, group, q, Memory.next_withGroup]

/- The parser reads what leads to an expression. -/
theorem parse_of_leads
    {forms : List Lexeme.Form}
    {q : Progress}
    {r : Regex}
    (hSettled : ∀ form ∈ forms, form.Settled)
    (hLeads :
      Leads (forms.flatMap Lexeme.Form.text).length {} forms q)
    (hFrames : q.frames = [])
    (hRegex : q.regex = .ok r) :
    parse (forms.flatMap Lexeme.Form.text) = .ok r := by
  rcases hLeads 0 forms.length [] .nil (by simp) with
    ⟨m, left, _, hRead⟩
  have hEnd :
      parseFrom (forms.flatMap Lexeme.Form.text).length left q
          (lexemesOf m []) = .ok q := by
    cases left <;> simp [parseFrom, hFrames]
  rw [List.append_nil, hEnd] at hRead
  simp only [parse, lexemes, lexemesAt_text 0 hSettled,
    length_lexemesOf, hRead, bind, Except.bind, hRegex]

/- The parser reads a wording as it is meant. -/
theorem Wording.parse_text
    (wording : Wording) :
    parse wording.text = .ok wording.regex := by
  cases wording with
  | motif only =>
      have hFollows := only.follows .nil
      rw [List.append_nil] at hFollows
      have hLevel :
          Level.Calm { pieces := only.pieces.reverse ++ [] } := {
        mode := rfl
        branches := by simp
        pieces := by
          simp only [Motif.pieces, List.append_nil,
            List.mem_reverse, List.forall_mem_map]
          exact fun s _ => s.searchable }
      apply parse_of_leads hFollows.settled
        (only.leads _ rfl) rfl
      apply (Progress.regex_of_calm hLevel rfl rfl).trans
      simp [Level.regex, Level.branch, Motif.pieces,
        Motif.regex, Wording.regex, altOf, Function.comp_def]
  | choice first others =>
      have hFollows := follows_choice first others .nil
      rw [List.append_nil] at hFollows
      have hStart : Progress.Between {} [] :=
        ⟨rfl, rfl, by simp, rfl, rfl⟩
      rcases leads_choice _ first others hStart with
        ⟨q, hLeads, hFrames, hRegex⟩
      exact parse_of_leads hFollows.settled hLeads hFrames
        hRegex

end Regex

end SqlAudit

------------------------------------------------------------
-- What A Wording Means
------------------------------------------------------------

namespace SqlAudit

namespace Regex

/- Some piece of the text consists of the syllables. -/
def Motif.Occurs
    (motif : Motif)
    (text : List Char) : Prop :=
  ∃ w ∈ motif.language, w <:+: text

theorem Syllable.isRegular
    (s : Syllable) :
    s.regex.isRegular = true := by
  cases hRounds : s.rounds with
  | none => simp [Syllable.regex, hRounds, Regex.isRegular]
  | some rounds =>
      simp [Syllable.regex, hRounds, Regex.isRegular]

theorem Motif.isRegular
    (motif : Motif) :
    motif.regex.isRegular = true := by
  apply isRegular_seqOf
  intro r hMem
  rcases List.mem_map.mp hMem with ⟨s, _, rfl⟩
  exact s.isRegular

theorem Motif.language_regex
    (motif : Motif) :
    motif.regex.language = motif.language := by
  rw [Motif.regex, language_seqOf, List.map_map]
  rfl

namespace Wording

theorem isRegular_groups
    (n : Nat)
    (motifs : List Motif) :
    ∀ r ∈ groups n motifs, r.isRegular = true := by
  induction motifs generalizing n with
  | nil => simp [groups]
  | cons first others ih =>
      exact List.forall_mem_cons.mpr
        ⟨first.isRegular, ih (n + 1)⟩

theorem isRegular
    (wording : Wording) :
    wording.regex.isRegular = true := by
  cases wording with
  | motif only => exact only.isRegular
  | choice first others =>
      exact isRegular_altOf
        (isRegular_groups 1 (first :: others))

/- A group matches what its motif matches. -/
theorem exists_mem_groups_iff
    (n : Nat)
    (motifs : List Motif)
    {w : List Char} :
    (∃ r ∈ groups n motifs, w ∈ r.language) ↔
      ∃ motif ∈ motifs, w ∈ motif.language := by
  induction motifs generalizing n with
  | nil => simp [groups]
  | cons first others ih =>
      rw [groups, List.exists_mem_cons_iff,
        List.exists_mem_cons_iff, ih,
        ← first.language_regex]
      rfl

theorem mem_language_iff
    (wording : Wording)
    {w : List Char} :
    w ∈ wording.regex.language ↔
      ∃ motif ∈ wording.motifs, w ∈ motif.language := by
  cases wording with
  | motif only => simp [regex, motifs, only.language_regex]
  | choice first others =>
      rw [regex, mem_language_altOf_iff (by simp [groups]),
        exists_mem_groups_iff, motifs]

/- A wording occurs where one of its motifs does. -/
theorem occursIn_iff
    (wording : Wording)
    {text : List Char} :
    wording.regex.occursIn text = true ↔
      ∃ motif ∈ wording.motifs, motif.Occurs text := by
  rw [Regex.occursIn_iff wording.isRegular]
  constructor
  · rintro ⟨w, hWord, hInfix⟩
    rcases wording.mem_language_iff.mp hWord with
      ⟨motif, hMotif, hWord⟩
    exact ⟨motif, hMotif, w, hWord, hInfix⟩
  · rintro ⟨motif, hMotif, w, hWord, hInfix⟩
    exact ⟨w, wording.mem_language_iff.mpr
      ⟨motif, hMotif, hWord⟩, hInfix⟩

end Wording

end Regex

end SqlAudit
