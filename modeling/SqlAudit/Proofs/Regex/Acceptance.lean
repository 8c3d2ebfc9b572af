import Mathlib.Data.List.Chain
import SqlAudit.Proofs.Regex.Reading

/-
  Which sequences of parts are patterns.

  Whether parts make a pattern depends on little: on how many
  parentheses are open, and on the kind of the piece that was
  read last. A small machine that keeps track of these two
  accepts exactly the sequences that the parser accepts.

  Key definitions include:
    * `SqlAudit.Regex.Stand`
    * `SqlAudit.Regex.Stand.completes`
    * `SqlAudit.Regex.Part.Joins`
    * `SqlAudit.Regex.Progress.Fits`

  Key theorems include:
    * `SqlAudit.Regex.parseFrom_parts`
    * `SqlAudit.Regex.exists_parse_parts_iff`
-/

------------------------------------------------------------
-- Where A Sequence Of Parts Stands
------------------------------------------------------------

namespace SqlAudit

namespace Regex

/-
  How many parentheses are open, and the kind of the last
  piece of the current alternative, if there is one.
-/
structure Stand where
  depth : Nat := 0
  last : Option Piece.Kind := none
  deriving Repr, DecidableEq

namespace Stand

/- Where a sequence stands after one more part. -/
def next? (s : Stand) : Part → Option Stand
| .opening _ => some ⟨s.depth + 1, none⟩
| .closing =>
    if s.depth = 0 then none
    else some ⟨s.depth - 1, some .solid⟩
| .bar => some ⟨s.depth, none⟩
| .repeated .. =>
    if s.last = some .solid then
      some ⟨s.depth, some .repetition⟩
    else
      none
| part => some ⟨s.depth, part.piece?.map Piece.kind⟩

/- The parts can follow, and close what is open. -/
def completes : Stand → List Part → Bool
| s, [] => s.depth == 0
| s, part :: parts =>
    match s.next? part with
    | some t => t.completes parts
    | none => false

end Stand

/- The part begins with a mark that belongs to another. -/
def Part.isRepetition : Part → Bool
| .repeated .. => true
| _ => false

/- What follows the part may add a mark to it. -/
def Part.awaitsMark : Part → Bool
| .opening _ | .repeated .. => true
| _ => false

/- Two parts that are not read as one. -/
def Part.Joins (part next : Part) : Prop :=
  part.awaitsMark = true → next.isRepetition = false

instance (part next : Part) : Decidable (part.Joins next) :=
  inferInstanceAs (Decidable (_ → _))

end Regex

end SqlAudit

------------------------------------------------------------
-- Expressions That Can Be Searched For
------------------------------------------------------------

namespace SqlAudit

namespace Regex

/- Nothing keeps the expression from being searched for. -/
def Searchable (r : Regex) : Prop :=
  ∀ groups, r.cause? groups false = none

theorem searchable_seqOf
    {rs : List Regex}
    (hSearchable : ∀ r ∈ rs, Searchable r) :
    Searchable (seqOf rs) := by
  intro groups
  induction rs with
  | nil => rfl
  | cons r rs ih =>
      have hHead := hSearchable r (by simp) groups
      have hTail := ih fun s hMem =>
        hSearchable s (by simp [hMem])
      cases rs with
      | nil => exact hHead
      | cons s rs => simp [seqOf, cause?, hHead, hTail]

theorem searchable_altOf
    {rs : List Regex}
    (hSearchable : ∀ r ∈ rs, Searchable r) :
    Searchable (altOf rs) := by
  intro groups
  induction rs with
  | nil => rfl
  | cons r rs ih =>
      have hHead := hSearchable r (by simp) groups
      have hTail := ih fun s hMem =>
        hSearchable s (by simp [hMem])
      cases rs with
      | nil => exact hHead
      | cons s rs => simp [altOf, cause?, hHead, hTail]

/-
  The level has no switches on, and all that has been read
  on it can be searched for.
-/
structure Level.Calm (level : Level) : Prop where
  mode : level.mode = {}
  branches : ∀ r ∈ level.branches, Searchable r
  pieces : ∀ piece ∈ level.pieces, Searchable piece.regex

namespace Level.Calm

variable {level : Level}

theorem start : (Level.start {}).Calm where
  mode := rfl
  branches := by simp [Level.start]
  pieces := by simp [Level.start]

theorem branch
    (hCalm : level.Calm) :
    Searchable level.branch := by
  apply searchable_seqOf
  intro r hMem
  rcases List.mem_map.mp hMem with ⟨piece, hPiece, rfl⟩
  exact hCalm.pieces piece (List.mem_reverse.mp hPiece)

theorem regex
    (hCalm : level.Calm) :
    Searchable level.regex := by
  apply searchable_altOf
  intro r hMem
  rcases List.mem_cons.mp (List.mem_reverse.mp hMem) with
    rfl | hBranch
  · exact hCalm.branch
  · exact hCalm.branches r hBranch

theorem push
    (hCalm : level.Calm)
    (kind : Piece.Kind)
    {r : Regex}
    (hSearchable : Searchable r) :
    (level.push kind r).Calm where
  mode := hCalm.mode
  branches := hCalm.branches
  pieces := by
    intro piece hMem
    rcases List.mem_cons.mp hMem with rfl | hOld
    · exact hSearchable
    · exact hCalm.pieces piece hOld

theorem nextBranch
    (hCalm : level.Calm) :
    level.nextBranch.Calm where
  mode := hCalm.mode
  branches := by
    intro r hMem
    rcases List.mem_cons.mp hMem with rfl | hOld
    · exact hCalm.branch
    · exact hCalm.branches r hOld
  pieces := by simp [Level.nextBranch]

end Level.Calm

theorem Part.searchable_piece
    {part : Part}
    {piece : Piece}
    (hPiece : part.piece? = some piece) :
    Searchable piece.regex := by
  intro groups
  cases part with
  | literal c => cases hPiece; rfl
  | escaped c =>
      simp only [Part.piece?] at hPiece
      split at hPiece
      · cases hPiece; rfl
      · cases hPiece; rfl
      · cases hPiece; rfl
      · cases hPiece; rfl
  | any | start | finish => cases hPiece; rfl
  | bracket negated entries => cases hPiece; rfl
  | opening _ | closing | bar => cases hPiece
  | repeated _ _ => cases hPiece

end Regex

end SqlAudit

------------------------------------------------------------
-- The Parser And The Stand
------------------------------------------------------------

namespace SqlAudit

namespace Regex

/- The bracket only brackets what is read inside it. -/
def Bracket.IsCalm : Bracket → Prop
| .capture _ | .plain | .atomic | .look _ false _ => True
| .look _ true _ | .given .. => False

/-
  The parser has got to where a sequence of parts stands,
  and has met neither switches nor conditions.
-/
structure Progress.Fits
    (p : Progress)
    (s : Stand) : Prop where
  depth : p.frames.length = s.depth
  last : p.level.pieces.head?.map Piece.kind = s.last
  level : p.level.Calm
  frames : ∀ frame ∈ p.frames,
    frame.kind.IsCalm ∧ frame.level.Calm
  asked : p.memory.asked = []
  alphabets : p.memory.alphabets = []

namespace Progress.Fits

variable {p : Progress}
variable {s : Stand}

/- At first, nothing has been read. -/
theorem start : Progress.Fits {} {} where
  depth := rfl
  last := rfl
  level := ⟨rfl, by simp, by simp⟩
  frames := by simp
  asked := rfl
  alphabets := rfl

theorem push
    (hFits : p.Fits s)
    (kind : Piece.Kind)
    {r : Regex}
    (hSearchable : Searchable r) :
    (p.withLevel (p.level.push kind r)).Fits
      ⟨s.depth, some kind⟩ where
  depth := hFits.depth
  last := rfl
  level := hFits.level.push kind hSearchable
  frames := hFits.frames
  asked := hFits.asked
  alphabets := hFits.alphabets

theorem opening
    (hFits : p.Fits s)
    (opened : Lexeme)
    (kind : Parenthesis) :
    Progress.Fits
      ⟨⟨opened, kind.bracket p.memory, p.level⟩ :: p.frames,
        .start {}, kind.opened p.memory⟩
      ⟨s.depth + 1, none⟩ where
  depth := by simp [hFits.depth]
  last := rfl
  level := .start
  frames := by
    intro frame hMem
    rcases List.mem_cons.mp hMem with rfl | hOld
    · exact ⟨by cases kind <;> trivial, hFits.level⟩
    · exact hFits.frames frame hOld
  asked := by cases kind <;> exact hFits.asked
  alphabets := by cases kind <;> exact hFits.alphabets

theorem bar
    (hFits : p.Fits s)
    (l : Lexeme) :
    ∃ q, p.alternate l = .ok q ∧ q.Fits ⟨s.depth, none⟩ := by
  refine ⟨p.withLevel p.level.nextBranch, ?_, ?_⟩
  · unfold Progress.alternate
    split
    · rename_i opened number first outer frames hFrames
      have hCalm := (hFits.frames
        ⟨opened, .given number first, outer⟩
        (by simp [hFrames])).1
      exact absurd hCalm id
    · rfl
  · exact ⟨hFits.depth, rfl, hFits.level.nextBranch,
      hFits.frames, hFits.asked, hFits.alphabets⟩

/- Closing a bracket asks for nothing. -/
theorem memory_close
    (kind : Bracket)
    (level : Level)
    (memory : Memory) :
    (kind.close level memory).2.asked = memory.asked ∧
      (kind.close level memory).2.alphabets =
        memory.alphabets := by
  cases kind with
  | capture number => exact ⟨rfl, rfl⟩
  | plain => exact ⟨rfl, rfl⟩
  | atomic => exact ⟨rfl, rfl⟩
  | look wanted behind outermost =>
      cases outermost with
      | true => exact ⟨rfl, rfl⟩
      | false => exact ⟨rfl, rfl⟩
  | given number first =>
      cases first with
      | none => exact ⟨rfl, rfl⟩
      | some first => exact ⟨rfl, rfl⟩

/- What a calm bracket comes to can be searched for. -/
theorem searchable_close
    {kind : Bracket}
    (hKind : kind.IsCalm)
    {level : Level}
    (hLevel : level.Calm)
    (memory : Memory) :
    Searchable (kind.close level memory).1 := by
  intro groups
  have hRegex := hLevel.regex groups
  cases kind with
  | capture number => exact hRegex
  | plain => exact hRegex
  | atomic => exact hRegex
  | look wanted behind outermost =>
      cases behind with
      | true => exact absurd hKind id
      | false => exact hRegex
  | given number first => exact absurd hKind id

theorem closing
    (hFits : p.Fits s)
    (l : Lexeme) :
    if s.depth = 0 then ∃ e, p.close l = .error e
    else
      ∃ q, p.close l = .ok q ∧
        q.Fits ⟨s.depth - 1, some .solid⟩ := by
  have hDepth := hFits.depth
  unfold Progress.close
  cases hFrames : p.frames with
  | nil =>
      have hZero : s.depth = 0 := by
        simpa [hFrames] using hDepth.symm
      have hMixed : p.memory.isMixed = false := by
        simp [Memory.isMixed, hFits.alphabets]
      rw [if_pos hZero]
      exact ⟨_, by simp [hMixed, Lexeme.fail]; rfl⟩
  | cons frame frames =>
      have hSucc : s.depth = frames.length + 1 := by
        simpa [hFrames] using hDepth.symm
      have hFrame := hFits.frames frame (by simp [hFrames])
      rw [if_neg (by omega)]
      have hMemory := memory_close frame.kind p.level p.memory
      refine ⟨_, rfl, ?_⟩
      exact {
        depth := by
          simp [hSucc]
        last := rfl
        level := hFrame.2.push .solid
          (searchable_close hFrame.1 hFits.level p.memory)
        frames := fun other hMem =>
          hFits.frames other (by simp [hFrames, hMem])
        asked := hMemory.1.trans hFits.asked
        alphabets := hMemory.2.trans hFits.alphabets }

theorem repeated
    (hFits : p.Fits s)
    {r : Regex}
    {pieces : List Piece}
    (hPieces : p.level.pieces = ⟨.solid, r⟩ :: pieces)
    (least : Nat)
    (most : Option Nat)
    (greed : Greed) :
    (p.withLevel { p.level with
        pieces := ⟨.repetition,
          .repeated r least most greed⟩ :: pieces }).Fits
      ⟨s.depth, some .repetition⟩ where
  depth := hFits.depth
  last := rfl
  level := {
    mode := hFits.level.mode
    branches := hFits.level.branches
    pieces := by
      have hOld := hFits.level.pieces
      rw [hPieces] at hOld
      intro piece hMem
      rcases List.mem_cons.mp hMem with rfl | hRest
      · intro groups
        exact hOld ⟨.solid, r⟩ (by simp) groups
      · exact hOld piece (by simp [hRest]) }
  frames := hFits.frames
  asked := hFits.asked
  alphabets := hFits.alphabets

/- A pattern that has been read in full is an expression. -/
theorem regex
    (hFits : p.Fits s) :
    p.regex = .ok p.level.regex := by
  have hMixed : p.memory.isMixed = false := by
    simp [Memory.isMixed, hFits.alphabets]
  have hMode : p.level.mode.unrepeated = false := by
    rw [hFits.level.mode]
  simp [Progress.regex, hMixed, hMode, hFits.asked,
    hFits.level.regex p.memory.widths, pure, Except.pure]

end Progress.Fits

end Regex

end SqlAudit

------------------------------------------------------------
-- Patterns Part By Part
------------------------------------------------------------

namespace SqlAudit

namespace Regex

theorem Part.forms_ne_nil
    (part : Part) :
    part.forms ≠ [] := by
  cases part with
  | repeated rounds greed =>
      cases rounds <;> simp [Part.forms, Rounds.forms]
  | _ => simp [Part.forms]

theorem Part.text_ne_nil
    (part : Part) :
    part.text ≠ [] := by
  rcases List.exists_cons_of_ne_nil part.forms_ne_nil with
    ⟨form, forms, hForms⟩
  rw [Part.text, hForms, List.flatMap_cons]
  apply List.append_ne_nil_of_left_ne_nil
  cases form with
  | plain c => simp [Lexeme.Form.text]
  | escaped c => simp [Lexeme.Form.text]
  | dangling => simp [Lexeme.Form.text]

/- Only a repetition begins with a mark of its own. -/
theorem Part.head_forms
    {part : Part}
    (hSpelled : part.Spelled)
    (hOther : part.isRepetition = false)
    {c : Char}
    (hMark : c ∈ ['?', '+']) :
    part.forms.head? ≠ some (.plain c) := by
  have hOperator : c ∈ operators := by
    rcases List.mem_cons.mp hMark with rfl | hPlus
    · decide
    · rcases List.mem_singleton.mp hPlus with rfl
      decide
  have hApart {d : Char} (hNone : d ∉ ['?', '+']) :
      some (Lexeme.Form.plain d) ≠ some (.plain c) := by
    rintro ⟨⟩
    exact hNone hMark
  cases part with
  | literal d =>
      intro hHead
      have hSame : d = c := by simpa [Part.forms] using hHead
      exact hSpelled (hSame ▸ hOperator)
  | escaped d => simp [Part.forms]
  | any => exact hApart (by decide)
  | start => exact hApart (by decide)
  | finish => exact hApart (by decide)
  | bracket negated entries => exact hApart (by decide)
  | opening kind => exact hApart (by decide)
  | closing => exact hApart (by decide)
  | bar => exact hApart (by decide)
  | repeated rounds greed => cases hOther

theorem exists_piece_escaped
    (c : Char) :
    ∃ piece, (Part.escaped c).piece? = some piece := by
  simp only [Part.piece?]
  split
  · exact ⟨_, rfl⟩
  · exact ⟨_, rfl⟩
  · exact ⟨_, rfl⟩
  · exact ⟨_, rfl⟩

theorem exists_solid_of_head
    {pieces : List Piece}
    (hHead : pieces.head?.map Piece.kind = some .solid) :
    ∃ r rest, pieces = ⟨.solid, r⟩ :: rest := by
  cases pieces with
  | nil => cases hHead
  | cons piece rest =>
      cases piece with
      | mk kind r =>
          have hKind : kind = .solid := by
            simpa using hHead
          exact ⟨r, rest, by rw [hKind]⟩

/-
  One part takes the parser to where the sequence stands
  then, or makes it fail if there is no such place.
-/
theorem parseFrom_part
    (finish fuel n : Nat)
    {p : Progress}
    {s : Stand}
    (hFits : p.Fits s)
    {part : Part}
    (hSpelled : part.Spelled)
    {forms : List Lexeme.Form}
    (hSettled : ∀ form ∈ forms, form.Settled)
    (hNext : part.awaitsMark = true →
      ∀ c ∈ ['?', '+'], forms.head? ≠ some (.plain c)) :
    match s.next? part with
    | some t =>
        ∃ q m, q.Fits t ∧
          parseFrom finish (fuel + 1) p
              (lexemesOf n (part.forms ++ forms)) =
            parseFrom finish fuel q (lexemesOf m forms)
    | none =>
        ∃ e,
          parseFrom finish (fuel + 1) p
              (lexemesOf n (part.forms ++ forms)) =
            .error e := by
  have hMode := hFits.level.mode
  have hPiece (piece : Piece)
      (hPiece : part.piece? = some piece) :
      ∃ q m, q.Fits ⟨s.depth, part.piece?.map Piece.kind⟩ ∧
        parseFrom finish (fuel + 1) p
            (lexemesOf n (part.forms ++ forms)) =
          parseFrom finish fuel q (lexemesOf m forms) := by
    rcases parseFrom_piece finish fuel n p hMode hSpelled
      hPiece hSettled with ⟨m, hRead⟩
    have hPushed := hFits.push piece.kind
      (part.searchable_piece hPiece)
    rw [hPiece]
    exact ⟨_, m, hPushed, hRead⟩
  cases part with
  | literal c => exact hPiece _ rfl
  | escaped c =>
      rcases exists_piece_escaped c with ⟨piece, hEscaped⟩
      exact hPiece piece hEscaped
  | any => exact hPiece _ rfl
  | start => exact hPiece _ rfl
  | finish => exact hPiece _ rfl
  | bracket negated entries => exact hPiece _ rfl
  | opening kind =>
      rcases parseFrom_opening finish fuel n p hMode kind
        hSettled (hNext rfl '?' (by simp)) with ⟨m, hRead⟩
      exact ⟨_, m, hFits.opening _ kind, hRead⟩
  | closing =>
      have hRead := parseFrom_closing finish fuel n p hSettled
      have hClose := hFits.closing ⟨.plain ')', n⟩
      rw [Part.forms, List.singleton_append, hRead]
      by_cases hZero : s.depth = 0
      · rw [if_pos hZero] at hClose
        rcases hClose with ⟨e, hClose⟩
        simp only [Stand.next?, hZero, if_true, hClose]
        exact ⟨e, rfl⟩
      · rw [if_neg hZero] at hClose
        rcases hClose with ⟨q, hClose, hThen⟩
        simp only [Stand.next?, hZero, if_false, hClose]
        exact ⟨q, n + 1, hThen, rfl⟩
  | bar =>
      rcases hFits.bar ⟨.plain '|', n⟩ with ⟨q, hBar, hThen⟩
      refine ⟨q, n + 1, hThen, ?_⟩
      rw [Part.forms, List.singleton_append,
        parseFrom_bar finish fuel n p hSettled, hBar]
      rfl
  | repeated rounds greed =>
      have hBehind :
          ∀ form ∈ greedForms greed ++ forms, form.Settled := by
        intro form hMem
        rcases List.mem_append.mp hMem with hGreed | hRest
        · exact Part.settled hSpelled form
            (List.mem_append_right _ hGreed)
        · exact hSettled form hRest
      rcases parseFrom_rounds finish fuel n p hMode hSpelled
        hBehind with ⟨l, m, hRead⟩
      rw [Part.forms, List.append_assoc, hRead]
      by_cases hLast : s.last = some .solid
      · have hHead := hFits.last.trans hLast
        rcases exists_solid_of_head hHead with
          ⟨r, pieces, hPieces⟩
        rcases repeatLast_solid hPieces l rounds.bounds.1
          rounds.bounds.2 greed m hSettled (hNext rfl) with
          ⟨m', hRepeat⟩
        simp only [Stand.next?, hLast, if_true, hRepeat]
        exact ⟨_, m', hFits.repeated hPieces _ _ greed, rfl⟩
      · have hOther :
            p.level.pieces.head?.map Piece.kind ≠
              some .solid := by
          rw [hFits.last]
          exact hLast
        rcases repeatLast_refused hOther l rounds.bounds.1
          rounds.bounds.2
          (lexemesOf m (greedForms greed ++ forms)) with
          ⟨e, hRefused⟩
        simp only [Stand.next?, hLast, if_false, hRefused]
        exact ⟨e, rfl⟩

/- The first lexeme of what follows a part. -/
theorem head_parts
    {part : Part}
    {parts : List Part}
    (hSpelled : ∀ part ∈ parts, part.Spelled)
    (hJoined : (part :: parts).IsChain Part.Joins)
    (hAwaits : part.awaitsMark = true)
    {c : Char}
    (hMark : c ∈ ['?', '+']) :
    (parts.flatMap Part.forms).head? ≠
      some (.plain c) := by
  cases parts with
  | nil => simp
  | cons next parts =>
      have hJoins : part.Joins next :=
        (List.isChain_cons_cons.mp hJoined).1
      have hHead := next.head_forms (hSpelled next (by simp))
        (hJoins hAwaits) hMark
      rcases List.exists_cons_of_ne_nil next.forms_ne_nil with
        ⟨form, forms, hForms⟩
      simpa [hForms] using hHead

/-
  The parser reads parts to the end exactly if the machine
  does. The induction is on the parts, and it carries along
  that the parser has got to where the machine stands.
-/
theorem parseFrom_parts
    (finish : Nat)
    {parts : List Part}
    (hSpelled : ∀ part ∈ parts, part.Spelled)
    (hJoined : parts.IsChain Part.Joins)
    {p : Progress}
    {s : Stand}
    (hFits : p.Fits s)
    (n fuel : Nat)
    (hFuel : (parts.flatMap Part.forms).length ≤ fuel) :
    if s.completes parts then
      ∃ q t, q.Fits t ∧
        parseFrom finish fuel p
            (lexemesOf n (parts.flatMap Part.forms)) =
          .ok q
    else
      ∃ e,
        parseFrom finish fuel p
            (lexemesOf n (parts.flatMap Part.forms)) =
          .error e := by
  induction parts generalizing p s n fuel with
  | nil =>
      have hDepth := hFits.depth
      cases hFrames : p.frames with
      | nil =>
          have hZero : s.depth = 0 := by
            simpa [hFrames] using hDepth.symm
          simp only [Stand.completes, hZero, beq_self_eq_true,
            if_true]
          exact ⟨p, s, hFits, by
            cases fuel <;> simp [parseFrom, hFrames]⟩
      | cons frame frames =>
          have hOpen : s.depth ≠ 0 := by
            simp [← hDepth, hFrames]
          simp only [Stand.completes, beq_iff_eq, hOpen,
            if_false]
          exact ⟨_, by
            cases fuel <;>
              simp [parseFrom, hFrames, Lexeme.fail] <;> rfl⟩
  | cons part parts ih =>
      have hRest : ∀ part ∈ parts, part.Spelled :=
        fun other hMem => hSpelled other (by simp [hMem])
      cases fuel with
      | zero =>
          have hNone := part.forms_ne_nil
          simp [hNone] at hFuel
      | succ fuel =>
          have hOne :=
            List.length_pos_iff.mpr part.forms_ne_nil
          have hLess :
              (parts.flatMap Part.forms).length ≤ fuel := by
            simp only [List.flatMap_cons,
              List.length_append] at hFuel
            omega
          have hStep := parseFrom_part finish fuel n hFits
            (hSpelled part (by simp)) (settled_parts hRest)
            (fun hAwaits c hMark =>
              head_parts hRest hJoined hAwaits hMark)
          rw [List.flatMap_cons]
          cases hThen : s.next? part with
          | none =>
              simp only [hThen] at hStep
              simpa [Stand.completes, hThen] using hStep
          | some t =>
              simp only [hThen] at hStep
              rcases hStep with ⟨q, m, hFitsThen, hRead⟩
              have hEnd := ih hRest hJoined.tail hFitsThen m fuel
                hLess
              rw [hRead]
              simpa only [Stand.completes, hThen] using hEnd

/- Parts are a pattern exactly if the machine accepts them. -/
theorem exists_parse_parts_iff
    {parts : List Part}
    (hSpelled : ∀ part ∈ parts, part.Spelled)
    (hJoined : parts.IsChain Part.Joins) :
    (∃ r, parse (parts.flatMap Part.text) = .ok r) ↔
      Stand.completes {} parts = true := by
  have hRead := parseFrom_parts
    (parts.flatMap Part.text).length hSpelled hJoined
    Progress.Fits.start 0 _ (Nat.le_refl _)
  simp only [parse, lexemes_parts hSpelled, length_lexemesOf]
  by_cases hCompletes : Stand.completes {} parts = true
  · rw [if_pos hCompletes] at hRead
    rcases hRead with ⟨q, t, hFits, hRead⟩
    simp only [hRead, hCompletes, iff_true]
    exact ⟨q.level.regex, hFits.regex⟩
  · rw [if_neg hCompletes] at hRead
    rcases hRead with ⟨e, hRead⟩
    simp only [hRead, hCompletes, Bool.false_eq_true,
      iff_false]
    rintro ⟨r, hParse⟩
    cases hParse

end Regex

end SqlAudit
