import SqlAudit.Proofs.Regex.Part

/-
  The parser reads one part in one step.

  Whatever stands behind a part, one step of the parser takes
  the lexemes of the part and no others, and what it makes of
  them depends on the part only.

  Key theorems include:
    * `SqlAudit.Regex.readClass_entries`
    * `SqlAudit.Regex.parseFrom_piece`
    * `SqlAudit.Regex.parseFrom_opening`
    * `SqlAudit.Regex.parseFrom_rounds`
    * `SqlAudit.Regex.repeatLast_solid`
-/

------------------------------------------------------------
-- Reading A Class
------------------------------------------------------------

namespace SqlAudit

namespace Regex

/- Only letters begin the number or the name of another. -/
theorem readNumber?_of_not_alphanum
    (finish : Nat)
    (l : Lexeme)
    {c : Char}
    (rest : List Lexeme)
    (hOther : c.isAlphanum = false) :
    readNumber? finish l c rest = .ok none := by
  have hHex : hexLength? c = none := by
    unfold hexLength?
    split
    · exact absurd hOther (by decide)
    · exact absurd hOther (by decide)
    · exact absurd hOther (by decide)
    · rfl
  have hName : c ≠ 'N' := by
    rintro rfl
    exact absurd hOther (by decide)
  simp [readNumber?, hHex, hName]

theorem isOctal_of_not_alphanum
    {c : Char}
    (hOther : c.isAlphanum = false) :
    isOctal c = false := by
  have hDigit : c.isDigit = false := by
    simp only [Char.isAlphanum, Bool.or_eq_false_iff] at hOther
    exact hOther.2
  simp only [Char.isDigit, Bool.and_eq_false_iff,
    decide_eq_false_iff_not] at hDigit
  simp only [isOctal, Bool.and_eq_false_iff,
    decide_eq_false_iff_not]
  rcases hDigit with hBelow | hAbove
  · exact .inl hBelow
  · refine .inr fun hLe => hAbove ?_
    exact UInt32.le_trans hLe (by decide)

/- An escape in a class is read without what follows it. -/
theorem readEntry_escaped
    (finish : Nat)
    (n : Nat)
    {c : Char}
    (rest : List Lexeme)
    (hSpelled : entersEscaped c = true) :
    ∃ a : ClassEntry,
      readEntry finish .full ⟨.escaped c, n⟩ rest =
          .ok (a, rest) ∧
        a.item = (Entry.escaped c).item := by
  unfold readEntry escapedEntry
  cases hControl : control? c with
  | some d =>
      exact ⟨.code d.toNat, by simp [hControl, pure, Except.pure],
        by simp [Entry.item, hControl, ClassEntry.item]⟩
  | none =>
      cases hKind : kindItem? .full c with
      | some item =>
          exact ⟨.kind item,
            by simp [hControl, hKind, pure, Except.pure],
            by simp [Entry.item, hControl, hKind,
              ClassEntry.item]⟩
      | none =>
          by_cases hBack : c = 'b'
          · subst hBack
            exact ⟨.code 8, rfl, rfl⟩
          · have hOther : c.isAlphanum = false := by
              simpa [entersEscaped, hControl, hKind, hBack]
                using hSpelled
            refine ⟨.code c.toNat, ?_, ?_⟩
            · simp [hControl, hKind, hBack,
                readNumber?_of_not_alphanum,
                isOctal_of_not_alphanum, hOther, bind,
                Except.bind, pure, Except.pure]
            · simp [Entry.item, hControl, hKind, hBack,
                ClassEntry.item]

/- An entry begins with neither a dash nor a caret. -/
theorem Entry.head_forms
    (entry : Entry)
    (hSpelled : entry.Spelled) :
    ∃ form forms,
      entry.forms = form :: forms ∧
        form ≠ .plain '-' ∧ form ≠ .plain '^' := by
  cases entry with
  | single c =>
      refine ⟨.plain c, [], rfl, ?_, ?_⟩
      · rintro ⟨⟩
        exact hSpelled (by decide)
      · rintro ⟨⟩
        exact hSpelled (by decide)
  | escaped c => exact ⟨.escaped c, [], rfl, by simp⟩
  | range first last =>
      refine ⟨.plain first, _, rfl, ?_, ?_⟩
      · rintro ⟨⟩
        exact hSpelled.1 (by decide)
      · rintro ⟨⟩
        exact hSpelled.1 (by decide)

theorem head_entries
    {entries : List Entry}
    (hSpelled : ∀ entry ∈ entries, entry.Spelled)
    (forms : List Lexeme.Form) :
    ∃ form rest,
      entries.flatMap Entry.forms ++ .plain ']' :: forms =
          form :: rest ∧
        form ≠ .plain '-' ∧ form ≠ .plain '^' := by
  cases entries with
  | nil =>
      exact ⟨.plain ']', forms, rfl, by decide, by decide⟩
  | cons entry entries =>
      rcases entry.head_forms (hSpelled entry (by simp)) with
        ⟨form, others, hForms, hHead⟩
      exact ⟨form, _, by simp [hForms]; rfl, hHead⟩

/- A round of reading takes one entry. -/
theorem readItems_entry
    (finish : Nat)
    (opened : Lexeme)
    (fuel n : Nat)
    (items : List ClassItem)
    {entry : Entry}
    (hSpelled : entry.Spelled)
    {next : Lexeme}
    {after : List Lexeme}
    (hTaken : taken (next :: after) = .ok (next :: after))
    (hDash : next.form ≠ .plain '-') :
    readItems finish .full opened (fuel + 1) items
        (lexemesOf n entry.forms ++ next :: after) =
      readItems finish .full opened fuel
        (entry.item :: items) (next :: after) := by
  cases entry with
  | single c =>
      have hOpen : c ≠ ']' := by
        rintro rfl
        exact hSpelled (by decide)
      simp [readItems, readEntry, Entry.forms, Entry.item,
        ClassEntry.item, Lexeme.isPlain, hTaken, hOpen, hDash,
        bind, Except.bind]
  | escaped c =>
      rcases readEntry_escaped finish n (next :: after)
        hSpelled with ⟨a, hEntry, hItem⟩
      simp [readItems, Entry.forms, Lexeme.isPlain, hTaken,
        hEntry, hItem, hDash, bind, Except.bind]
  | range first last =>
      rcases hSpelled with ⟨hFirst, hLast, hOrder⟩
      have hFirstOpen : first ≠ ']' := by
        rintro rfl
        exact hFirst (by decide)
      have hLastOpen : last ≠ ']' := by
        rintro rfl
        exact hLast (by decide)
      simp [readItems, readEntry, Entry.forms, Entry.item,
        rangeItem, Lexeme.isPlain, hTaken, hFirstOpen,
        hLastOpen, Nat.not_lt.mpr hOrder, bind, Except.bind]

/- The entries of a class are read up to its bracket. -/
theorem readItems_entries
    (finish : Nat)
    (opened : Lexeme)
    {entries : List Entry}
    (hSpelled : ∀ entry ∈ entries, entry.Spelled)
    {forms : List Lexeme.Form}
    (hSettled : ∀ form ∈ forms, form.Settled)
    (items : List ClassItem)
    (hSome : items ≠ [] ∨ entries ≠ [])
    (n fuel : Nat)
    (hFuel : entries.length < fuel) :
    ∃ m,
      readItems finish .full opened fuel items
          (lexemesOf n (entries.flatMap Entry.forms ++
            .plain ']' :: forms)) =
        .ok (items.reverse ++ entries.map Entry.item,
          lexemesOf m forms) := by
  induction entries generalizing items n fuel with
  | nil =>
      cases fuel with
      | zero => cases hFuel
      | succ fuel =>
          have hItems : items ≠ [] := by simpa using hSome
          refine ⟨n + 1, ?_⟩
          simp [readItems, taken_lexemesOf _ hSettled, hItems, bind,
            Except.bind, pure, Except.pure, Lexeme.isPlain,
            Lexeme.Form.text]
  | cons entry entries ih =>
      cases fuel with
      | zero => cases hFuel
      | succ fuel =>
          have hOthers : ∀ entry ∈ entries, entry.Spelled :=
            fun other hMem => hSpelled other (by simp [hMem])
          have hBehind := settled_entries hOthers hSettled
          have hLess : entries.length < fuel := by
            simpa using hFuel
          rcases head_entries hOthers forms with
            ⟨form, rest, hForms, hDash, _⟩
          have hTaken := taken_lexemesOf
            (n + (entry.forms.flatMap Lexeme.Form.text).length)
            hBehind
          rw [hForms, lexemesOf_cons] at hTaken
          rcases ih hOthers (entry.item :: items)
              (.inl (by simp)) _ fuel hLess with ⟨m, hRest⟩
          refine ⟨m, ?_⟩
          rw [List.flatMap_cons, List.append_assoc,
            lexemesOf_append, hForms, lexemesOf_cons,
            readItems_entry finish opened fuel n items
              (hSpelled entry (by simp)) hTaken hDash,
            ← lexemesOf_cons, ← hForms, hRest]
          simp

theorem length_le_flatMap_forms
    (entries : List Entry) :
    entries.length ≤ (entries.flatMap Entry.forms).length := by
  induction entries with
  | nil => simp
  | cons entry entries ih =>
      have hOne : 1 ≤ entry.forms.length := by
        cases entry <;> simp [Entry.forms]
      simp only [List.length_cons, List.flatMap_cons,
        List.length_append]
      omega

/- A class is read from its first entry on. -/
theorem readClass_entries
    (finish : Nat)
    (opened : Lexeme)
    (negated : Bool)
    {entries : List Entry}
    (hSome : entries ≠ [])
    (hSpelled : ∀ entry ∈ entries, entry.Spelled)
    {forms : List Lexeme.Form}
    (hSettled : ∀ form ∈ forms, form.Settled)
    (n : Nat) :
    ∃ m,
      readClass finish {} opened
          (lexemesOf n ((if negated then [.plain '^'] else []) ++
            (entries.flatMap Entry.forms ++ .plain ']' :: forms))) =
        .ok (⟨negated, entries.map Entry.item, .exact⟩,
          lexemesOf m forms) := by
  have hTaken := taken_lexemesOf (n + 1)
    (settled_entries hSpelled hSettled)
  have hFuel :
      entries.length <
        (entries.flatMap Entry.forms ++
          .plain ']' :: forms).length := by
    have hLess := length_le_flatMap_forms entries
    simp only [List.length_append, List.length_cons]
    omega
  cases negated with
  | true =>
      rcases readItems_entries finish opened hSpelled hSettled
        [] (.inr hSome) (n + 1) _ hFuel with ⟨m, hItems⟩
      refine ⟨m, ?_⟩
      simp only [readClass, if_true, List.singleton_append,
        lexemesOf_cons, Lexeme.isPlain, Lexeme.Form.text,
        List.length_singleton, beq_self_eq_true, hTaken, bind,
        Except.bind, pure, Except.pure, length_lexemesOf,
        hItems, List.reverse_nil, List.nil_append, Mode.letters]
  | false =>
      rcases readItems_entries finish opened hSpelled hSettled
        [] (.inr hSome) n _ hFuel with ⟨m, hItems⟩
      refine ⟨m, ?_⟩
      rcases head_entries hSpelled forms with
        ⟨form, rest, hForms, _, hCaret⟩
      rw [hForms, List.length_cons, lexemesOf_cons] at hItems
      simp [readClass, hForms, hCaret, hItems, Lexeme.isPlain,
        bind, Except.bind, pure, Except.pure, Mode.letters]

end Regex

end SqlAudit

------------------------------------------------------------
-- Reading A Piece
------------------------------------------------------------

namespace SqlAudit

namespace Regex

/- An escape is read without what follows it. -/
theorem readEscaped_of_standsEscaped
    (finish : Nat)
    (memory : Memory)
    (l : Lexeme)
    {c : Char}
    {piece : Piece}
    (rest : List Lexeme)
    (hSpelled : standsEscaped c = true)
    (hPiece : (Part.escaped c).piece? = some piece) :
    readEscaped finish {} memory l c rest =
      .ok (piece, rest) := by
  unfold readEscaped
  cases hKind : kindItem? .full c with
  | some item =>
      have hSame : Piece.ofItem {} item = piece := by
        simpa [Part.piece?, hKind] using hPiece
      simp [hSame, pure, Except.pure]
  | none =>
      cases hAnchor : anchor? .full c with
      | some a =>
          have hSame : ⟨.anchor, .anchor a⟩ = piece := by
            simpa [Part.piece?, hKind, hAnchor] using hPiece
          simp [hSame, pure, Except.pure]
      | none =>
          cases hControl : control? c with
          | some d =>
              have hSame :
                  Piece.ofItem {} (.single d) = piece := by
                simpa [Part.piece?, hKind, hAnchor, hControl]
                  using hPiece
              simp [hSame, pure, Except.pure]
          | none =>
              have hSame :
                  Piece.ofItem {} (.single c) = piece := by
                simpa [Part.piece?, hKind, hAnchor, hControl]
                  using hPiece
              have hOther : c.isAlphanum = false := by
                simpa [standsEscaped, hKind, hAnchor,
                  hControl] using hSpelled
              have hApart := hOther
              simp only [Char.isAlphanum,
                Bool.or_eq_false_iff] at hApart
              have hZero : c ≠ '0' := by
                rintro rfl
                exact absurd hOther (by decide)
              simp [hSame, hZero, hApart, hOther,
                readNumber?_of_not_alphanum, bind,
                Except.bind, pure, Except.pure]

/- A character that is no operator is a piece. -/
theorem Progress.plain_literal
    (p : Progress)
    (finish : Nat)
    (l : Lexeme)
    {c : Char}
    (rest : List Lexeme)
    (hSpelled : c ∉ operators) :
    p.plain finish l c rest =
      .ok (p.withLevel (p.level.pushItem (.single c)), rest) := by
  have hMark : markBounds? c = none := by
    unfold markBounds?
    split
    · exact absurd (by decide) hSpelled
    · exact absurd (by decide) hSpelled
    · exact absurd (by decide) hSpelled
    · rfl
  unfold Progress.plain
  split
  · exact absurd (by decide) hSpelled
  · exact absurd (by decide) hSpelled
  · exact absurd (by decide) hSpelled
  · exact absurd (by decide) hSpelled
  · exact absurd (by decide) hSpelled
  · exact absurd (by decide) hSpelled
  · simp [hMark, pure, Except.pure]

/- One step of the parser, at a bare character. -/
theorem parseFrom_plain
    (finish fuel n : Nat)
    {p : Progress}
    (hMode : p.level.mode = {})
    {c : Char}
    (hBar : c ≠ '|')
    (hClose : c ≠ ')')
    {forms : List Lexeme.Form}
    (hSettled : ∀ form ∈ forms, form.Settled) :
    parseFrom finish (fuel + 1) p
        (lexemesOf n (.plain c :: forms)) =
      p.plain finish ⟨.plain c, n⟩ c (lexemesOf (n + 1) forms)
        >>= fun next => parseFrom finish fuel next.1 next.2 := by
  have hTaken := taken_lexemesOf (n + 1) hSettled
  simp [parseFrom, Progress.step, Lexeme.Form.text, hTaken,
    hMode, bind, Except.bind]

/- A part that is a piece is read in one step. -/
theorem parseFrom_piece
    (finish fuel n : Nat)
    (p : Progress)
    (hMode : p.level.mode = {})
    {part : Part}
    (hSpelled : part.Spelled)
    {piece : Piece}
    (hPiece : part.piece? = some piece)
    {forms : List Lexeme.Form}
    (hSettled : ∀ form ∈ forms, form.Settled) :
    ∃ m,
      parseFrom finish (fuel + 1) p
          (lexemesOf n (part.forms ++ forms)) =
        parseFrom finish fuel
          (p.withLevel (p.level.push piece.kind piece.regex))
          (lexemesOf m forms) := by
  cases part with
  | literal c =>
      have hSpelled : c ∉ operators := hSpelled
      have hSame : Piece.ofItem {} (.single c) = piece := by
        simpa [Part.piece?] using hPiece
      have hBar : c ≠ '|' := by
        rintro rfl
        exact hSpelled (by decide)
      have hClose : c ≠ ')' := by
        rintro rfl
        exact hSpelled (by decide)
      refine ⟨n + 1, ?_⟩
      rw [Part.forms, List.singleton_append,
        parseFrom_plain finish fuel n hMode hBar hClose hSettled,
        p.plain_literal _ _ _ hSpelled, ← hSame]
      simp [Level.pushItem, Piece.ofItem, hMode, bind,
        Except.bind]
  | escaped c =>
      refine ⟨n + 2, ?_⟩
      simp [parseFrom, Progress.step, Part.forms,
        Lexeme.Form.text, taken_lexemesOf (n + 2) hSettled,
        hMode, readEscaped_of_standsEscaped _ _ _ _ hSpelled
        hPiece, bind, Except.bind, pure, Except.pure]
  | any =>
      cases hPiece
      refine ⟨n + 1, ?_⟩
      rw [Part.forms, List.singleton_append,
        parseFrom_plain finish fuel n hMode (by decide)
          (by decide) hSettled]
      simp [Progress.plain, hMode, bind, Except.bind, pure,
        Except.pure]
  | start =>
      cases hPiece
      refine ⟨n + 1, ?_⟩
      rw [Part.forms, List.singleton_append,
        parseFrom_plain finish fuel n hMode (by decide)
          (by decide) hSettled]
      simp [Progress.plain, hMode, bind, Except.bind, pure,
        Except.pure]
  | finish =>
      cases hPiece
      refine ⟨n + 1, ?_⟩
      rw [Part.forms, List.singleton_append,
        parseFrom_plain finish fuel n hMode (by decide)
          (by decide) hSettled]
      simp [Progress.plain, hMode, bind, Except.bind, pure,
        Except.pure]
  | bracket negated entries =>
      cases hPiece
      rcases hSpelled with ⟨hSome, hEntries⟩
      rcases readClass_entries finish ⟨.plain '[', n⟩ negated
        hSome hEntries hSettled (n + 1) with ⟨m, hClass⟩
      refine ⟨m, ?_⟩
      rw [Part.forms, List.cons_append, List.append_assoc,
        List.append_assoc, List.singleton_append,
        parseFrom_plain finish fuel n hMode (by decide)
          (by decide)
          (settled_class negated hEntries hSettled)]
      simp [Progress.plain, hMode, hClass, bind, Except.bind,
        pure, Except.pure]
  | opening kind => cases hPiece
  | closing => cases hPiece
  | bar => cases hPiece
  | repeated rounds greed => cases hPiece

end Regex

end SqlAudit

------------------------------------------------------------
-- Reading Parentheses And Bars
------------------------------------------------------------

namespace SqlAudit

namespace Regex

/- The bracket that a parenthesis opens. -/
def Parenthesis.bracket
    (memory : Memory) : Parenthesis → Bracket
| .remembering => .capture memory.next
| .plain => .plain
| .atomic => .atomic
| .ahead wanted => .look wanted false false

/- What is known once the parenthesis is open. -/
def Parenthesis.opened
    (memory : Memory) : Parenthesis → Memory
| .remembering => memory.openGroup none
| _ => memory

/- What a parenthesis is for is read up to its last mark. -/
theorem readOpening_marks
    (finish n : Nat)
    (memory : Memory)
    (opened : Lexeme)
    (kind : Parenthesis)
    {forms : List Lexeme.Form}
    (hSettled : ∀ form ∈ forms, form.Settled)
    (hNext : forms.head? ≠ some (.plain '?')) :
    ∃ m,
      readOpening finish {} memory opened
          (lexemesOf n (kind.marks ++ forms)) =
        .ok (.bracket (kind.bracket memory) {},
          kind.opened memory, lexemesOf m forms) := by
  have hTaken := taken_lexemesOf (n + 2) hSettled
  cases kind with
  | remembering =>
      refine ⟨n, ?_⟩
      cases forms with
      | nil => rfl
      | cons form forms =>
          have hForm : form ≠ .plain '?' := by
            simpa using hNext
          simp [readOpening, Parenthesis.marks,
            Lexeme.isPlain, hForm, Parenthesis.bracket,
            Parenthesis.opened, pure, Except.pure]
  | plain =>
      refine ⟨n + 2, ?_⟩
      simp [readOpening, readMarked, Parenthesis.marks,
        Lexeme.isPlain, Lexeme.plain?, Lexeme.Form.text,
        hTaken, Parenthesis.bracket, Parenthesis.opened, bind,
        Except.bind, pure, Except.pure]
  | atomic =>
      refine ⟨n + 2, ?_⟩
      simp [readOpening, readMarked, Parenthesis.marks,
        Lexeme.isPlain, Lexeme.plain?, Lexeme.Form.text,
        hTaken, Parenthesis.bracket, Parenthesis.opened, bind,
        Except.bind, pure, Except.pure]
  | ahead wanted =>
      refine ⟨n + 2, ?_⟩
      cases wanted <;>
        simp [readOpening, readMarked, Parenthesis.marks,
          Lexeme.isPlain, Lexeme.plain?, Lexeme.Form.text,
          hTaken, Parenthesis.bracket, Parenthesis.opened,
          bind, Except.bind, pure, Except.pure]

/- An opening parenthesis is read in one step. -/
theorem parseFrom_opening
    (finish fuel n : Nat)
    (p : Progress)
    (hMode : p.level.mode = {})
    (kind : Parenthesis)
    {forms : List Lexeme.Form}
    (hSettled : ∀ form ∈ forms, form.Settled)
    (hNext : forms.head? ≠ some (.plain '?')) :
    ∃ m,
      parseFrom finish (fuel + 1) p
          (lexemesOf n ((Part.opening kind).forms ++ forms)) =
        parseFrom finish fuel
          ⟨⟨⟨.plain '(', n⟩, kind.bracket p.memory, p.level⟩ ::
            p.frames, .start {}, kind.opened p.memory⟩
          (lexemesOf m forms) := by
  rcases readOpening_marks finish (n + 1) p.memory
    ⟨.plain '(', n⟩ kind hSettled hNext with ⟨m, hOpening⟩
  have hMarks : ∀ form ∈ kind.marks ++ forms,
      form.Settled := by
    intro form hMem
    rcases List.mem_append.mp hMem with hMark | hRest
    · exact kind.settled form hMark
    · exact hSettled form hRest
  refine ⟨m, ?_⟩
  rw [Part.forms, List.cons_append,
    parseFrom_plain finish fuel n hMode (by decide)
      (by decide) hMarks]
  simp [Progress.plain, hMode, hOpening, Progress.enter, bind,
    Except.bind, pure, Except.pure]

/- A bar is read in one step. -/
theorem parseFrom_bar
    (finish fuel n : Nat)
    (p : Progress)
    {forms : List Lexeme.Form}
    (hSettled : ∀ form ∈ forms, form.Settled) :
    parseFrom finish (fuel + 1) p
        (lexemesOf n (.plain '|' :: forms)) =
      p.alternate ⟨.plain '|', n⟩ >>= fun p =>
        parseFrom finish fuel p (lexemesOf (n + 1) forms) := by
  have hTaken := taken_lexemesOf (n + 1) hSettled
  cases hNext : p.alternate ⟨.plain '|', n⟩ with
  | error e =>
      simp [parseFrom, Progress.step, hNext, bind, Except.bind]
  | ok q =>
      simp [parseFrom, Progress.step, Lexeme.Form.text, hTaken,
        hNext, bind, Except.bind, pure, Except.pure]

/- A closing parenthesis is read in one step. -/
theorem parseFrom_closing
    (finish fuel n : Nat)
    (p : Progress)
    {forms : List Lexeme.Form}
    (hSettled : ∀ form ∈ forms, form.Settled) :
    parseFrom finish (fuel + 1) p
        (lexemesOf n (.plain ')' :: forms)) =
      p.close ⟨.plain ')', n⟩ >>= fun p =>
        parseFrom finish fuel p (lexemesOf (n + 1) forms) := by
  have hTaken := taken_lexemesOf (n + 1) hSettled
  cases hNext : p.close ⟨.plain ')', n⟩ with
  | error e =>
      simp [parseFrom, Progress.step, hNext, bind, Except.bind]
  | ok q =>
      simp [parseFrom, Progress.step, Lexeme.Form.text, hTaken,
        hNext, bind, Except.bind, pure, Except.pure]

end Regex

end SqlAudit

------------------------------------------------------------
-- Reading A Repetition
------------------------------------------------------------

namespace SqlAudit

namespace Regex

theorem roundsOf?_of_isCount
    {ds : List Char}
    (hCount : IsCount ds) :
    roundsOf? ds =
      .ok (if ds.isEmpty then none
        else some (numberOf 10 ds)) := by
  rcases hCount with ⟨_, hLength, hLimit⟩
  unfold roundsOf?
  cases ds with
  | nil => rfl
  | cons d ds =>
      simp only [List.isEmpty_cons, Bool.false_eq_true,
        if_false, Nat.not_lt.mpr hLength,
        Nat.not_le.mpr hLimit]

/- Digits are read up to what is none. -/
theorem digits_map_plain
    (n : Nat)
    {ds : List Char}
    (hDigits : ds.all Char.isDigit = true)
    (c : Char)
    (hEnd : c.isDigit = false)
    (forms : List Lexeme.Form) :
    digits (lexemesOf n (ds.map .plain ++ .plain c :: forms)) =
      (ds, lexemesOf (n + ds.length) (.plain c :: forms)) := by
  induction ds generalizing n with
  | nil =>
      simp [digits, Lexeme.plain?, Option.filter_some, hEnd]
  | cons d ds ih =>
      simp only [List.all_cons, Bool.and_eq_true] at hDigits
      have hRest := ih (n + 1) hDigits.2
      have hLength : n + 1 + ds.length =
          n + (d :: ds).length := by
        simp only [List.length_cons]
        omega
      rw [hLength] at hRest
      simp only [List.map_cons, List.cons_append,
        lexemesOf_cons n, digits, Lexeme.plain?,
        Option.filter_some, hDigits.1, if_true,
        Lexeme.Form.text, List.length_singleton, hRest]

theorem bounds?_exactly
    (n : Nat)
    {count : List Char}
    (hSome : count ≠ [])
    (hCount : IsCount count)
    (forms : List Lexeme.Form) :
    ∃ m,
      bounds? (lexemesOf n
          (count.map .plain ++ .plain '\x7d' :: forms)) =
        some (count, count, lexemesOf m forms) := by
  refine ⟨n + count.length + 1, ?_⟩
  simp [bounds?, digits_map_plain n hCount.1 '\x7d' rfl,
    Lexeme.isPlain, Lexeme.Form.text, hSome]

theorem bounds?_between
    (n : Nat)
    {low high : List Char}
    (hLow : IsCount low)
    (hHigh : IsCount high)
    (forms : List Lexeme.Form) :
    ∃ m,
      bounds? (lexemesOf n (low.map .plain ++
          .plain ',' :: (high.map .plain ++
            .plain '\x7d' :: forms))) =
        some (low, high, lexemesOf m forms) := by
  refine ⟨n + low.length + 1 + high.length + 1, ?_⟩
  simp [bounds?, digits_map_plain _ hLow.1 ',' rfl,
    digits_map_plain _ hHigh.1 '\x7d' rfl,
    Lexeme.isPlain, Lexeme.Form.text]

/- The numbers of a repetition are read with their braces. -/
theorem brace_exactly
    (level : Level)
    (l : Lexeme)
    (n : Nat)
    {count : List Char}
    (hSome : count ≠ [])
    (hCount : IsCount count)
    {forms : List Lexeme.Form}
    (hSettled : ∀ form ∈ forms, form.Settled) :
    ∃ m,
      level.brace l (lexemesOf n
          (count.map .plain ++ .plain '\x7d' :: forms)) =
        level.repeatLast l (numberOf 10 count)
          (some (numberOf 10 count)) (lexemesOf m forms) := by
  rcases bounds?_exactly n hSome hCount forms with
    ⟨m, hBounds⟩
  refine ⟨m, ?_⟩
  simp [Level.brace, hBounds, taken_lexemesOf m hSettled,
    roundsOf?_of_isCount hCount, hSome, bind, Except.bind]

theorem brace_between
    (level : Level)
    (l : Lexeme)
    (n : Nat)
    {low high : List Char}
    (hLow : IsCount low)
    (hHigh : IsCount high)
    (hOrder : high = [] ∨ numberOf 10 low ≤ numberOf 10 high)
    {forms : List Lexeme.Form}
    (hSettled : ∀ form ∈ forms, form.Settled) :
    ∃ m,
      level.brace l (lexemesOf n (low.map .plain ++
          .plain ',' :: (high.map .plain ++
            .plain '\x7d' :: forms))) =
        level.repeatLast l (numberOf 10 low)
          (if high.isEmpty then none
            else some (numberOf 10 high))
          (lexemesOf m forms) := by
  rcases bounds?_between n hLow hHigh forms with
    ⟨m, hBounds⟩
  refine ⟨m, ?_⟩
  have hLeast :
      ((if low.isEmpty then none
        else some (numberOf 10 low)).getD 0) =
          numberOf 10 low := by
    cases low with
    | nil => rfl
    | cons d ds => rfl
  have hMost :
      ((if high.isEmpty then none
        else some (numberOf 10 high)).any
          (· < numberOf 10 low)) = false := by
    rcases hOrder with rfl | hLe
    · rfl
    · cases high with
      | nil => rfl
      | cons d ds => simpa using hLe
  simp only [Level.brace, hBounds, taken_lexemesOf m hSettled,
    roundsOf?_of_isCount hLow, roundsOf?_of_isCount hHigh,
    bind, Except.bind, hLeast, hMost, Bool.false_eq_true,
    if_false]

theorem Progress.plain_mark
    (p : Progress)
    (finish : Nat)
    (l : Lexeme)
    {c : Char}
    {least : Nat}
    {most : Option Nat}
    (rest : List Lexeme)
    (hBounds : markBounds? c = some (least, most)) :
    p.plain finish l c rest =
      p.level.repeatLast l least most rest >>= fun next =>
        .ok (p.withLevel next.1, next.2) := by
  unfold markBounds? at hBounds
  split at hBounds
  · cases hBounds
    rfl
  · cases hBounds
    rfl
  · cases hBounds
    rfl
  · cases hBounds

theorem Progress.plain_brace
    (p : Progress)
    (finish : Nat)
    (l : Lexeme)
    (rest : List Lexeme) :
    p.plain finish l '\x7b' rest =
      p.level.brace l rest >>= fun next =>
        .ok (p.withLevel next.1, next.2) := rfl

/- A repetition is read in one step, but for its greed. -/
theorem parseFrom_rounds
    (finish fuel n : Nat)
    (p : Progress)
    (hMode : p.level.mode = {})
    {rounds : Rounds}
    (hSpelled : rounds.Spelled)
    {forms : List Lexeme.Form}
    (hSettled : ∀ form ∈ forms, form.Settled) :
    ∃ l m,
      parseFrom finish (fuel + 1) p
          (lexemesOf n (rounds.forms ++ forms)) =
        p.level.repeatLast l rounds.bounds.1 rounds.bounds.2
            (lexemesOf m forms) >>= fun next =>
          parseFrom finish fuel (p.withLevel next.1)
            next.2 := by
  have hBrace :
      ∀ form ∈ rounds.forms.tail ++ forms, form.Settled := by
    intro form hMem
    rcases List.mem_append.mp hMem with hRounds | hRest
    · exact Rounds.settled hSpelled form
        (List.mem_of_mem_tail hRounds)
    · exact hSettled form hRest
  cases rounds with
  | star =>
      refine ⟨⟨.plain '*', n⟩, n + 1, ?_⟩
      rw [Rounds.forms, List.singleton_append,
        parseFrom_plain finish fuel n hMode (by decide)
          (by decide) hSettled, p.plain_mark _ _ _ rfl, bind_assoc]
      rfl
  | plus =>
      refine ⟨⟨.plain '+', n⟩, n + 1, ?_⟩
      rw [Rounds.forms, List.singleton_append,
        parseFrom_plain finish fuel n hMode (by decide)
          (by decide) hSettled, p.plain_mark _ _ _ rfl, bind_assoc]
      rfl
  | option =>
      refine ⟨⟨.plain '?', n⟩, n + 1, ?_⟩
      rw [Rounds.forms, List.singleton_append,
        parseFrom_plain finish fuel n hMode (by decide)
          (by decide) hSettled, p.plain_mark _ _ _ rfl, bind_assoc]
      rfl
  | exactly count =>
      rcases hSpelled with ⟨hSome, hCount⟩
      rcases brace_exactly p.level ⟨.plain '\x7b', n⟩ (n + 1)
        hSome hCount hSettled with ⟨m, hRead⟩
      refine ⟨⟨.plain '\x7b', n⟩, m, ?_⟩
      simp only [Rounds.forms, List.tail_cons, List.append_assoc,
        List.singleton_append] at hBrace
      rw [Rounds.forms, List.cons_append, List.append_assoc,
        List.singleton_append, parseFrom_plain finish fuel n hMode
          (by decide) (by decide) hBrace, p.plain_brace, hRead,
        bind_assoc]
      rfl
  | between low high =>
      rcases hSpelled with ⟨hLow, hHigh, hOrder⟩
      rcases brace_between p.level ⟨.plain '\x7b', n⟩ (n + 1)
        hLow hHigh hOrder hSettled with ⟨m, hRead⟩
      refine ⟨⟨.plain '\x7b', n⟩, m, ?_⟩
      simp only [Rounds.forms, List.tail_cons, List.append_assoc,
        List.cons_append, List.nil_append] at hBrace
      simp only [Rounds.forms, List.append_assoc,
        List.cons_append, List.nil_append]
      rw [parseFrom_plain finish fuel n hMode (by decide)
          (by decide) hBrace, p.plain_brace, hRead, bind_assoc]
      rfl

/- Only a solid piece can be repeated. -/
theorem repeatLast_solid
    {level : Level}
    {r : Regex}
    {pieces : List Piece}
    (hPieces : level.pieces = ⟨.solid, r⟩ :: pieces)
    (l : Lexeme)
    (least : Nat)
    (most : Option Nat)
    (greed : Greed)
    (n : Nat)
    {forms : List Lexeme.Form}
    (hSettled : ∀ form ∈ forms, form.Settled)
    (hNext : ∀ c ∈ ['?', '+'], forms.head? ≠ some (.plain c)) :
    ∃ m,
      level.repeatLast l least most
          (lexemesOf n (greedForms greed ++ forms)) =
        .ok ({ level with
            pieces := ⟨.repetition,
              .repeated r least most greed⟩ :: pieces },
          lexemesOf m forms) := by
  cases greed with
  | greedy =>
      refine ⟨n, ?_⟩
      cases forms with
      | nil =>
          simp [Level.repeatLast, hPieces, greedForms, Level.push,
            pure, Except.pure]
      | cons form forms =>
          have hQuestion : form ≠ .plain '?' := by
            simpa using hNext '?' (by simp)
          have hPlus : form ≠ .plain '+' := by
            simpa using hNext '+' (by simp)
          simp [Level.repeatLast, hPieces, greedForms, Level.push,
            Lexeme.isPlain, hQuestion, hPlus, pure, Except.pure]
  | frugal =>
      refine ⟨n + 1, ?_⟩
      simp [Level.repeatLast, hPieces, greedForms, Level.push,
        Lexeme.isPlain, Lexeme.Form.text,
        taken_lexemesOf (n + 1) hSettled, bind, Except.bind,
        pure, Except.pure]
  | possessive =>
      refine ⟨n + 1, ?_⟩
      simp [Level.repeatLast, hPieces, greedForms, Level.push,
        Lexeme.isPlain, Lexeme.Form.text,
        taken_lexemesOf (n + 1) hSettled, bind, Except.bind,
        pure, Except.pure]

theorem repeatLast_refused
    {level : Level}
    (hLast : level.pieces.head?.map Piece.kind ≠ some .solid)
    (l : Lexeme)
    (least : Nat)
    (most : Option Nat)
    (rest : List Lexeme) :
    ∃ e, level.repeatLast l least most rest = .error e := by
  cases hPieces : level.pieces with
  | nil =>
      exact ⟨_, by simp [Level.repeatLast, hPieces, Lexeme.fail]; rfl⟩
  | cons piece pieces =>
      have hKind : piece.kind ≠ .solid := by
        simpa [hPieces] using hLast
      cases hCase : piece.kind with
      | solid => exact absurd hCase hKind
      | anchor =>
          exact ⟨_, by
            simp [Level.repeatLast, hPieces, hCase, Lexeme.fail]; rfl⟩
      | repetition =>
          exact ⟨_, by
            simp [Level.repeatLast, hPieces, hCase, Lexeme.fail]; rfl⟩

end Regex

end SqlAudit
