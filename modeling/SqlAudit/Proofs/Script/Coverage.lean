import Mathlib.Data.List.Chain
import SqlAudit.Proofs.Script.Placed
import SqlAudit.Proofs.Text.Squeeze

/-
  How much of a script its statements hold.

  Without the characters that open comments, a dialect passes
  over blanks only, and all else of a script comes back in its
  statements.  There is one exception: the remainder of a
  command is one token, which may begin after the remainder
  does, and what stands before that token is lost.

  Key definitions include:
    * `SqlAudit.Script.commentMarks`
    * `SqlAudit.Script.between`
    * `SqlAudit.Script.CommandsKept`

  Key theorems include:
    * `SqlAudit.Script.passable_blanks`
    * `SqlAudit.Script.squeeze_assemble`
    * `SqlAudit.Script.commandsKept_iff`
    * `SqlAudit.Script.squeeze_statements_eq_iff`
-/

------------------------------------------------------------
-- Scripts Without Comments
------------------------------------------------------------

namespace SqlAudit

/- A value chooses one of the dialects that have names. -/
theorem Dialect.mem_named_of_choose
    {value : Value}
    {d : Dialect}
    (hChosen : choose value = .ok d) :
    d ∈ named.map Prod.snd := by
  unfold choose at hChosen
  split_ifs at hChosen
  · cases hChosen
    simp [named]
  split at hChosen
  · split at hChosen
    · split at hChosen
      · rename_i hName
        split_ifs at hChosen
        cases hChosen
        rcases Option.map_eq_some_iff.mp hName with
          ⟨entry, hFound, rfl⟩
        exact List.mem_map_of_mem
          (List.mem_of_find?_eq_some hFound)
      · cases hChosen
    · cases hChosen
  · cases hChosen

namespace Script

/- Every comment or template has one of these at its front. -/
def commentMarks : List Char :=
  ['-', '/', '#', '\x7b']

theorem exists_commentMark
    {d : Dialect}
    {k : Comment}
    (hNamed : d ∈ Dialect.named.map Prod.snd)
    (hComment : k ∈ d.comments) :
    ∃ c ∈ k.opener, c ∈ commentMarks := by
  have hAll :
      (Dialect.named.map Prod.snd).all (fun d =>
        d.comments.all fun k =>
          k.opener.any commentMarks.contains) = true := by
    decide
  rw [List.all_eq_true] at hAll
  have hMarks := List.all_eq_true.mp (hAll d hNamed) k hComment
  simpa using hMarks

/-
  Where no character opens a comment, blanks are all that is
  passed over.
-/
theorem passable_blanks
    {text : List Char}
    {value : Value}
    {d : Dialect}
    (hChosen : Dialect.choose value = .ok d)
    (hMarks : ∀ c ∈ text, c ∉ commentMarks) :
    d.Passable text fun w => w.all Text.isBlank = true where
  blank := id
  append := by
    intro v w hv hw
    rw [List.all_append, hv, hw]
    rfl
  comment := by
    intro last w after hSuffix hSome hLexeme
    rcases (Dialect.lexeme_takes hSome hLexeme).comment rfl
      with ⟨k, hComment, hOpener⟩
    rcases exists_commentMark
      (Dialect.mem_named_of_choose hChosen) hComment with
      ⟨c, hMem, hMark⟩
    rcases hOpener c hMem with rfl | hText
    · exact absurd hMark (by decide)
    · exact absurd hMark (hMarks c (hSuffix.subset hText))

end Script

end SqlAudit

------------------------------------------------------------
-- Statements Without Blanks
------------------------------------------------------------

namespace SqlAudit.Script

open Text (squeeze IsAscii)

theorem squeeze_joinedAfter
    (text : List Char)
    (stop : Nat)
    (run : List Token) :
    squeeze (joinedAfter text stop run) =
      run.flatMap fun t => squeeze (t.slice text) := by
  induction run generalizing stop with
  | nil => rfl
  | cons t run ih =>
      have hSpace :
          squeeze (if t.start > stop then [' '] else []) =
            [] := by
        split_ifs <;> decide
      simp [joinedAfter, hSpace, ih]

theorem squeeze_joined
    (text : List Char)
    (run : List Token) :
    squeeze (joined text run) =
      run.flatMap fun t => squeeze (t.slice text) := by
  cases run with
  | nil => rfl
  | cons t run => simp [joined, squeeze_joinedAfter]

theorem isAscii_slice
    {text : List Char}
    (t : Token)
    (hAscii : IsAscii text) :
    IsAscii (t.slice text) := by
  intro c hc
  exact hAscii c
    (List.mem_of_mem_drop (List.mem_of_mem_take hc))

theorem isAscii_joinedAfter
    {text : List Char}
    (stop : Nat)
    (run : List Token)
    (hAscii : IsAscii text) :
    IsAscii (joinedAfter text stop run) := by
  induction run generalizing stop with
  | nil => exact Text.isAscii_nil
  | cons t run ih =>
      have hSpace :
          IsAscii (if t.start > stop then [' '] else []) := by
        split_ifs <;> decide
      rw [joinedAfter, Text.isAscii_append_iff,
        Text.isAscii_append_iff]
      exact ⟨⟨hSpace, isAscii_slice t hAscii⟩, ih t.stop⟩

theorem isAscii_joined
    {text : List Char}
    (run : List Token)
    (hAscii : IsAscii text) :
    IsAscii (joined text run) := by
  cases run with
  | nil => exact Text.isAscii_nil
  | cons t run =>
      rw [joined, Text.isAscii_append_iff]
      exact ⟨isAscii_slice t hAscii,
        isAscii_joinedAfter t.stop run hAscii⟩

/-
  Statements hold the words of all tokens but semicolons, in
  small letters.
-/
theorem squeeze_assemble
    {text : List Char}
    (tokens : List Token)
    (hAscii : IsAscii text) :
    squeeze (assemble text tokens).flatten =
      ((tokens.filter fun t => !t.isSemicolon).flatMap
        fun t => squeeze (t.slice text)).map
          Char.toLower := by
  have hRun :
      ∀ run, squeeze (normalize (joined text run)) =
        (run.flatMap fun t => squeeze (t.slice text)).map
          Char.toLower := by
    intro run
    rw [Text.squeeze_normalize (isAscii_joined run hAscii),
      squeeze_joined]
  rw [Text.squeeze_flatten, assemble, List.flatMap_map,
    ← flatten_pieces, ← List.flatMap_id, List.flatMap_assoc,
    List.map_flatMap]
  refine congrArg (List.flatMap · (runs tokens)) ?_
  funext run
  exact hRun run

end SqlAudit.Script

------------------------------------------------------------
-- Words And Losses
------------------------------------------------------------

namespace SqlAudit.Script

open Text (squeeze IsAscii)

variable {passes : List Char → Prop}

/- The text between two tokens. -/
def between
    (text : List Char)
    (t u : Token) : List Char :=
  (text.drop t.stop).take (u.start - t.stop)

/-
  Nothing but blanks and semicolons stands between a command
  and the token after it.
-/
def CommandsKept
    (text : List Char)
    (tokens : List Token) : Prop :=
  tokens.IsChain fun t u =>
    t.kind = .command → squeeze (between text t u) = []

instance
    (text : List Char)
    (tokens : List Token) :
    Decidable (CommandsKept text tokens) :=
  inferInstanceAs (Decidable (List.IsChain _ tokens))

theorem slice_token
    (before after : List Char)
    (s : Stretch) :
    (s.token before.length).slice
      (before ++ s.text ++ after) = s.word := by
  have hLength :
      before.length + s.text.length -
        (before.length + s.passed.length) = s.word.length := by
    rw [Stretch.length_text]
    omega
  rw [Token.slice, Stretch.token, hLength, Stretch.text]
  simp

theorem between_token
    {t : Token}
    {before : List Char}
    (after : List Char)
    (s : Stretch)
    (hStop : t.stop = before.length) :
    between (before ++ s.text ++ after) t
      (s.token before.length) = s.passed := by
  simp [between, Stretch.token, Stretch.text, hStop]

theorem append_written_cons
    (before after : List Char)
    (s : Stretch)
    (ss : List Stretch) :
    before ++ Stretch.written (s :: ss) ++ after =
      before ++ s.text ++ (Stretch.written ss ++ after) := by
  simp

/- Squeezed, the tokens of stretches are their words. -/
theorem squeeze_slices_place
    {last : Option Token.Kind}
    {ss : List Stretch}
    (before after : List Char)
    (hFollow : Stretch.Follow passes last ss) :
    ((Stretch.place before.length ss).filter
        fun t => !t.isSemicolon).flatMap (fun t =>
          squeeze (t.slice
            (before ++ Stretch.written ss ++ after))) =
      ss.flatMap fun s => squeeze s.word := by
  induction ss generalizing before last with
  | nil => rfl
  | cons s ss ih =>
      rcases hFollow with ⟨_, hSemicolon, hRest⟩
      have hTail := ih (before ++ s.text) hRest
      have hSlice :=
        slice_token before (Stretch.written ss ++ after) s
      rw [List.length_append] at hTail
      rw [List.append_assoc _ _ after] at hTail
      rw [append_written_cons, Stretch.place,
        List.flatMap_cons]
      by_cases hKind : s.kind = .semicolon
      · have hDropped :
            (!(s.token before.length).isSemicolon) = false := by
          simp [Token.isSemicolon, Stretch.token, hKind]
        have hWord : squeeze s.word = [] := by
          rw [hSemicolon hKind]
          decide
        rw [List.filter_cons_of_neg (by simp [hDropped]),
          hTail, hWord, List.nil_append]
      · have hKept :
            (!(s.token before.length).isSemicolon) = true := by
          simp [Token.isSemicolon, Stretch.token, hKind]
        rw [List.filter_cons_of_pos (by exact hKept),
          List.flatMap_cons, hSlice, hTail]

/-
  After a token, commands are kept where nothing visible is
  passed over.
-/
theorem commandsKept_cons_iff
    {ss : List Stretch}
    (before after : List Char)
    (t : Token)
    (hStop : t.stop = before.length)
    (hFollow :
      Stretch.Follow (fun w => w.all Text.isBlank = true)
        (some t.kind) ss) :
    CommandsKept (before ++ Stretch.written ss ++ after)
        (t :: Stretch.place before.length ss) ↔
      ∀ s ∈ ss, squeeze s.passed = [] := by
  induction ss generalizing before t with
  | nil => simp [CommandsKept, Stretch.place]
  | cons s ss ih =>
      rcases hFollow with ⟨hPassed, _, hRest⟩
      have hBetween := between_token
        (Stretch.written ss ++ after) s hStop
      have hTail := ih (before ++ s.text)
        (s.token before.length) (by simp [Stretch.token])
        hRest
      have hKept :
          (t.kind = .command → squeeze s.passed = []) ↔
            squeeze s.passed = [] := by
        rcases hPassed with hCommand | hBlank
        · simp [Option.some.inj hCommand]
        · simp [Text.squeeze_eq_nil hBlank]
      rw [List.length_append, List.append_assoc _ _ after,
        CommandsKept] at hTail
      rw [append_written_cons, CommandsKept, Stretch.place,
        List.isChain_cons_cons, hTail, hBetween, hKept,
        List.forall_mem_cons]

/-
  Commands are kept where nothing visible is passed over: only
  after a command can that be more than blanks.
-/
theorem commandsKept_iff
    {ss : List Stretch}
    (after : List Char)
    (hFollow :
      Stretch.Follow (fun w => w.all Text.isBlank = true)
        none ss) :
    CommandsKept (Stretch.written ss ++ after)
        (Stretch.place 0 ss) ↔
      ∀ s ∈ ss, squeeze s.passed = [] := by
  cases ss with
  | nil => simp [CommandsKept, Stretch.place]
  | cons s ss =>
      rcases hFollow with ⟨hPassed, _, hRest⟩
      have hBlank : squeeze s.passed = [] := by
        rcases hPassed with hCommand | hBlank
        · cases hCommand
        · exact Text.squeeze_eq_nil hBlank
      have hTail := commandsKept_cons_iff s.text after
        (s.token 0) (by simp [Stretch.token]) hRest
      rw [List.forall_mem_cons, Stretch.written_cons,
        Stretch.place, Nat.zero_add, hTail]
      simp [hBlank]

/- Squeezed, a text is made of its words and its losses. -/
theorem length_squeeze_written
    (ss : List Stretch) :
    (squeeze (Stretch.written ss)).length =
      (ss.flatMap fun s => squeeze s.passed).length +
        (ss.flatMap fun s => squeeze s.word).length := by
  induction ss with
  | nil => rfl
  | cons s ss ih =>
      simp only [Stretch.written_cons, Stretch.text,
        Text.squeeze_append, List.flatMap_cons,
        List.length_append, ih]
      omega

theorem words_sublist_written
    (ss : List Stretch) :
    (ss.flatMap fun s => squeeze s.word).Sublist
      (squeeze (Stretch.written ss)) := by
  induction ss with
  | nil => exact .slnil
  | cons s ss ih =>
      rw [Stretch.written_cons, Stretch.text,
        List.flatMap_cons, Text.squeeze_append,
        Text.squeeze_append]
      exact (List.sublist_append_right _ _).append ih

/- All is there where nothing was lost. -/
theorem words_eq_written_iff
    (ss : List Stretch) :
    (ss.flatMap fun s => squeeze s.word) =
        squeeze (Stretch.written ss) ↔
      ∀ s ∈ ss, squeeze s.passed = [] := by
  have hLength := length_squeeze_written ss
  constructor
  · intro hEq
    rw [← hEq] at hLength
    have hNil :
        (ss.flatMap fun s => squeeze s.passed) = [] :=
      List.eq_nil_of_length_eq_zero (by omega)
    exact List.flatMap_eq_nil_iff.mp hNil
  · intro hNil
    rw [← List.flatMap_eq_nil_iff] at hNil
    rw [hNil, List.length_nil, Nat.zero_add] at hLength
    exact (words_sublist_written ss).eq_of_length hLength.symm

end SqlAudit.Script

------------------------------------------------------------
-- Coverage Of A Script
------------------------------------------------------------

namespace SqlAudit.Script

open Text (squeeze IsAscii)

/-
  An ASCII script without the characters that open comments
  comes back in its statements, but for blanks, semicolons and
  letter case, exactly if its commands are kept.  Statements
  never hold more than the script.
-/
theorem squeeze_statements_eq_iff
    (text : List Char)
    (dialect : Value)
    (sts : List (List Char))
    (hAscii : IsAscii text)
    (hMarks : ∀ c ∈ text, c ∉ commentMarks)
    (hStatements : statements text dialect = .ok sts) :
    (squeeze sts.flatten).Sublist
        (squeeze (Text.lower text)) ∧
      ∃ d tokens,
        Dialect.choose dialect = .ok d ∧
          d.tokens text = .ok tokens ∧
          (squeeze sts.flatten =
              squeeze (Text.lower text) ↔
            CommandsKept text tokens) := by
  rcases statements_eq_ok hStatements with
    ⟨d, tokens, hChosen, hTokens, rfl⟩
  rcases Dialect.tokens_divide
    (passable_blanks hChosen hMarks) hTokens with
    ⟨ss, passed, hText, rfl, hPassed, hFollow⟩
  have hSqueezed :
      squeeze text = squeeze (Stretch.written ss) := by
    rw [hText, Text.squeeze_append,
      Text.squeeze_eq_nil hPassed, List.append_nil]
  have hWords :
      squeeze (assemble text (Stretch.place 0 ss)).flatten =
        (ss.flatMap fun s => squeeze s.word).map
          Char.toLower := by
    have hSlices := squeeze_slices_place [] passed hFollow
    rw [List.nil_append, ← hText, List.length_nil] at hSlices
    rw [squeeze_assemble _ hAscii, hSlices]
  rw [hWords, Text.squeeze_lower hAscii, hSqueezed]
  refine ⟨(words_sublist_written ss).map _, d, _, hChosen,
    hTokens, ?_⟩
  have hKept := commandsKept_iff passed hFollow
  rw [← hText] at hKept
  rw [hKept, ← words_eq_written_iff]
  constructor
  · intro hMap
    refine (words_sublist_written ss).eq_of_length ?_
    simpa using congrArg List.length hMap
  · intro hEq
    rw [hEq]

/-
  Of `EXPLAIN SELECT * FROM t` only the command and the last
  word are left.
-/
theorem squeeze_statements_ne_explain :
    let text := "EXPLAIN SELECT * FROM t".toList
    let sts := ["explain t".toList]
    IsAscii text ∧ (∀ c ∈ text, c ∉ commentMarks) ∧
      statements text (.text "postgres") = .ok sts ∧
      squeeze sts.flatten ≠ squeeze (Text.lower text) := by
  intro text sts
  have hAscii : IsAscii text := by decide
  have hMarks : ∀ c ∈ text, c ∉ commentMarks := by
    have hAll :
        text.all (!commentMarks.contains ·) = true := by
      decide
    simpa using hAll
  have hChoice :
      Dialect.choose (.text "postgres") =
        .ok Dialect.postgres := by
    rfl
  have hFound :
      Dialect.postgres.tokens text =
        .ok [⟨.command, 0, 7⟩, ⟨.other, 22, 23⟩] := by
    decide
  have hStatements :
      statements text (.text "postgres") = .ok sts := by
    simp only [statements, hChoice, hFound]
    exact congrArg Except.ok (by decide)
  rcases squeeze_statements_eq_iff text _ sts hAscii hMarks
    hStatements with ⟨_, d, tokens, hChosen, hTokens, hIff⟩
  rw [hChoice] at hChosen
  cases hChosen
  rw [hFound] at hTokens
  cases hTokens
  refine ⟨hAscii, hMarks, hStatements, ?_⟩
  rw [ne_eq, hIff]
  decide

end SqlAudit.Script
