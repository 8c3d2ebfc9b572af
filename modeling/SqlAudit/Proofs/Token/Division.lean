import SqlAudit.Proofs.Token.Progress

/-
  A text is divided into the words of its tokens and what is
  passed over between them.

  A stretch of a text is what is passed over before a token,
  and the token's own word.  The tokens of a text stand at the
  places that the lengths of the stretches give them.  What is
  passed over is blank or a comment, with one exception: after
  a command any text may be lost.

  Key definitions include:
    * `SqlAudit.Stretch`
    * `SqlAudit.Stretch.place`
    * `SqlAudit.Stretch.Follow`
    * `SqlAudit.Scan.Divides`

  Key theorems include:
    * `SqlAudit.Dialect.Step.divides`
    * `SqlAudit.Dialect.scan_divides`
    * `SqlAudit.Dialect.tokens_divide`
-/

------------------------------------------------------------
-- Stretches
------------------------------------------------------------

namespace SqlAudit

/- The word of a token, after what is passed over. -/
structure Stretch where
  passed : List Char
  kind : Token.Kind
  word : List Char

namespace Stretch

/- All of a stretch. -/
def text (s : Stretch) : List Char :=
  s.passed ++ s.word

/- Stretches one after the other. -/
def written (ss : List Stretch) : List Char :=
  ss.flatMap text

/- The token of a stretch that begins at a place. -/
def token
    (pos : Nat)
    (s : Stretch) : Token where
  kind := s.kind
  start := pos + s.passed.length
  stop := pos + s.text.length

/- The tokens of stretches that begin at a place. -/
def place : (pos : Nat) → List Stretch → List Token
| _, [] => []
| pos, s :: rest =>
    s.token pos :: place (pos + s.text.length) rest

/-
  What is passed over is as `passes` says, unless it follows a
  command.  A semicolon is a word of one character.  `last` is
  the kind of the token before the stretches.
-/
def Follow
    (passes : List Char → Prop) :
    (last : Option Token.Kind) → List Stretch → Prop
| _, [] => True
| last, s :: rest =>
    (last = some .command ∨ passes s.passed) ∧
      (s.kind = .semicolon → s.word = [';']) ∧
      Follow passes (some s.kind) rest

@[simp] theorem length_text
    (s : Stretch) :
    s.text.length = s.passed.length + s.word.length := by
  simp [text]

@[simp] theorem written_nil : written [] = [] := rfl

@[simp] theorem written_cons
    (s : Stretch)
    (ss : List Stretch) :
    written (s :: ss) = s.text ++ written ss := by
  simp [written]

@[simp] theorem written_append
    (ss ss' : List Stretch) :
    written (ss ++ ss') = written ss ++ written ss' := by
  simp [written]

theorem place_append
    (pos : Nat)
    (ss ss' : List Stretch) :
    place pos (ss ++ ss') =
      place pos ss ++
        place (pos + (written ss).length) ss' := by
  induction ss generalizing pos with
  | nil => simp [place]
  | cons s ss ih =>
      simp [place, ih, Nat.add_assoc]

theorem map_kind_place
    (pos : Nat)
    (ss : List Stretch) :
    (place pos ss).map Token.kind = ss.map kind := by
  induction ss generalizing pos with
  | nil => rfl
  | cons s ss ih => simp [place, token, ih]

theorem follow_append
    {passes : List Char → Prop}
    {last : Option Token.Kind}
    {ss : List Stretch}
    {s : Stretch}
    (hFollow : Follow passes last ss)
    (hPassed :
      (ss.getLast?.map kind).or last = some .command ∨
        passes s.passed)
    (hWord : s.kind = .semicolon → s.word = [';']) :
    Follow passes last (ss ++ [s]) := by
  induction ss generalizing last with
  | nil => exact ⟨by simpa using hPassed, hWord, trivial⟩
  | cons t ss ih =>
      rcases hFollow with ⟨hFirst, hSemicolon, hRest⟩
      refine ⟨hFirst, hSemicolon, ih hRest ?_⟩
      cases ss with
      | nil => simpa using hPassed
      | cons u ss =>
          rw [List.getLast?_cons_cons] at hPassed
          cases hLast : (u :: ss).getLast? with
          | none => simp at hLast
          | some v => simpa [hLast] using hPassed

end Stretch

end SqlAudit

------------------------------------------------------------
-- Division Of What Was Scanned
------------------------------------------------------------

namespace SqlAudit

/-
  What a dialect may pass over in a text: blanks, comments,
  and any of them one after the other.
-/
structure Dialect.Passable
    (d : Dialect)
    (text : List Char)
    (passes : List Char → Prop) : Prop where
  blank {w : List Char} :
    w.all Text.isBlank = true → passes w
  append {v w : List Char} :
    passes v → passes w → passes (v ++ w)
  comment
    {last : Option Token.Kind}
    {w after : List Char} :
    w ++ after <:+ text → w ++ after ≠ [] →
    d.lexeme last (w ++ after) = .ok (none, after) →
    passes w

/-
  What was scanned of a text is divided into stretches and
  what was passed over after them.
-/
structure Scan.Divides
    (passes : List Char → Prop)
    (text : List Char)
    (p : Scan)
    (ss : List Stretch)
    (passed : List Char) : Prop where
  size_eq : p.size = text.length
  text_eq : text = Stretch.written ss ++ passed ++ p.rest
  tokens_eq : p.tokens.reverse = Stretch.place 0 ss
  passed_ok : passes passed
  follow : Stretch.Follow passes none ss

namespace Scan.Divides

variable {passes : List Char → Prop}
variable {text passed : List Char}
variable {p r : Scan}
variable {ss : List Stretch}

theorem position_eq
    (hDivides : p.Divides passes text ss passed) :
    p.position =
      (Stretch.written ss).length + passed.length := by
  have hLength := congrArg List.length hDivides.text_eq
  simp only [List.length_append] at hLength
  unfold Scan.position
  rw [hDivides.size_eq]
  omega

theorem last_eq
    (hDivides : p.Divides passes text ss passed) :
    p.last = ss.getLast?.map Stretch.kind := by
  unfold Scan.last
  rw [← List.reverse_reverse p.tokens, hDivides.tokens_eq,
    List.head?_reverse, ← List.getLast?_map,
    Stretch.map_kind_place, List.getLast?_map]

/- More is passed over. -/
theorem pass
    {w : List Char}
    (hDivides : p.Divides passes text ss passed)
    (hSize : r.size = p.size)
    (hTokens : r.tokens = p.tokens)
    (hRest : p.rest = w ++ r.rest)
    (hPassed : passes (passed ++ w)) :
    r.Divides passes text ss (passed ++ w) where
  size_eq := hSize.trans hDivides.size_eq
  text_eq := by
    rw [hDivides.text_eq, hRest]
    simp
  tokens_eq := by rw [hTokens, hDivides.tokens_eq]
  passed_ok := hPassed
  follow := hDivides.follow

/-
  A token is made of the last part of what was taken, and the
  first part is lost.
-/
theorem push
    (r : Scan)
    (lost word : List Char)
    (kind : Token.Kind)
    (hDivides : p.Divides passes text ss passed)
    (hSize : r.size = p.size)
    (hTokens : r.tokens = p.tokens)
    (hRest : p.rest = lost ++ word ++ r.rest)
    (hStart : r.start = p.position + lost.length)
    (hLost :
      p.last = some .command ∨ passes (passed ++ lost))
    (hWord : kind = .semicolon → word = [';'])
    (hNil : passes []) :
    (r.push kind).Divides passes text
      (ss ++ [⟨passed ++ lost, kind, word⟩]) [] := by
  have hText :
      text =
        Stretch.written ss ++ (passed ++ lost ++ word) ++
          r.rest := by
    rw [hDivides.text_eq, hRest]
    simp
  have hPosition :
      r.position =
        (Stretch.written ss).length +
          (passed ++ lost ++ word).length := by
    have hLength := congrArg List.length hText
    simp only [List.length_append] at hLength ⊢
    unfold Scan.position
    rw [hSize, hDivides.size_eq]
    omega
  refine ⟨hSize.trans hDivides.size_eq, ?_, ?_, hNil, ?_⟩
  · simpa [Stretch.text, Scan.push] using hText
  · simp only [Scan.push, hTokens, hStart,
      List.reverse_cons, hDivides.tokens_eq,
      Stretch.place_append, Stretch.place, Stretch.token,
      hPosition, hDivides.position_eq, Stretch.text]
    simp [Nat.add_assoc]
  · refine Stretch.follow_append hDivides.follow ?_ hWord
    rw [Option.or_none, ← hDivides.last_eq]
    exact hLost

end Scan.Divides

end SqlAudit

------------------------------------------------------------
-- Division Of A Text
------------------------------------------------------------

namespace SqlAudit

variable {d : Dialect}
variable {passes : List Char → Prop}
variable {text passed : List Char}
variable {p r : Scan}
variable {ss : List Stretch}

theorem Scan.taken_append
    (hSuffix : r.rest <:+ p.rest) :
    p.taken r ++ r.rest = p.rest := by
  rcases hSuffix with ⟨w, hRest⟩
  have hLength :
      p.rest.length - r.rest.length = w.length := by
    rw [← hRest, List.length_append]
    omega
  rw [Scan.taken, hLength, ← hRest, List.take_left]

theorem Scan.all_isBlank_takeWhile :
    (p.rest.takeWhile fun c => c == ' ' || c == '\t').all
      Text.isBlank = true := by
  rw [List.all_eq_true]
  intro c hc
  have hSpace := List.all_eq_true.mp List.all_takeWhile c hc
  rw [Bool.or_eq_true, beq_iff_eq, beq_iff_eq] at hSpace
  rcases hSpace with rfl | rfl <;> decide

namespace Dialect

/- A lexeme becomes a token of all that it takes. -/
theorem divides_of_lexeme
    {kind : Token.Kind}
    {after : List Char}
    (hPassable : d.Passable text passes)
    (hDivides : p.Divides passes text ss passed)
    (hRest : p.rest ≠ [])
    (hLexeme :
      d.lexeme p.last p.rest = .ok (some kind, after)) :
    ∃ word,
      ((p.upTo after).push kind).Divides passes text
        (ss ++ [⟨passed, kind, word⟩]) [] := by
  have hTakes := lexeme_takes hRest hLexeme
  rcases hTakes.forward.trans (List.tail_suffix _) with
    ⟨word, hWord⟩
  have hPush := Scan.Divides.push (p.upTo after) [] word kind
    hDivides rfl rfl hWord.symm rfl
    (.inr (by simpa using hDivides.passed_ok))
    (by
      intro hKind
      have hSemicolon := hTakes.semicolon (by rw [hKind])
      rw [← hWord] at hSemicolon
      exact List.append_cancel_right hSemicolon)
    (hPassable.blank rfl)
  rw [List.append_nil] at hPush
  exact ⟨word, hPush⟩

/- A step divides what it takes. -/
theorem Step.divides
    {fuel : Nat}
    {next : Scan}
    (hPassable : d.Passable text passes)
    (hDivides : p.Divides passes text ss passed)
    (hStep : Step d fuel p next) :
    ∃ ss' passed',
      next.Divides passes text ss' passed' := by
  cases hStep with
  | skip hRest hSpace =>
      refine ⟨ss, _, hDivides.pass rfl rfl
        List.takeWhile_append_dropWhile.symm ?_⟩
      exact hPassable.append hDivides.passed_ok
        (hPassable.blank Scan.all_isBlank_takeWhile)
  | @blank c rest hRest hBlank =>
      refine ⟨ss, passed ++ [c],
        hDivides.pass rfl rfl hRest ?_⟩
      exact hPassable.append hDivides.passed_ok
        (hPassable.blank (by simpa using hBlank))
  | @comment after hRest hLexeme =>
      have hTakes := lexeme_takes hRest hLexeme
      rcases hTakes.forward.trans (List.tail_suffix _) with
        ⟨w, hComment⟩
      refine ⟨ss, passed ++ w,
        hDivides.pass rfl rfl hComment.symm ?_⟩
      rw [← hComment] at hRest hLexeme
      refine hPassable.append hDivides.passed_ok
        (hPassable.comment ?_ hRest hLexeme)
      rw [hComment, hDivides.text_eq]
      exact List.suffix_append _ _
  | token hRest hLexeme =>
      rcases divides_of_lexeme hPassable hDivides hRest
        hLexeme with ⟨word, hToken⟩
      exact ⟨_, _, hToken⟩
  | @command after q r hRest hLexeme hq hRun hAll =>
      rcases divides_of_lexeme hPassable hDivides hRest
        hLexeme with ⟨word, hToken⟩
      rw [← hq] at hToken
      have hMoved := scan_size_and_suffix hRun
      refine ⟨_, _, hToken.pass hMoved.1 rfl
        (Scan.taken_append hMoved.2).symm ?_⟩
      exact hPassable.append hToken.passed_ok
        (hPassable.blank hAll)
  | @remainder after q r hRest hLexeme hq hRun hAll =>
      rcases divides_of_lexeme hPassable hDivides hRest
        hLexeme with ⟨word, hToken⟩
      rw [← hq] at hToken
      rcases scan_moves hRun with rfl | hMoves
      · simp [Scan.taken] at hAll
      -- the token begins inside of what the command took
      have hTaken := Scan.taken_append hMoves.suffix
      have hInside :
          r.start - q.position ≤ (q.taken r).length := by
        have hLength := congrArg List.length hTaken
        have hStart := hMoves.start_le
        simp only [List.length_append] at hLength
        simp only [Scan.position, hMoves.size_eq] at hStart ⊢
        omega
      have hLost :
          r.start =
            q.position +
              ((q.taken r).take
                (r.start - q.position)).length := by
        have hStart := hMoves.le_start
        rw [List.length_take]
        omega
      refine ⟨_, _, Scan.Divides.push (r.since q)
        ((q.taken r).take (r.start - q.position))
        ((q.taken r).drop (r.start - q.position)) .other
        hToken hMoves.size_eq rfl ?_ hLost (.inl ?_)
        (by simp) (hPassable.blank rfl)⟩
      · rw [List.take_append_drop]
        exact hTaken.symm
      · rw [hq]
        rfl

/- A scan divides what it takes. -/
theorem scan_divides
    {fuel : Nat}
    {toSemicolon : Bool}
    (hPassable : d.Passable text passes)
    (hDivides : p.Divides passes text ss passed)
    (hScan : d.scan fuel toSemicolon p = .ok r) :
    ∃ ss' passed', r.Divides passes text ss' passed' := by
  induction fuel generalizing p ss passed with
  | zero =>
      cases hScan
      exact ⟨ss, passed, hDivides⟩
  | succ fuel ih =>
      by_cases hRest : p.rest = []
      · rw [scan, hRest] at hScan
        cases hScan
        exact ⟨ss, passed, hDivides⟩
      · rcases scan_succ_eq_ok hRest hScan with
          ⟨next, hStep, hEnd⟩
        rcases hStep.divides hPassable hDivides with
          ⟨ss', passed', hNext⟩
        rcases hEnd with ⟨rfl, _⟩ | hGo
        · exact ⟨ss', passed', hNext⟩
        · exact ih hNext hGo

/- The tokens of a text divide it. -/
theorem tokens_divide
    {tokens : List Token}
    (hPassable : d.Passable text passes)
    (hTokens : d.tokens text = .ok tokens) :
    ∃ ss passed,
      text = Stretch.written ss ++ passed ∧
        tokens = Stretch.place 0 ss ∧
        passes passed ∧ Stretch.Follow passes none ss := by
  rcases ok_of_map_eq_ok hTokens with ⟨r, hScan, rfl⟩
  have hStart :
      (Scan.ofText text).Divides passes text [] [] :=
    ⟨rfl, rfl, rfl, hPassable.blank rfl, trivial⟩
  rcases scan_divides hPassable hStart hScan with
    ⟨ss, passed, hDivides⟩
  have hEnd : r.rest = [] :=
    scan_rest_eq_nil (Nat.lt_succ_self _) hScan
  have hText := hDivides.text_eq
  rw [hEnd, List.append_nil] at hText
  exact ⟨ss, passed, hText, hDivides.tokens_eq,
    hDivides.passed_ok, hDivides.follow⟩

end Dialect

end SqlAudit
