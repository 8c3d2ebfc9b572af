import SqlAudit.Proofs.Token.Lexeme

/-
  The steps of a scan.

  A step passes over blanks or a comment, makes a token of a
  lexeme, or takes a command together with the rest of its
  statement.  Every step goes forward, so that a scan ends
  with the text.

  Key definitions include:
    * `SqlAudit.Dialect.Step`
    * `SqlAudit.Scan.Moves`

  Key theorems include:
    * `SqlAudit.Dialect.scan_succ_eq_ok`
    * `SqlAudit.Dialect.Step.moves`
    * `SqlAudit.Dialect.scan_moves`
    * `SqlAudit.Dialect.scan_rest_eq_nil`
-/

------------------------------------------------------------
-- Steps
------------------------------------------------------------

namespace SqlAudit

namespace Scan

/- Go on to a later place of the text. -/
def upTo
    (p : Scan)
    (after : List Char) : Scan :=
  { p with start := p.position, rest := after }

/- Forget the tokens that were found since another place. -/
def since
    (r q : Scan) : Scan :=
  { r with tokens := q.tokens }

/- What was taken between two places. -/
def taken
    (q r : Scan) : List Char :=
  q.rest.take (q.rest.length - r.rest.length)

end Scan

namespace Dialect

/-
  What one step of a scan can do.  A command is a lexeme like
  any other, unless it takes the rest of its statement.
-/
inductive Step
    (d : Dialect)
    (fuel : Nat)
    (p : Scan) : Scan → Prop
| skip
    {c : Char}
    {rest : List Char} :
    p.rest = c :: rest →
    (c == ' ' || c == '\t') = true →
    Step d fuel p p.skip
| blank
    {c : Char}
    {rest : List Char} :
    p.rest = c :: rest →
    Text.isBlank c = true →
    Step d fuel p (p.upTo rest)
| comment
    {after : List Char} :
    p.rest ≠ [] →
    d.lexeme p.last p.rest = .ok (none, after) →
    Step d fuel p (p.upTo after)
| token
    {kind : Token.Kind}
    {after : List Char} :
    p.rest ≠ [] →
    d.lexeme p.last p.rest = .ok (some kind, after) →
    Step d fuel p ((p.upTo after).push kind)
| command
    {after : List Char}
    {q r : Scan} :
    p.rest ≠ [] →
    d.lexeme p.last p.rest = .ok (some .command, after) →
    q = (p.upTo after).push .command →
    d.scan fuel true q = .ok r →
    (q.taken r).all Text.isBlank = true →
    Step d fuel p (r.since q)
| remainder
    {after : List Char}
    {q r : Scan} :
    p.rest ≠ [] →
    d.lexeme p.last p.rest = .ok (some .command, after) →
    q = (p.upTo after).push .command →
    d.scan fuel true q = .ok r →
    (q.taken r).all Text.isBlank = false →
    Step d fuel p ((r.since q).push .other)

variable {d : Dialect}

/- A scan with text left takes a step and goes on or stops. -/
theorem scan_succ_eq_ok
    {fuel : Nat}
    {toSemicolon : Bool}
    {p r : Scan}
    (hRest : p.rest ≠ [])
    (hScan : d.scan (fuel + 1) toSemicolon p = .ok r) :
    ∃ next, Step d fuel p next ∧
      (r = next ∧ toSemicolon = true ∨
        d.scan fuel toSemicolon next = .ok r) := by
  have hGoesOn :
      ∀ next,
        (if toSemicolon && next.beforeSemicolon then
            .ok next
          else d.scan fuel toSemicolon next) = .ok r →
        r = next ∧ toSemicolon = true ∨
          d.scan fuel toSemicolon next = .ok r := by
    intro next hGo
    split_ifs at hGo with hStop
    · cases hGo
      rw [Bool.and_eq_true] at hStop
      exact .inl ⟨rfl, hStop.1⟩
    · exact .inr hGo
  rw [scan] at hScan
  split at hScan
  · contradiction
  rename_i c rest hCons
  dsimp only at hScan
  split_ifs at hScan with hSpace hBlank
  · exact ⟨_, .skip hCons hSpace, hGoesOn _ hScan⟩
  · exact ⟨_, .blank hCons hBlank, hGoesOn _ hScan⟩
  rcases ok_of_bind_eq_ok hScan with
    ⟨⟨kind?, after⟩, hLexeme, hScan⟩
  dsimp only at hScan
  split at hScan
  · exact ⟨_, .comment hRest hLexeme, hGoesOn _ hScan⟩
  rename_i kind
  split_ifs at hScan with hTakes
  · have hKind : kind = .command := by
      simp only [Bool.and_eq_true, beq_iff_eq] at hTakes
      exact hTakes.1.1
    subst hKind
    rcases ok_of_bind_eq_ok hScan with ⟨s, hTaken, hScan⟩
    split_ifs at hScan with hAll
    · exact ⟨_, .command hRest hLexeme rfl hTaken hAll,
        hGoesOn _ hScan⟩
    · exact ⟨_, .remainder hRest hLexeme rfl hTaken
        (Bool.eq_false_iff.mpr hAll), hGoesOn _ hScan⟩
  · exact ⟨_, .token hRest hLexeme, hGoesOn _ hScan⟩

end Dialect

end SqlAudit

------------------------------------------------------------
-- Progress
------------------------------------------------------------

namespace SqlAudit

/-
  One place of a scan lies behind another one, and what was
  scanned last begins between them.
-/
structure Scan.Moves
    (p r : Scan) : Prop where
  size_eq : r.size = p.size
  suffix : r.rest <:+ p.rest
  length_lt : r.rest.length < p.rest.length
  le_start : p.position ≤ r.start
  start_le : r.start ≤ r.position

namespace Scan.Moves

theorem position_le
    {p r : Scan}
    (hMoves : p.Moves r) :
    p.position ≤ r.position :=
  Nat.le_trans hMoves.le_start hMoves.start_le

theorem trans
    {p q r : Scan}
    (hFirst : p.Moves q)
    (hSecond : q.Moves r) :
    p.Moves r where
  size_eq := hSecond.size_eq.trans hFirst.size_eq
  suffix := hSecond.suffix.trans hFirst.suffix
  length_lt := Nat.lt_trans hSecond.length_lt hFirst.length_lt
  le_start :=
    Nat.le_trans hFirst.position_le hSecond.le_start
  start_le := hSecond.start_le

/- Tokens have no part in how far a scan is. -/
theorem of_tokens
    {p r : Scan}
    (tokens : List Token)
    (hMoves : p.Moves r) :
    p.Moves { r with tokens := tokens } where
  size_eq := hMoves.size_eq
  suffix := hMoves.suffix
  length_lt := hMoves.length_lt
  le_start := hMoves.le_start
  start_le := hMoves.start_le

theorem skip
    {p : Scan}
    {c : Char}
    {rest : List Char}
    (hRest : p.rest = c :: rest)
    (hSpace : (c == ' ' || c == '\t') = true) :
    p.Moves p.skip := by
  have hSuffix :
      p.skip.rest <:+ rest := by
    simp only [Scan.skip, hRest, List.dropWhile_cons, hSpace,
      if_true]
    exact List.dropWhile_suffix _
  have hLength := hSuffix.length_le
  have hStart : p.skip.start = p.skip.position := rfl
  have hSize : p.skip.size = p.size := rfl
  refine ⟨hSize, ?_, ?_, ?_, Nat.le_of_eq hStart⟩
  · rw [hRest]
    exact hSuffix.trans (List.suffix_cons c rest)
  · rw [hRest, List.length_cons]
    omega
  · rw [hStart]
    unfold Scan.position
    rw [hSize, hRest, List.length_cons]
    omega

theorem upTo
    {p : Scan}
    {after : List Char}
    (hRest : p.rest ≠ [])
    (hAfter : after <:+ p.rest.tail) :
    p.Moves (p.upTo after) := by
  have hLength := hAfter.length_le
  have hPos := List.length_pos_of_ne_nil hRest
  rw [List.length_tail] at hLength
  refine ⟨rfl, hAfter.trans (List.tail_suffix _), ?_,
    Nat.le_refl _, ?_⟩
  · simp only [Scan.upTo]
    omega
  · simp only [Scan.upTo, Scan.position]
    omega

end Scan.Moves

namespace Dialect

variable {d : Dialect}

/-
  Each step goes forward, if the scan of a command's
  remainder does.
-/
theorem Step.moves
    {fuel : Nat}
    {p next : Scan}
    (hScan :
      ∀ {q r}, d.scan fuel true q = .ok r →
        r = q ∨ q.Moves r)
    (hStep : Step d fuel p next) :
    p.Moves next := by
  have hTakes :
      ∀ {after kind}, p.rest ≠ [] →
        d.lexeme p.last p.rest = .ok (some kind, after) →
        p.Moves ((p.upTo after).push kind) := by
    intro after kind hRest hLexeme
    exact (Scan.Moves.upTo hRest
      (lexeme_takes hRest hLexeme).forward).of_tokens _
  have hRemainder :
      ∀ {after r}, p.rest ≠ [] →
        d.lexeme p.last p.rest =
          .ok (some .command, after) →
        d.scan fuel true ((p.upTo after).push .command) =
          .ok r →
        p.Moves r := by
    intro after r hRest hLexeme hRun
    have hFirst := hTakes hRest hLexeme
    rcases hScan hRun with rfl | hSecond
    · exact hFirst
    · exact hFirst.trans hSecond
  cases hStep with
  | skip hRest hSpace => exact .skip hRest hSpace
  | blank hRest _ =>
      refine .upTo (by simp [hRest]) ?_
      rw [hRest]
      exact List.suffix_rfl
  | comment hRest hLexeme =>
      exact .upTo hRest (lexeme_takes hRest hLexeme).forward
  | token hRest hLexeme => exact hTakes hRest hLexeme
  | command hRest hLexeme hq hRun _ =>
      subst hq
      exact (hRemainder hRest hLexeme hRun).of_tokens _
  | remainder hRest hLexeme hq hRun _ =>
      subst hq
      exact (hRemainder hRest hLexeme hRun).of_tokens _

/- A scan stays where it is, or goes forward. -/
theorem scan_moves
    {fuel : Nat}
    {toSemicolon : Bool}
    {p r : Scan}
    (hScan : d.scan fuel toSemicolon p = .ok r) :
    r = p ∨ p.Moves r := by
  induction fuel generalizing toSemicolon p r with
  | zero =>
      cases hScan
      exact .inl rfl
  | succ fuel ih =>
      by_cases hRest : p.rest = []
      · rw [scan, hRest] at hScan
        cases hScan
        exact .inl rfl
      · rcases scan_succ_eq_ok hRest hScan with
          ⟨next, hStep, hEnd⟩
        have hMoves := hStep.moves fun hRun => ih hRun
        rcases hEnd with ⟨rfl, _⟩ | hGo
        · exact .inr hMoves
        · rcases ih hGo with rfl | hLater
          · exact .inr hMoves
          · exact .inr (hMoves.trans hLater)

theorem scan_size_and_suffix
    {fuel : Nat}
    {toSemicolon : Bool}
    {p r : Scan}
    (hScan : d.scan fuel toSemicolon p = .ok r) :
    r.size = p.size ∧ r.rest <:+ p.rest := by
  rcases scan_moves hScan with rfl | hMoves
  · exact ⟨rfl, List.suffix_rfl⟩
  · exact ⟨hMoves.size_eq, hMoves.suffix⟩

theorem Step.forward
    {fuel : Nat}
    {p next : Scan}
    (hStep : Step d fuel p next) :
    p.Moves next :=
  hStep.moves scan_moves

/- A scan that no semicolon stops takes the whole text. -/
theorem scan_rest_eq_nil
    {fuel : Nat}
    {p r : Scan}
    (hFuel : p.rest.length < fuel)
    (hScan : d.scan fuel false p = .ok r) :
    r.rest = [] := by
  induction fuel generalizing p with
  | zero => omega
  | succ fuel ih =>
      by_cases hRest : p.rest = []
      · rw [scan, hRest] at hScan
        cases hScan
        exact hRest
      · rcases scan_succ_eq_ok hRest hScan with
          ⟨next, hStep, hEnd⟩
        have hShorter := hStep.forward.length_lt
        rcases hEnd with ⟨_, hStop⟩ | hGo
        · cases hStop
        · exact ih (by omega) hGo

end Dialect

end SqlAudit
