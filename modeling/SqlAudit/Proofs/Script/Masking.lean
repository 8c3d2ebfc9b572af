import SqlAudit.Proofs.Pieces
import SqlAudit.Proofs.Script.Placed

/-
  A statement is what is left of its script when all that
  belongs to no token of it is blotted out.

  Tokens that are placed in a text one after the other leave
  gaps.  Putting the tokens together with one space for every
  gap gives the same words as writing a space over each
  character of the gaps.

  Key definitions include:
    * `SqlAudit.Script.mask`
    * `SqlAudit.Script.spread`

  Key theorems include:
    * `SqlAudit.Script.mask_eq_spread`
    * `SqlAudit.Script.words_joined`
    * `SqlAudit.Script.assemble_eq_masked`
-/

------------------------------------------------------------
-- Masks
------------------------------------------------------------

namespace SqlAudit.Script

/- Some token holds the character at the position. -/
def covers
    (tokens : List Token)
    (i : Nat) : Bool :=
  tokens.any fun t => t.start ≤ i && i < t.stop

/-
  The text with a space in place of every character that no
  token holds.
-/
def mask
    (text : List Char)
    (tokens : List Token) : List Char :=
  text.zipIdx.map fun p =>
    if covers tokens p.2 then p.1 else ' '

/-
  The text from a place on, put together from its tokens and
  as many spaces as there are characters between them.
-/
def spread
    (text : List Char) :
    (pos : Nat) → List Token → List Char
| pos, [] => List.replicate (text.length - pos) ' '
| pos, t :: rest =>
    List.replicate (t.start - pos) ' ' ++
      t.slice text ++ spread text t.stop rest

theorem covers_eq_false
    {tokens : List Token}
    {i : Nat}
    (hBefore : ∀ t ∈ tokens, i < t.start) :
    covers tokens i = false := by
  unfold covers
  rw [List.any_eq_false]
  intro t hMem
  have hLt := hBefore t hMem
  simp only [Bool.and_eq_true, decide_eq_true_eq, not_and]
  omega

/- The positions of a list's elements, counted from `n`. -/
theorem mem_zipIdx_bounds
    {α : Type}
    {xs : List α}
    {n : Nat}
    {p : α × Nat}
    (hMem : p ∈ xs.zipIdx n) :
    n ≤ p.2 ∧ p.2 < n + xs.length := by
  have hBounds := List.mem_zipIdx hMem
  omega

theorem map_zipIdx_eq_replicate
    (tokens : List Token)
    {n : Nat}
    (xs : List Char)
    (hFree :
      ∀ i, n ≤ i → i < n + xs.length →
        covers tokens i = false) :
    ((xs.zipIdx n).map fun p =>
        if covers tokens p.2 then p.1 else ' ') =
      List.replicate xs.length ' ' := by
  rw [List.eq_replicate_iff]
  constructor
  · simp
  · intro c hc
    rcases List.mem_map.mp hc with ⟨p, hMem, rfl⟩
    rcases mem_zipIdx_bounds hMem with ⟨hLe, hLt⟩
    simp [hFree p.2 hLe hLt]

theorem map_zipIdx_eq_self
    (tokens : List Token)
    {n : Nat}
    (xs : List Char)
    (hHeld :
      ∀ i, n ≤ i → i < n + xs.length →
        covers tokens i = true) :
    ((xs.zipIdx n).map fun p =>
        if covers tokens p.2 then p.1 else ' ') = xs := by
  have hFst :
      (xs.zipIdx n).map (fun p =>
          if covers tokens p.2 then p.1 else ' ') =
        (xs.zipIdx n).map Prod.fst := by
    refine List.map_congr_left ?_
    intro p hMem
    rcases mem_zipIdx_bounds hMem with ⟨hLe, hLt⟩
    simp [hHeld p.2 hLe hLt]
  rw [hFst, List.zipIdx_map_fst]

/- A text is cut at a token into gap, token and the rest. -/
theorem drop_eq_gap_append_slice
    {text : List Char}
    {pos : Nat}
    {t : Token}
    (hStart : pos ≤ t.start)
    (hLe : t.start ≤ t.stop) :
    text.drop pos =
      (text.drop pos).take (t.start - pos) ++
        (t.slice text ++ text.drop t.stop) := by
  have hGap : pos + (t.start - pos) = t.start := by omega
  have hSlice :
      t.start + (t.stop - t.start) = t.stop := by omega
  have hRest : (text.drop t.start).drop (t.stop - t.start) =
      text.drop t.stop := by
    rw [List.drop_drop, hSlice]
  rw [Token.slice, ← hRest, List.take_append_drop]
  have hGapDrop :
      (text.drop pos).drop (t.start - pos) =
        text.drop t.start := by
    rw [List.drop_drop, hGap]
  rw [← hGapDrop, List.take_append_drop]

/-
  From a place on, the mask of tokens placed behind it is
  their spread.
-/
theorem map_zipIdx_eq_spread
    {text : List Char}
    {pos : Nat}
    {tokens : List Token}
    (hPos : pos ≤ text.length)
    (hPlaced : PlacedFrom text pos tokens) :
    ((text.drop pos).zipIdx pos).map (fun p =>
        if covers tokens p.2 then p.1 else ' ') =
      spread text pos tokens := by
  induction tokens generalizing pos with
  | nil =>
      rw [map_zipIdx_eq_replicate _ _ fun _ _ _ => rfl]
      simp [spread]
  | cons t rest ih =>
      rcases hPlaced with ⟨hStart, hLe, hStop, hRest⟩
      have hLater := hRest.le_start
      have hGapLength :
          ((text.drop pos).take (t.start - pos)).length =
            t.start - pos := by
        simp
        omega
      have hSliceLength :
          (t.slice text).length = t.stop - t.start := by
        simp [Token.slice]
        omega
      have hAtStart : pos + (t.start - pos) = t.start := by
        omega
      have hAtStop :
          t.start + (t.stop - t.start) = t.stop := by omega
      -- no token reaches the gap, and `t` holds its slice
      have hGap := map_zipIdx_eq_replicate
        (t :: rest) (n := pos)
        ((text.drop pos).take (t.start - pos)) (by
          intro i _ hi
          refine covers_eq_false ?_
          intro u hMem
          rcases List.mem_cons.mp hMem with rfl | hTail
          · omega
          · have := hLater u hTail
            omega)
      have hSlice := map_zipIdx_eq_self
        (t :: rest) (n := t.start)
        (t.slice text) (by
          intro i hi hi'
          have hHeld :
              (decide (t.start ≤ i) && decide (i < t.stop)) =
                true := by
            simp
            omega
          simp [covers, hHeld])
      have hTail :
          ((text.drop t.stop).zipIdx t.stop).map (fun p =>
              if covers (t :: rest) p.2 then p.1 else ' ') =
            spread text t.stop rest := by
        rw [← ih hStop hRest]
        refine List.map_congr_left ?_
        intro p hMem
        have hLe := (mem_zipIdx_bounds hMem).1
        have hNot :
            (decide (t.start ≤ p.2) &&
              decide (p.2 < t.stop)) = false := by
          simp
          omega
        simp [covers, hNot]
      rw [drop_eq_gap_append_slice hStart hLe,
        List.zipIdx_append, List.zipIdx_append,
        List.map_append, List.map_append, hGapLength,
        hSliceLength, hAtStart, hAtStop, hGap, hSlice,
        hTail, hGapLength]
      simp [spread]

theorem mask_eq_spread
    {text : List Char}
    {tokens : List Token}
    (hPlaced : Placed text tokens) :
    mask text tokens = spread text 0 tokens := by
  have hSpread :=
    map_zipIdx_eq_spread (Nat.zero_le _) hPlaced
  simpa [mask] using hSpread

end SqlAudit.Script

------------------------------------------------------------
-- Words Of A Run
------------------------------------------------------------

namespace SqlAudit.Script

theorem isBlank_of_mem_replicate
    {n : Nat}
    {c : Char}
    (hMem : c ∈ List.replicate n ' ') :
    Text.isBlank c = true := by
  rw [List.eq_of_mem_replicate hMem]
  decide

/- Spaces at the end of a text belong to no word. -/
theorem words_append_replicate
    (s : List Char)
    (n : Nat) :
    Text.words (s ++ List.replicate n ' ') =
      Text.words s := by
  cases n with
  | zero => simp
  | succ n =>
      have hPieces := pieces_append_cuts_append s []
        (List.replicate_succ ▸ List.cons_ne_nil _ _)
        fun c hc =>
          isBlank_of_mem_replicate (n := n + 1) hc
      simpa [Text.words] using hPieces

/- Any number of spaces parts two texts, as one does. -/
theorem words_append_replicate_append
    (s s' : List Char)
    {n : Nat}
    (hPos : 0 < n) :
    Text.words (s ++ List.replicate n ' ' ++ s') =
      Text.words s ++ Text.words s' := by
  refine pieces_append_cuts_append s s' ?_ ?_
  · intro hNil
    have hZero : n = 0 := by simpa using hNil
    omega
  · exact fun c hc => isBlank_of_mem_replicate hc

/-
  One space for every gap gives the same words as a space for
  every character of a gap, whatever stands before.
-/
theorem words_append_joinedAfter
    {text : List Char}
    {stop : Nat}
    {tokens : List Token}
    (before : List Char)
    (hPlaced : PlacedFrom text stop tokens) :
    Text.words (before ++ joinedAfter text stop tokens) =
      Text.words (before ++ spread text stop tokens) := by
  induction tokens generalizing stop before with
  | nil => simp [joinedAfter, spread, words_append_replicate]
  | cons t rest ih =>
      rcases hPlaced with ⟨hStart, _, _, hRest⟩
      by_cases hGap : t.start > stop
      · have hOne := words_append_replicate_append before
          (t.slice text ++ joinedAfter text t.stop rest)
          Nat.zero_lt_one
        have hMany := words_append_replicate_append before
          (t.slice text ++ spread text t.stop rest)
          (Nat.sub_pos_of_lt hGap)
        rw [ih (t.slice text) hRest, ← hMany] at hOne
        simpa [joinedAfter, spread, hGap] using hOne
      · have hTouch : t.start - stop = 0 := by omega
        have hGlued := ih (before ++ t.slice text) hRest
        simpa [joinedAfter, spread, hGap, hTouch]
          using hGlued

/- The words of a run are those of its mask. -/
theorem words_joined
    {text : List Char}
    {run : List Token}
    (hPlaced : Placed text run) :
    Text.words (joined text run) =
      Text.words (mask text run) := by
  rw [mask_eq_spread hPlaced]
  cases run with
  | nil =>
      have hBlank :=
        words_append_replicate [] (text.length - 0)
      simpa [joined, spread] using hBlank.symm
  | cons t rest =>
      rcases hPlaced with ⟨_, _, _, hRest⟩
      have hWords :=
        words_append_joinedAfter (t.slice text) hRest
      have hFront := pieces_cuts_append
        (t.slice text ++ spread text t.stop rest)
        fun c hc =>
          isBlank_of_mem_replicate (n := t.start - 0) hc
      rw [joined, hWords, spread, List.append_assoc]
      exact hFront.symm

/- The mask keeps the visible characters of its tokens. -/
theorem filter_spread
    (text : List Char)
    (pos : Nat)
    (tokens : List Token) :
    (spread text pos tokens).filter
        (fun c => !Text.isBlank c) =
      (tokens.flatMap (Token.slice text)).filter
        (fun c => !Text.isBlank c) := by
  have hBlank :
      ∀ n : Nat, (List.replicate n ' ').filter
        (fun c => !Text.isBlank c) = [] := by
    intro n
    rw [List.filter_eq_nil_iff]
    intro c hc
    simp [isBlank_of_mem_replicate hc]
  induction tokens generalizing pos with
  | nil => simp [spread, hBlank]
  | cons t rest ih =>
      simp [spread, hBlank, ih t.stop]

/-
  Between two tokens that follow each other, a spread has one
  space for every character between them in the text.
-/
theorem spread_between
    {text : List Char}
    {pos : Nat}
    {before after : List Token}
    {t u : Token}
    (hPos : pos ≤ text.length)
    (hPlaced :
      PlacedFrom text pos (before ++ t :: u :: after)) :
    ∃ left right,
      spread text pos (before ++ t :: u :: after) =
          left ++ t.slice text ++
            List.replicate (u.start - t.stop) ' ' ++
            u.slice text ++ right ∧
        pos + left.length = t.start := by
  induction before generalizing pos with
  | nil =>
      rcases hPlaced with ⟨hStart, _⟩
      refine ⟨List.replicate (t.start - pos) ' ',
        spread text u.stop after, ?_, ?_⟩
      · simp [spread]
      · simp
        omega
  | cons v before ih =>
      rcases hPlaced with ⟨hStart, hLe, hStop, hRest⟩
      rcases ih hStop hRest with ⟨left, right, hEq, hLeft⟩
      refine ⟨List.replicate (v.start - pos) ' ' ++
        v.slice text ++ left, right, ?_, ?_⟩
      · rw [List.cons_append, spread, hEq]
        simp
      · have hSlice :
            (v.slice text).length = v.stop - v.start := by
          simp [Token.slice]
          omega
        simp [hSlice]
        omega

end SqlAudit.Script

------------------------------------------------------------
-- Statements As Masks
------------------------------------------------------------

namespace SqlAudit.Script

theorem placed_of_mem_runs
    {text : List Char}
    {tokens run : List Token}
    {runs : List (List Token)}
    (hPlaced : Placed text tokens)
    (hRuns : MaximalRuns Token.isSemicolon tokens runs)
    (hMem : run ∈ runs) :
    Placed text run :=
  hPlaced.sublist (hRuns.of_mem hMem).2.2

/- Each run becomes the normal form of its mask. -/
theorem assemble_eq_map_mask
    {text : List Char}
    {tokens : List Token}
    {runs : List (List Token)}
    (hPlaced : Placed text tokens)
    (hRuns : MaximalRuns Token.isSemicolon tokens runs) :
    assemble text tokens =
      runs.map fun run => normalize (mask text run) := by
  unfold assemble Script.runs
  rw [← hRuns.eq_pieces]
  refine List.map_congr_left ?_
  intro run hMem
  unfold normalize
  rw [words_joined (placed_of_mem_runs hPlaced hRuns hMem)]

/-
  The statements of a text with placed tokens are the masks
  of the maximal runs of tokens between semicolons, in normal
  form.  Every token but the semicolons is in one run, and a
  mask holds the visible characters of its tokens in order.
  Tokens that touch stay together, and tokens that do not are
  kept apart by the characters that were between them.  The
  tokens that a dialect finds in a script are placed, so that
  the statements of every script are masks of their runs.
-/
theorem assemble_eq_masked
    (text : List Char)
    (tokens : List Token)
    (hPlaced : Placed text tokens) :
    (∃ runs, MaximalRuns Token.isSemicolon tokens runs) ∧
      (∀ runs, MaximalRuns Token.isSemicolon tokens runs →
        assemble text tokens =
            runs.map (fun run =>
              normalize (mask text run)) ∧
          runs.flatten =
            tokens.filter (fun t => !t.isSemicolon) ∧
          ∀ run ∈ runs,
            (Text.words (mask text run)).flatten =
                (run.flatMap (Token.slice text)).filter
                  (fun c => !Text.isBlank c) ∧
              ∀ before t u after,
                run = before ++ t :: u :: after →
                ∃ left right,
                  mask text run =
                      left ++ t.slice text ++
                        List.replicate
                          (u.start - t.stop) ' ' ++
                        u.slice text ++ right ∧
                    left.length = t.start) ∧
      ∀ dialect sts, statements text dialect = .ok sts →
        ∃ d found runs,
          Dialect.choose dialect = .ok d ∧
            d.tokens text = .ok found ∧
            Placed text found ∧
            MaximalRuns Token.isSemicolon found runs ∧
            sts = runs.map fun run =>
              normalize (mask text run) := by
  refine ⟨MaximalRuns.exists_runs _ _, ?_, ?_⟩
  · intro runs hRuns
    refine ⟨assemble_eq_map_mask hPlaced hRuns,
      hRuns.flatten_eq, ?_⟩
    intro run hMem
    have hRun := placed_of_mem_runs hPlaced hRuns hMem
    rw [mask_eq_spread hRun]
    refine ⟨?_, ?_⟩
    · rw [Text.words, flatten_pieces]
      exact filter_spread text 0 run
    · intro before t u after hEq
      subst hEq
      rcases spread_between (Nat.zero_le _) hRun with
        ⟨left, right, hSpread, hLeft⟩
      exact ⟨left, right, hSpread, by omega⟩
  · intro dialect sts hStatements
    rcases statements_eq_ok hStatements with
      ⟨d, found, hChosen, hTokens, rfl⟩
    have hFound := placed_tokens hTokens
    rcases MaximalRuns.exists_runs Token.isSemicolon found
      with ⟨runs, hRuns⟩
    exact ⟨d, found, runs, hChosen, hTokens, hFound, hRuns,
      assemble_eq_map_mask hFound hRuns⟩

/-
  In `a/**/b;;c` a comment parts two tokens of the first
  statement, and an empty statement is left out.
-/
theorem assemble_eq_masked_comment :
    let text := "a/**/b;;c".toList
    let tokens : List Token :=
      [⟨.other, 0, 1⟩, ⟨.other, 5, 6⟩, ⟨.semicolon, 6, 7⟩,
        ⟨.semicolon, 7, 8⟩, ⟨.other, 8, 9⟩]
    Placed text tokens ∧
      Dialect.postgres.tokens text = .ok tokens ∧
      assemble text tokens = ["a b".toList, "c".toList] ∧
      ∃ runs, MaximalRuns Token.isSemicolon tokens runs ∧
        assemble text tokens =
          runs.map fun run =>
            normalize (mask text run) := by
  intro text tokens
  have hPlaced : Placed text tokens := by decide
  rcases assemble_eq_masked text tokens hPlaced with
    ⟨⟨runs, hRuns⟩, hAll, _⟩
  exact ⟨hPlaced, by decide, by decide, runs, hRuns,
    (hAll runs hRuns).1⟩

end SqlAudit.Script
