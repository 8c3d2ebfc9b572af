import Mathlib.Data.List.Chain
import SqlAudit.Audit
import SqlAudit.Proofs.Pieces
import SqlAudit.Proofs.Text.Alike

/-
  What stands between the tokens of a script has no part in
  its statements.

  Two scripts go together token by token when each token goes
  with one that is alike, and neighbours touch in both scripts
  or in neither.  Such scripts have the same statements, so
  that every check of them comes to the same.

  Key definitions include:
    * `SqlAudit.Script.SameGap`
    * `SqlAudit.Script.SameTokens`

  Key theorems include:
    * `SqlAudit.Script.alike_joined`
    * `SqlAudit.Script.SameTokens.assemble_eq`
    * `SqlAudit.Script.audit_eq_of_sameTokens`
-/

------------------------------------------------------------
-- Tokens That Go Together
------------------------------------------------------------

namespace SqlAudit.Script

/-
  Of two tokens and those that go with them, the second
  touches the first in both texts, or something stands
  between them in both texts.
-/
def SameGap (p q : Token × Token) : Prop :=
  q.1.start = p.1.stop ∧ q.2.start = p.2.stop ∨
    p.1.stop < q.1.start ∧ p.2.stop < q.2.start

instance (p q : Token × Token) : Decidable (SameGap p q) :=
  inferInstanceAs (Decidable (_ ∨ _))

/-
  The tokens of two texts go together one by one: both end a
  statement or neither does, their characters are alike, and
  they have the same gaps.  Nothing is said of the characters
  in the gaps, nor of how many they are.
-/
structure SameTokens
    (text : List Char)
    (tokens : List Token)
    (text' : List Char)
    (tokens' : List Token) : Prop where
  length : tokens.length = tokens'.length
  semicolons :
    ∀ p ∈ tokens.zip tokens',
      p.1.isSemicolon = p.2.isSemicolon
  slices :
    ∀ p ∈ tokens.zip tokens',
      Text.Alike (p.1.slice text) (p.2.slice text')
  gaps : (tokens.zip tokens').IsChain SameGap

end SqlAudit.Script

------------------------------------------------------------
-- Runs That Go Together
------------------------------------------------------------

namespace SqlAudit.Script

variable {text text' : List Char}

/- The same gaps become the same spaces. -/
theorem SameGap.space_eq
    {p q : Token × Token}
    (hGap : SameGap p q) :
    (if q.1.start > p.1.stop then [' '] else []) =
      if q.2.start > p.2.stop then [' '] else [] := by
  rcases hGap with ⟨hTouch, hTouch'⟩ | ⟨hApart, hApart'⟩
  · rw [if_neg (by omega), if_neg (by omega)]
  · rw [if_pos hApart, if_pos hApart']

theorem alike_joinedAfter
    {p : Token × Token}
    {ps : List (Token × Token)}
    (hSlices :
      ∀ q ∈ ps,
        Text.Alike (q.1.slice text) (q.2.slice text'))
    (hGaps : (p :: ps).IsChain SameGap) :
    Text.Alike
      (joinedAfter text p.1.stop (ps.map Prod.fst))
      (joinedAfter text' p.2.stop (ps.map Prod.snd)) := by
  induction ps generalizing p with
  | nil => exact .nil
  | cons q ps ih =>
      rcases List.isChain_cons_cons.mp hGaps with
        ⟨hGap, hRest⟩
      have hHead := hSlices q List.mem_cons_self
      have hTail := ih (fun r hr =>
        hSlices r (List.mem_cons_of_mem q hr)) hRest
      simp only [List.map_cons, joinedAfter, hGap.space_eq]
      exact ((Text.Alike.of_toLower_eq rfl).append
        hHead).append hTail

/- Runs that go together are put together alike. -/
theorem alike_joined
    {ps : List (Token × Token)}
    (hSlices :
      ∀ q ∈ ps,
        Text.Alike (q.1.slice text) (q.2.slice text'))
    (hGaps : ps.IsChain SameGap) :
    Text.Alike
      (joined text (ps.map Prod.fst))
      (joined text' (ps.map Prod.snd)) := by
  cases ps with
  | nil => exact .nil
  | cons p ps =>
      have hHead := hSlices p List.mem_cons_self
      have hTail := alike_joinedAfter (fun q hq =>
        hSlices q (List.mem_cons_of_mem p hq)) hGaps
      exact hHead.append hTail

/- Tokens that go together are cut into the same runs. -/
theorem assemble_map_eq
    {ps : List (Token × Token)}
    (hSemicolons :
      ∀ p ∈ ps, p.1.isSemicolon = p.2.isSemicolon)
    (hSlices :
      ∀ p ∈ ps,
        Text.Alike (p.1.slice text) (p.2.slice text'))
    (hGaps : ps.IsChain SameGap) :
    assemble text (ps.map Prod.fst) =
      assemble text' (ps.map Prod.snd) := by
  let cut := fun p : Token × Token => p.1.isSemicolon
  have hFirst :
      runs (ps.map Prod.fst) =
        (pieces cut ps).map (List.map Prod.fst) :=
    pieces_map fun p _ => rfl
  have hSecond :
      runs (ps.map Prod.snd) =
        (pieces cut ps).map (List.map Prod.snd) :=
    pieces_map fun p hp => (hSemicolons p hp).symm
  unfold assemble
  rw [hFirst, hSecond, List.map_map, List.map_map]
  refine List.map_congr_left ?_
  intro run hMem
  have hInfix : run <:+: ps :=
    (maximalRuns_pieces cut ps).isInfix_of_mem hMem
  refine Text.Alike.normalize_eq (alike_joined ?_ ?_)
  · exact fun p hp => hSlices p (hInfix.mem hp)
  · exact hGaps.infix hInfix

theorem SameTokens.assemble_eq
    {tokens tokens' : List Token}
    (hSame : SameTokens text tokens text' tokens') :
    assemble text tokens = assemble text' tokens' := by
  have hEq := assemble_map_eq hSame.semicolons hSame.slices
    hSame.gaps
  rwa [List.map_fst_zip (Nat.le_of_eq hSame.length),
    List.map_snd_zip (Nat.le_of_eq hSame.length.symm)]
    at hEq

end SqlAudit.Script

------------------------------------------------------------
-- Statements And Checks
------------------------------------------------------------

namespace SqlAudit.Script

/- A script whose dialect finds tokens in it is audited. -/
theorem audit_eq_ok
    {config : Configuration}
    {d : Dialect}
    {text : List Char}
    {tokens : List Token}
    (hDialect : Dialect.choose config.dialect = .ok d)
    (hTokens : d.tokens text = .ok tokens)
    (catalog : List Rule) :
    audit config catalog text =
      .ok
        { dialect := config.dialect
          texts := assemble text tokens
          run := check config catalog
            (assemble text tokens) } := by
  have hStatements :
      statements text config.dialect =
        .ok (assemble text tokens) := by
    simp [statements, hDialect, hTokens]
  simp [audit, hStatements, bind, Except.bind, pure,
    Except.pure]

/-
  Texts whose tokens go together have the same statements,
  and a check of these has the same report, whatever stands
  between the tokens.  If these are the tokens that a dialect
  finds, audits of the two scripts come to the same.
-/
theorem audit_eq_of_sameTokens
    (text text' : List Char)
    (tokens tokens' : List Token)
    (hSame : SameTokens text tokens text' tokens') :
    assemble text tokens = assemble text' tokens' ∧
      (∀ config catalog,
        (check config catalog
            (assemble text tokens)).report =
          (check config catalog
            (assemble text' tokens')).report) ∧
      (∀ config catalog d,
        Dialect.choose config.dialect = .ok d →
        d.tokens text = .ok tokens →
        d.tokens text' = .ok tokens' →
        ∃ a,
          audit config catalog text = .ok a ∧
            audit config catalog text' = .ok a ∧
            a.texts = assemble text tokens) := by
  have hEq := hSame.assemble_eq
  refine ⟨hEq, ?_, ?_⟩
  · intro config catalog
    rw [hEq]
  · intro config catalog d hDialect hTokens hTokens'
    refine ⟨_, audit_eq_ok hDialect hTokens catalog, ?_, rfl⟩
    rw [audit_eq_ok hDialect hTokens' catalog, hEq]

/-
  A comment and a blank are gaps alike.  The letters have
  another case, and the blanks in the quoted text are others.
-/
theorem audit_eq_of_sameTokens_comment :
    let text := "SELECT 'x  y'/*c*/,AΣ;".toList
    let text' := "select 'X\ty' ,aΣ;".toList
    let tokens : List Token :=
      [⟨.hintable, 0, 6⟩, ⟨.other, 7, 13⟩, ⟨.other, 18, 19⟩,
        ⟨.other, 19, 21⟩, ⟨.semicolon, 21, 22⟩]
    let tokens' : List Token :=
      [⟨.hintable, 0, 6⟩, ⟨.other, 7, 12⟩, ⟨.other, 13, 14⟩,
        ⟨.other, 14, 16⟩, ⟨.semicolon, 16, 17⟩]
    SameTokens text tokens text' tokens' ∧
      Dialect.postgres.tokens text = .ok tokens ∧
      Dialect.postgres.tokens text' = .ok tokens' ∧
      assemble text tokens = ["select 'x y' ,aς".toList] ∧
      assemble text tokens = assemble text' tokens' := by
  intro text text' tokens tokens'
  have hOpening : Text.Alike "'x".toList "'X".toList :=
    .of_toLower_eq (by decide)
  have hBlanks :
      Text.Alike ("  ".toList ++ "y'".toList)
        ("\t".toList ++ "y'".toList) :=
    .blanks (by decide) (by decide)
      (List.all_eq_true.mp (by decide))
      (List.all_eq_true.mp (by decide))
      (.of_toLower_eq rfl)
  have hSame : SameTokens text tokens text' tokens' :=
    { length := rfl
      semicolons := by decide
      slices := by
        intro p hp
        simp only [tokens, tokens', List.zip_cons_cons,
          List.zip_nil_left, List.mem_cons,
          List.not_mem_nil, or_false] at hp
        rcases hp with rfl | rfl | rfl | rfl | rfl
        · exact .of_toLower_eq (by decide)
        · exact hOpening.append hBlanks
        · exact .of_toLower_eq (by decide)
        · exact .of_toLower_eq (by decide)
        · exact .of_toLower_eq (by decide)
      gaps := by decide }
  exact ⟨hSame, by decide, by decide, by decide,
    (audit_eq_of_sameTokens text text' tokens tokens'
      hSame).1⟩

end SqlAudit.Script
