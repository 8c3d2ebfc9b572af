import Mathlib.Data.List.Basic
import Mathlib.Tactic.SplitIfs
import SqlAudit.Proofs.Except
import SqlAudit.Token.Scan

/-
  What a lexeme takes from a text.

  Every reader goes forward: what it leaves is the end of the
  text that it was given, and it takes at least the first
  character.  A semicolon is a lexeme of one character, and a
  comment is passed over only where its opening mark stands
  in the text.

  Key definitions include:
    * `SqlAudit.Dialect.Takes`

  Key theorems include:
    * `SqlAudit.Enclosure.read_suffix`
    * `SqlAudit.Dialect.phrase_suffix`
    * `SqlAudit.Dialect.phrase_opener`
    * `SqlAudit.Dialect.lexeme_takes`
-/

------------------------------------------------------------
-- Numbers and Words
------------------------------------------------------------

namespace SqlAudit.Dialect

variable (d : Dialect)

theorem numberEnd_suffix
    (marked point : Bool)
    (exponent : Exponent)
    (last : Char)
    (s : List Char) :
    d.numberEnd marked point exponent last s <:+ s := by
  fun_induction numberEnd d marked point exponent last s with
  | case1 => exact List.suffix_rfl
  | case2 _ _ _ c rest _ ih
  | case4 _ _ _ c rest _ _ _ ih
  | case5 _ _ _ c rest _ _ _ _ _ ih
  | case7 _ _ _ c rest _ _ _ _ ih
  | case8 _ _ _ c rest _ _ _ _ _ _ ih =>
      exact ih.trans (List.suffix_cons c rest)
  | case3 | case6 | case10 => exact List.suffix_rfl
  | case9 => exact List.dropWhile_suffix _

/- A number takes its first digit. -/
theorem readNumber_suffix
    (marked : Bool)
    (s : List Char) :
    d.readNumber marked s <:+ s.tail := by
  fun_cases readNumber d marked s with
  | case1 => exact List.suffix_rfl
  | case2 c rest =>
      exact (List.dropWhile_suffix _).trans
        (List.suffix_cons c rest)
  | case3 => exact List.suffix_rfl
  | case4 | case5 => exact numberEnd_suffix _ _ _ _ _ _

/- A character by itself, or a word, takes a character. -/
theorem readWord_suffix
    (last : Option Token.Kind)
    (s : List Char) :
    (d.readWord last s).2 <:+ s.tail := by
  fun_cases readWord d last s with
  | case1 | case2 => exact List.suffix_rfl
  | case3 => exact List.dropWhile_suffix _

theorem kindOf_ne_semicolon
    (word : List Char) :
    d.kindOf word ≠ .semicolon := by
  unfold kindOf
  split_ifs <;> simp

/- A semicolon stands by itself. -/
theorem readWord_semicolon
    {last : Option Token.Kind}
    {s : List Char}
    (hKind : (d.readWord last s).1 = .semicolon) :
    s = ';' :: (d.readWord last s).2 := by
  fun_cases readWord d last s with
  | case1 => simp [readWord] at hKind
  | case2 c rest hSingle =>
      rw [readWord, if_pos hSingle] at hKind
      dsimp only [singleKind] at hKind
      split_ifs at hKind with hSemicolon
      rw [beq_iff_eq.mp hSemicolon]
  | case3 c rest hSingle =>
      rw [readWord, if_neg hSingle] at hKind
      dsimp only at hKind
      split_ifs at hKind
      exact absurd hKind (d.kindOf_ne_semicolon _)

end SqlAudit.Dialect

------------------------------------------------------------
-- Literals and Names
------------------------------------------------------------

namespace SqlAudit

/- What follows the closing mark is the end of the text. -/
theorem Enclosure.read_suffix
    {e : Enclosure}
    {quotes held s : List Char}
    {result : List Char × List Char}
    (hRead : e.read quotes held s = .ok result) :
    result.2 <:+ s := by
  fun_induction Enclosure.read e quotes held s with
  | case1 => cases hRead
  | case2 => cases hRead; exact List.nil_suffix
  | case3 => cases hRead
  | case4 => cases hRead; exact List.nil_suffix
  | case5 held c p rest _ ih
  | case7 held c p rest _ _ _ ih =>
      exact (ih hRead).trans
        (List.suffix_append [c, p] rest)
  | case6 => cases hRead
  | case8 => cases hRead; exact List.drop_suffix _ _
  | case9 held c p rest _ _ _ ih =>
      exact (ih hRead).trans (List.suffix_cons c (p :: rest))

namespace Dialect

variable {d : Dialect}

theorem afterMark_eq_ok
    {mark s rest : List Char}
    (hRead : afterMark mark s = .ok rest) :
    rest = s.drop mark.length := by
  unfold afterMark at hRead
  split at hRead
  · cases hRead
  · cases hRead; rfl

/- A mark is not empty, so that it takes a character. -/
theorem afterMark_suffix
    {c : Char}
    {mark s rest : List Char}
    (hRead : afterMark (c :: mark) s = .ok rest) :
    rest <:+ s.tail := by
  rw [afterMark_eq_ok hRead, List.length_cons,
    ← List.drop_tail]
  exact List.drop_suffix _ _

theorem readName_suffix
    {closer : Char}
    {s rest : List Char}
    (hRead : d.readName closer s = .ok rest) :
    rest <:+ s.tail := by
  rcases ok_of_bind_eq_ok hRead with ⟨body, hMark, hRead⟩
  rcases ok_of_bind_eq_ok hRead with
    ⟨result, hBody, hRest⟩
  cases hRest
  exact (Enclosure.read_suffix hBody).trans
    (afterMark_suffix hMark)

theorem readPlain_suffix
    {c : Char}
    {l : Literal}
    {mark s rest : List Char}
    (hOpener : l.opener = c :: mark)
    (hRead : d.readPlain l s = .ok rest) :
    rest <:+ s.tail := by
  rcases ok_of_bind_eq_ok hRead with ⟨body, hMark, hRead⟩
  rcases ok_of_bind_eq_ok hRead with
    ⟨⟨held, left⟩, hBody, hRest⟩
  rw [hOpener] at hMark
  have hLeft : rest = left := by
    dsimp only at hRest
    split at hRest
    · split_ifs at hRest
      cases hRest; rfl
    · split_ifs at hRest
      cases hRest; rfl
    · cases hRest; rfl
  subst hLeft
  exact (Enclosure.read_suffix hBody).trans
    (afterMark_suffix hMark)

/- A tagged text takes its first mark. -/
theorem readTagged_suffix
    {l : Literal}
    {s : List Char}
    {result : Token.Kind × List Char}
    (hRead : d.readTagged l s = .ok result) :
    result.1 ≠ .semicolon ∧ result.2 <:+ s.tail := by
  rcases ok_of_bind_eq_ok hRead with ⟨first, hMark, hRead⟩
  have hFirst := afterMark_suffix hMark
  dsimp only at hRead
  split_ifs at hRead
  · rcases ok_of_bind_eq_ok hRead with
      ⟨body, hSecond, hRead⟩
    rcases ok_of_bind_eq_ok hRead with ⟨_, hBody, hRest⟩
    cases hRest
    refine ⟨by simp, (Enclosure.read_suffix hBody).trans ?_⟩
    exact (afterMark_suffix hSecond).trans
      ((List.tail_suffix first).trans hFirst)
  · rcases ok_of_bind_eq_ok hRead with
      ⟨⟨tag, body⟩, hTag, hRead⟩
    dsimp only at hRead
    split_ifs at hRead
    · rcases ok_of_bind_eq_ok hRead with ⟨_, hBody, hRest⟩
      cases hRest
      refine ⟨by simp, ?_⟩
      exact (Enclosure.read_suffix hBody).trans
        ((Enclosure.read_suffix hTag).trans hFirst)
    · cases hRead
      exact ⟨by simp,
        (List.drop_suffix _ first).trans hFirst⟩
    · cases hRead
      exact ⟨by simp, hFirst⟩

theorem readLiteral_suffix
    {c : Char}
    {l : Literal}
    {mark s : List Char}
    {result : Token.Kind × List Char}
    (hOpener : l.opener = c :: mark)
    (hRead : d.readLiteral l s = .ok result) :
    result.1 ≠ .semicolon ∧ result.2 <:+ s.tail := by
  unfold readLiteral at hRead
  split_ifs at hRead
  · exact readTagged_suffix hRead
  · rcases ok_of_map_eq_ok hRead with ⟨rest, hPlain, rfl⟩
    exact ⟨by simp, readPlain_suffix hOpener hPlain⟩

end Dialect

end SqlAudit

------------------------------------------------------------
-- Comments
------------------------------------------------------------

namespace SqlAudit.Dialect

variable {d : Dialect}

theorem blockEnd_suffix
    {first second : Char}
    {inner : Option (List Char)}
    {depth : Nat}
    {s rest : List Char}
    (hRead : blockEnd first second inner depth s = .ok rest) :
    rest <:+ s := by
  fun_induction blockEnd first second inner depth s with
  | case1 => cases hRead
  | case2 => cases hRead
  | case3 => cases hRead; exact List.nil_suffix
  | case4 => cases hRead
  | case5 depth c p q s =>
      cases hRead
      exact List.suffix_append [c, p] (q :: s)
  | case6 depth c p q s _ _ _ _ ih =>
      exact (ih hRead).trans (List.suffix_append [c, p, q] s)
  | case7 depth c p q s _ _ _ _ ih =>
      exact (ih hRead).trans
        (List.suffix_cons c (p :: q :: s))

theorem readComment_suffix
    {c : Char}
    {k : Comment}
    {mark s rest : List Char}
    (hOpener : k.opener = c :: mark)
    (hRead : d.readComment k s = .ok rest) :
    rest <:+ s.tail := by
  unfold readComment at hRead
  split at hRead
  · cases hRead
    rw [List.drop_one]
    exact List.dropWhile_suffix _
  · rcases ok_of_bind_eq_ok hRead with ⟨body, hMark, hRead⟩
    rw [hOpener] at hMark
    exact (blockEnd_suffix hRead).trans
      (afterMark_suffix hMark)

end SqlAudit.Dialect

------------------------------------------------------------
-- Phrases
------------------------------------------------------------

namespace SqlAudit.Dialect

variable {d : Dialect}

theorem phraseFrom_suffix
    (openers : List (List Char))
    (read : List Char)
    (found : Option (List Char))
    (spaced single : Bool)
    (s : List Char) :
    (d.phraseFrom openers read found spaced single s).rest
      <:+ s := by
  fun_induction phraseFrom d openers read found spaced
      single s with
  | case1 => exact List.suffix_rfl
  | case2 _ _ _ _ _ c rest _ _ _ ih =>
      exact ih.trans (List.suffix_cons c rest)
  | case3 => exact List.suffix_rfl
  | case4 _ _ _ _ _ c rest _ _ _ _ _ _ _ ih =>
      exact ih.trans (List.suffix_cons c rest)

/-
  A phrase that is found is not empty, and each character of
  it is a space or stands in the text.
-/
theorem phraseFrom_opener
    (text : List Char)
    (openers : List (List Char))
    (read : List Char)
    (found : Option (List Char))
    (spaced single : Bool)
    (s : List Char)
    {opener : List Char}
    (hText : s ⊆ text)
    (hRead : ∀ c ∈ read, c = ' ' ∨ c ∈ text)
    (hFound :
      ∀ w, found = some w →
        w ≠ [] ∧ ∀ c ∈ w, c = ' ' ∨ c ∈ text)
    (hOpener :
      (d.phraseFrom openers read found spaced single s).opener
        = some opener) :
    opener ≠ [] ∧ ∀ c ∈ opener, c = ' ' ∨ c ∈ text := by
  fun_induction phraseFrom d openers read found spaced
      single s with
  | case1 | case3 =>
      rcases Option.map_eq_some_iff.mp hOpener with
        ⟨w, hSome, rfl⟩
      simpa using hFound w hSome
  | case2 _ _ _ _ _ c rest _ _ _ ih =>
      exact ih (fun x hx => hText (List.mem_cons_of_mem c hx))
        hRead hFound hOpener
  | case4 _ _ _ _ _ c rest _ blank _ c' read' _ found' ih =>
      have hRead' : ∀ x ∈ read', x = ' ' ∨ x ∈ text := by
        intro x hx
        rcases List.mem_cons.mp hx with hNew | hOld
        · subst hNew
          by_cases hBlank : blank = true
          · exact .inl (if_pos hBlank)
          · refine .inr ?_
            rw [show c' = c from if_neg hBlank]
            exact hText List.mem_cons_self
        · exact hRead x hOld
      refine ih
        (fun x hx => hText (List.mem_cons_of_mem c hx))
        hRead' ?_ hOpener
      intro w hSome
      dsimp only [found'] at hSome
      split_ifs at hSome
      · cases hSome
        exact ⟨List.cons_ne_nil _ _, hRead'⟩
      · exact hFound w hSome

end SqlAudit.Dialect

------------------------------------------------------------
-- One Lexeme
------------------------------------------------------------

namespace SqlAudit.Dialect

variable {d : Dialect}

/- A phrase that is found takes a character of the text. -/
theorem phrase_suffix
    {s opener : List Char}
    (hOpener : (d.phrase s).opener = some opener) :
    (d.phrase s).rest <:+ s.tail := by
  unfold phrase at hOpener ⊢
  cases s with
  | nil => simp [phraseFrom] at hOpener
  | cons c rest =>
      simp only [phraseFrom, Bool.and_false] at hOpener ⊢
      split at hOpener
      · cases ‹_ = true›
      · split at hOpener
        · simp at hOpener
        · exact phraseFrom_suffix _ _ _ _ _ _

theorem phrase_opener
    {s opener : List Char}
    (hOpener : (d.phrase s).opener = some opener) :
    opener ≠ [] ∧ ∀ c ∈ opener, c = ' ' ∨ c ∈ s :=
  phraseFrom_opener s _ _ _ _ _ s (List.Subset.refl s)
    (by simp) (by simp) hOpener

theorem literal?_opener
    {opener : List Char}
    {l : Literal}
    (hLiteral : d.literal? opener = some l) :
    l.opener = opener := by
  have hFind :
      ∀ l, d.literals.find? (·.opener == opener) = some l →
        l.opener = opener := by
    intro l hFound
    simpa using List.find?_some hFound
  unfold literal? at hLiteral
  split at hLiteral
  · split_ifs at hLiteral
    · cases hLiteral; rfl
    · exact hFind l hLiteral
  · exact hFind l hLiteral

theorem comment?_opener
    {opener : List Char}
    {k : Comment}
    (hComment : d.comment? opener = some k) :
    k ∈ d.comments ∧ k.opener = opener :=
  ⟨List.mem_of_find?_eq_some hComment,
    by simpa using List.find?_some hComment⟩

/-
  What a lexeme may take from a text.  What is left is the end
  of the text, without its first character at least.  A
  semicolon is a lexeme by itself.  Without a token the lexeme
  is a comment, and all of its opening mark stands in the
  text.
-/
structure Takes
    (d : Dialect)
    (s : List Char)
    (kind? : Option Token.Kind)
    (after : List Char) : Prop where
  forward : after <:+ s.tail
  semicolon : kind? = some .semicolon → s = ';' :: after
  comment :
    kind? = none →
      ∃ k ∈ d.comments, ∀ c ∈ k.opener, c = ' ' ∨ c ∈ s

theorem Takes.of_token
    {s after : List Char}
    {kind : Token.Kind}
    (hForward : after <:+ s.tail)
    (hKind : kind ≠ .semicolon) :
    d.Takes s (some kind) after where
  forward := hForward
  semicolon := by
    intro hSemicolon
    exact absurd (Option.some.inj hSemicolon) hKind
  comment := by simp

theorem readWord_takes
    (last : Option Token.Kind)
    (s : List Char) :
    d.Takes s (some (d.readWord last s).1)
      (d.readWord last s).2 where
  forward := d.readWord_suffix last s
  semicolon := by
    intro hKind
    exact d.readWord_semicolon (Option.some.inj hKind)
  comment := by simp

theorem readComment_takes
    {k : Comment}
    {isHint : Bool}
    {s opener after : List Char}
    (hOpener : (d.phrase s).opener = some opener)
    (hComment : d.comment? opener = some k)
    (hRead : d.readComment k s = .ok after) :
    d.Takes s (if isHint then some .other else none)
      after := by
  rcases comment?_opener hComment with ⟨hMem, rfl⟩
  rcases phrase_opener hOpener with ⟨hSome, hChars⟩
  rcases List.exists_cons_of_ne_nil hSome with
    ⟨c, mark, hCons⟩
  refine ⟨readComment_suffix hCons hRead, ?_, ?_⟩
  · cases isHint <;> simp
  · intro _
    exact ⟨k, hMem, hChars⟩

/- Every lexeme of a text takes what a lexeme may take. -/
theorem lexeme_takes
    {last : Option Token.Kind}
    {s after : List Char}
    {kind? : Option Token.Kind}
    (hSome : s ≠ [])
    (hLexeme : d.lexeme last s = .ok (kind?, after)) :
    d.Takes s kind? after := by
  rcases List.exists_cons_of_ne_nil hSome with ⟨c, rest, hS⟩
  have hWord := d.readWord_takes last s
  unfold lexeme at hLexeme
  rw [hS] at hLexeme
  dsimp only at hLexeme
  rw [← hS] at hLexeme
  split_ifs at hLexeme
  · cases hLexeme
    exact .of_token (d.readNumber_suffix _ s) (by simp)
  split at hLexeme
  · rcases ok_of_map_eq_ok hLexeme with ⟨left, hName, hEq⟩
    cases hEq
    exact .of_token (readName_suffix hName) (by simp)
  split at hLexeme
  · cases hLexeme
    exact hWord
  rename_i opener hOpener
  split at hLexeme
  · rename_i l hLiteral
    rcases ok_of_map_eq_ok hLexeme with
      ⟨⟨kind, left⟩, hRead, hEq⟩
    cases hEq
    rcases List.exists_cons_of_ne_nil
      (phrase_opener hOpener).1 with ⟨p, mark, hCons⟩
    have hMark := (literal?_opener hLiteral).trans hCons
    rcases readLiteral_suffix hMark hRead with
      ⟨hKind, hForward⟩
    exact .of_token hForward hKind
  split at hLexeme
  · rename_i k hComment
    rcases Option.filter_eq_some_iff.mp hComment with
      ⟨hComment, _⟩
    rcases ok_of_map_eq_ok hLexeme with ⟨left, hRead, hEq⟩
    cases hEq
    exact readComment_takes hOpener hComment hRead
  split_ifs at hLexeme
  · cases hLexeme
    exact .of_token (phrase_suffix hOpener)
      (d.kindOf_ne_semicolon _)
  · cases hLexeme
    exact hWord

end SqlAudit.Dialect
