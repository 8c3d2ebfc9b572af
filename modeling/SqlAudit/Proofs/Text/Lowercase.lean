import SqlAudit.Proofs.Text.LetterCase

/-
  Laws of lowercasing.

  Small forms are their own small forms, and they are blank
  only where the character itself is blank. So a text that
  has been lowercased stays as it is, and its words are where
  they were. A blank is neither cased nor passed over in the
  look around a sigma, so that a text is lowercased apart on
  either side of it.

  Key definitions include:
    * `SqlAudit.Text.isSmall`
    * `SqlAudit.Text.CaseRun.isSettled`

  Key theorems include:
    * `SqlAudit.Text.isSmall_of_mem_lowerChar`
    * `SqlAudit.Text.isBlank_of_mem_lowerChar`
    * `SqlAudit.Text.lowerAt_cases`
    * `SqlAudit.Text.lower_lower`
    * `SqlAudit.Text.lower_append_blank`
-/

------------------------------------------------------------
-- Ranges That Lie Apart
------------------------------------------------------------

namespace SqlAudit.Text

/- No interval meets the one between two code points. -/
def Ranges.clear
    (ranges : Ranges)
    (first last : Nat) : Bool :=
  ranges.all fun range =>
    last.blt range.1 || range.2.blt first

theorem Ranges.not_has_of_clear
    {ranges : Ranges}
    {first last : Nat}
    {c : Char}
    (hClear : ranges.clear first last = true)
    (hFirst : first ≤ c.toNat)
    (hLast : c.toNat ≤ last) :
    ranges.has c = false := by
  rw [has, List.any_eq_false]
  intro range hMem
  have hApart := List.all_eq_true.mp hClear range hMem
  simp only [Bool.or_eq_true, Nat.blt_eq] at hApart
  simp only [Bool.and_eq_true, decide_eq_true_eq]
  omega

/- Sets of intervals that lie apart share no character. -/
theorem Ranges.not_has_of_all_clear
    {ranges others : Ranges}
    {c : Char}
    (hClear :
      (others.all fun range =>
        ranges.clear range.1 range.2) = true)
    (hHas : others.has c = true) :
    ranges.has c = false := by
  rcases List.any_eq_true.mp hHas with ⟨range, hMem, hIn⟩
  simp only [Bool.and_eq_true, decide_eq_true_eq] at hIn
  have hRange := List.all_eq_true.mp hClear range hMem
  exact not_has_of_clear hRange hIn.1 hIn.2

end SqlAudit.Text

------------------------------------------------------------
-- Runs Of Capitals
------------------------------------------------------------

namespace SqlAudit.Text

namespace CaseRun

/- The code point of the small form of one of the run. -/
def small
    (run : CaseRun)
    (n : Nat) : Nat :=
  (n + run.offset).toNat

/-
  No small form of the run belongs to the other one: they lie
  apart, or the other one has every second code point, and
  the small forms lie in between.
-/
def misses
    (run other : CaseRun) : Bool :=
  (run.small run.last).blt other.first ||
    other.last.blt (run.small run.first) ||
    (other.step == 2 &&
      (run.step == 2 || run.first == run.last) &&
      run.small run.first % 2 != other.first % 2)

/-
  The code points that no small form of a run has: those up
  to the capital Z, the two capitals with a rule of their
  own, those that are no characters, and the blanks.
-/
def reserved : Ranges :=
  [ (0x0000, 0x005a), (0x0130, 0x0130), (0x03a3, 0x03a3),
    (0xd800, 0xdfff) ] ++ blankRanges

/-
  The capitals of the run are no blanks, and their small
  forms are characters that are no capitals and no blanks.
-/
def isSettled (run : CaseRun) : Bool :=
  blankRanges.clear run.first run.last &&
    reserved.clear (run.small run.first)
      (run.small run.last) &&
    (run.small run.last).blt 0x110000 &&
    caseRuns.all run.misses

theorem isSettled_of_mem
    {run : CaseRun}
    (hMem : run ∈ caseRuns) :
    run.isSettled = true := by
  have hAll : caseRuns.all isSettled = true := by
    decide +kernel
  exact List.all_eq_true.mp hAll run hMem

theorem has_iff
    {run : CaseRun}
    {n : Nat} :
    run.has n = true ↔
      run.first ≤ n ∧ n ≤ run.last ∧
        (n - run.first) % run.step = 0 := by
  simp [has, and_assoc]

section

variable {run : CaseRun}
variable {n : Nat}
variable (hMem : run ∈ caseRuns)
variable (hHas : run.has n = true)

include hMem hHas

/- Small forms are as far apart as their capitals. -/
theorem small_eq :
    run.small n = run.small run.first + (n - run.first) ∧
      run.small n ≤ run.small run.last := by
  have hSettled := isSettled_of_mem hMem
  simp only [isSettled, reserved, Ranges.clear,
    List.cons_append, List.all_cons, Bool.and_eq_true,
    Bool.or_eq_true, Nat.blt_eq] at hSettled
  rcases has_iff.mp hHas with ⟨hFirst, hLast, _⟩
  unfold small at *
  omega

theorem small_isValidChar : (run.small n).isValidChar := by
  have hSettled := isSettled_of_mem hMem
  simp only [isSettled, reserved, Ranges.clear,
    List.cons_append, List.all_cons, Bool.and_eq_true,
    Bool.or_eq_true, Nat.blt_eq] at hSettled
  rcases small_eq hMem hHas with ⟨hFirst, hLast⟩
  unfold Nat.isValidChar
  omega

theorem toNat_small :
    (Char.ofNat (run.small n)).toNat = run.small n := by
  rw [Char.ofNat, dif_pos (small_isValidChar hMem hHas)]
  rfl

theorem not_reserved_small :
    reserved.has (Char.ofNat (run.small n)) = false := by
  have hSettled := isSettled_of_mem hMem
  simp only [isSettled, Bool.and_eq_true] at hSettled
  rcases small_eq hMem hHas with ⟨hFirst, hLast⟩
  apply Ranges.not_has_of_clear hSettled.1.1.2
  · rw [toNat_small hMem hHas]
    omega
  · rwa [toNat_small hMem hHas]

theorem lt_toNat_small :
    'Z'.toNat < (Char.ofNat (run.small n)).toNat := by
  have hFree := not_reserved_small hMem hHas
  simp only [reserved, Ranges.has, List.cons_append,
    List.any_cons, Bool.or_eq_false_iff, Nat.zero_le,
    decide_true, Bool.true_and, decide_eq_false_iff_not,
    Nat.not_le] at hFree
  exact hFree.1

theorem isBlank_small :
    isBlank (Char.ofNat (run.small n)) = false := by
  have hFree := not_reserved_small hMem hHas
  rw [reserved, Ranges.has, List.any_append,
    Bool.or_eq_false_iff] at hFree
  exact hFree.2

theorem isBlank_capital
    {c : Char}
    (hChar : c.toNat = n) :
    isBlank c = false := by
  have hSettled := isSettled_of_mem hMem
  simp only [isSettled, Bool.and_eq_true] at hSettled
  rcases has_iff.mp hHas with ⟨hFirst, hLast, _⟩
  apply Ranges.not_has_of_clear hSettled.1.1.1
  · rwa [hChar]
  · rwa [hChar]

/- The small form of a capital is no capital. -/
theorem not_has_small
    {other : CaseRun}
    (hOther : other ∈ caseRuns) :
    other.has (run.small n) = false := by
  have hSettled := isSettled_of_mem hMem
  simp only [isSettled, Bool.and_eq_true] at hSettled
  have hMisses :=
    List.all_eq_true.mp hSettled.2 other hOther
  simp only [misses, Bool.or_eq_true, Nat.blt_eq,
    Bool.and_eq_true, beq_iff_eq, bne_iff_ne] at hMisses
  rcases small_eq hMem hHas with ⟨hFirst, hLast⟩
  rcases has_iff.mp hHas with ⟨_, _, hStep⟩
  rw [Bool.eq_false_iff, Ne, has_iff]
  rintro ⟨hFrom, hTo, hOtherStep⟩
  rcases hMisses with (hBefore | hBehind) | hBetween
  · omega
  · omega
  · rcases hBetween with ⟨⟨hTwo, hEven | hOne⟩, hParity⟩
    · rw [hTwo] at hOtherStep
      rw [hEven] at hStep
      omega
    · rw [hTwo] at hOtherStep
      omega

end

end CaseRun

end SqlAudit.Text

------------------------------------------------------------
-- Small Forms Of Characters
------------------------------------------------------------

namespace SqlAudit.Text

/- The five ways in which a character has a small form. -/
theorem lowerChar_cases
    (c : Char) :
    c.toNat < 0x80 ∧ lowerChar c = [c.toLower] ∨
      c = 'Σ' ∧ lowerChar c = ['σ'] ∨
      c = 'İ' ∧ lowerChar c = ['i', '\u0307'] ∨
      (∃ run ∈ caseRuns,
        run.has c.toNat = true ∧
          lowerChar c = [Char.ofNat (run.small c.toNat)]) ∨
      lowerChar c = [c] := by
  unfold lowerChar
  by_cases hAscii : c.toNat < 0x80
  · exact .inl ⟨hAscii, if_pos hAscii⟩
  rw [if_neg hAscii]
  by_cases hSigma : c = 'Σ'
  · exact .inr (.inl ⟨hSigma, if_pos (by simp [hSigma])⟩)
  rw [if_neg (by simpa using hSigma)]
  by_cases hDotted : c = 'İ'
  · exact .inr (.inr (.inl
      ⟨hDotted, if_pos (by simp [hDotted])⟩))
  rw [if_neg (by simpa using hDotted)]
  cases hFind : caseRuns.find? fun run => run.has c.toNat with
  | none => exact .inr (.inr (.inr (.inr rfl)))
  | some run =>
      have hMem := List.mem_of_find?_eq_some hFind
      have hHas := List.find?_some hFind
      exact .inr (.inr (.inr (.inl ⟨run, hMem, hHas, rfl⟩)))

/- The character is its own small form. -/
def isSmall (c : Char) : Bool :=
  lowerChar c == [c]

theorem isSmall_iff
    {c : Char} :
    isSmall c = true ↔ lowerChar c = [c] :=
  beq_iff_eq

theorem toLower_eq_of_lt
    {c : Char}
    (hLt : 'Z'.toNat < c.toNat) :
    c.toLower = c := by
  refine dif_neg ?_
  rintro ⟨_, hLe⟩
  exact absurd hLe (Nat.not_le.mpr hLt)

/- The small form of a capital of a run is small. -/
theorem isSmall_of_run
    {run : CaseRun}
    {n : Nat}
    (hMem : run ∈ caseRuns)
    (hHas : run.has n = true) :
    isSmall (Char.ofNat (run.small n)) = true := by
  have hFree := CaseRun.not_reserved_small hMem hHas
  have hLt := CaseRun.lt_toNat_small hMem hHas
  have hNat := CaseRun.toNat_small hMem hHas
  rw [isSmall_iff]
  generalize Char.ofNat (run.small n) = c at *
  rcases lowerChar_cases c with ⟨_, hLower⟩ | ⟨rfl, _⟩ |
    ⟨rfl, _⟩ | ⟨other, hOther, hCapital, _⟩ | hSelf
  · rw [hLower, toLower_eq_of_lt hLt]
  · exact absurd hFree (by decide)
  · exact absurd hFree (by decide)
  · rw [hNat, CaseRun.not_has_small hMem hHas hOther]
      at hCapital
    cases hCapital
  · exact hSelf

/- Small forms are small. -/
theorem isSmall_of_mem_lowerChar
    {c x : Char}
    (hMem : x ∈ lowerChar c) :
    isSmall x = true := by
  rcases lowerChar_cases c with ⟨hAscii, hLower⟩ |
    ⟨_, hLower⟩ | ⟨_, hLower⟩ | ⟨run, hRun, hHas, hLower⟩ |
    hLower
  · rw [hLower, List.mem_singleton] at hMem
    rw [hMem, isSmall_iff, lowerChar_toLower, hLower]
  · rw [hLower, List.mem_singleton] at hMem
    rw [hMem]
    decide +kernel
  · rw [hLower] at hMem
    rcases List.mem_pair.mp hMem with rfl | rfl
    · decide
    · decide +kernel
  · rw [hLower, List.mem_singleton] at hMem
    rw [hMem]
    exact isSmall_of_run hRun hHas
  · rw [hLower, List.mem_singleton] at hMem
    rw [hMem]
    exact isSmall_iff.mpr hLower

/- A small form is blank if its character is. -/
theorem isBlank_of_mem_lowerChar
    {c x : Char}
    (hMem : x ∈ lowerChar c) :
    isBlank x = isBlank c := by
  rcases lowerChar_cases c with ⟨_, hLower⟩ | ⟨hSigma, hLower⟩ |
    ⟨hDotted, hLower⟩ | ⟨run, hRun, hHas, hLower⟩ | hLower
  · rw [hLower, List.mem_singleton] at hMem
    rw [hMem, isBlank_toLower]
  · rw [hLower, List.mem_singleton] at hMem
    rw [hMem, hSigma]
    decide
  · rw [hLower] at hMem
    rcases List.mem_pair.mp hMem with rfl | rfl
    · rw [hDotted]; decide
    · rw [hDotted]; decide
  · rw [hLower, List.mem_singleton] at hMem
    rw [hMem, CaseRun.isBlank_small hRun hHas,
      CaseRun.isBlank_capital hRun hHas rfl]
  · rw [hLower, List.mem_singleton] at hMem
    rw [hMem]

theorem lowerChar_ne_nil
    (c : Char) :
    lowerChar c ≠ [] := by
  rcases lowerChar_cases c with ⟨_, hLower⟩ | ⟨_, hLower⟩ |
    ⟨_, hLower⟩ | ⟨_, _, _, hLower⟩ | hLower
  all_goals simp [hLower]

end SqlAudit.Text

------------------------------------------------------------
-- Lowercased Texts
------------------------------------------------------------

namespace SqlAudit.Text

/- What stands around matters to a final sigma only. -/
theorem lowerAt_cases
    (before : Bool)
    (c : Char)
    (after : List Char) :
    c = 'Σ' ∧ lowerAt before c after = ['ς'] ∨
      lowerAt before c after = lowerChar c := by
  unfold lowerAt
  by_cases hFinal :
      (c == 'Σ' && before && !startsCased after) = true
  · rw [if_pos hFinal]
    simp only [Bool.and_eq_true, beq_iff_eq] at hFinal
    exact .inl ⟨hFinal.1.1, rfl⟩
  · rw [if_neg hFinal]
    exact .inr rfl

theorem of_mem_lowerAt
    {before : Bool}
    {c x : Char}
    {after : List Char}
    (hMem : x ∈ lowerAt before c after) :
    isSmall x = true ∧ isBlank x = isBlank c := by
  rcases lowerAt_cases before c after with
    ⟨rfl, hFinal⟩ | hOther
  · rw [hFinal, List.mem_singleton] at hMem
    rw [hMem]
    decide +kernel
  · rw [hOther] at hMem
    exact ⟨isSmall_of_mem_lowerChar hMem,
      isBlank_of_mem_lowerChar hMem⟩

theorem exists_of_mem_lowerFrom
    {before : Bool}
    {s : List Char}
    {x : Char}
    (hMem : x ∈ lowerFrom before s) :
    ∃ c ∈ s, isSmall x = true ∧ isBlank x = isBlank c := by
  induction s generalizing before with
  | nil => cases hMem
  | cons c s ih =>
      rcases List.mem_append.mp hMem with hHead | hTail
      · exact ⟨c, List.mem_cons_self, of_mem_lowerAt hHead⟩
      · rcases ih hTail with ⟨d, hIn, hLaws⟩
        exact ⟨d, List.mem_cons_of_mem c hIn, hLaws⟩

/- A text of small characters stays as it is. -/
theorem lowerFrom_eq_self
    {s : List Char}
    (before : Bool)
    (hSmall : ∀ c ∈ s, isSmall c = true) :
    lowerFrom before s = s := by
  induction s generalizing before with
  | nil => rfl
  | cons c s ih =>
      rcases List.forall_mem_cons.mp hSmall with
        ⟨hHead, hTail⟩
      have hChar := isSmall_iff.mp hHead
      have hSigma : (c == 'Σ') = false := by
        rw [beq_eq_false_iff_ne]
        rintro rfl
        exact absurd hHead (by decide)
      rw [lowerFrom, lowerAt, hSigma, Bool.false_and,
        Bool.false_and, if_neg Bool.false_ne_true, hChar,
        ih _ hTail, List.singleton_append]

/- Lowercasing twice is as good as once. -/
theorem lower_lower
    (s : List Char) :
    lower (lower s) = lower s := by
  apply lowerFrom_eq_self
  intro x hMem
  rcases exists_of_mem_lowerFrom hMem with ⟨_, _, hSmall, _⟩
  exact hSmall

/- A text without blanks has none in small letters. -/
theorem isBlank_of_mem_lower
    {s : List Char}
    {x : Char}
    (hVisible : ∀ c ∈ s, isBlank c = false)
    (hMem : x ∈ lower s) :
    isBlank x = false := by
  rcases exists_of_mem_lowerFrom hMem with ⟨c, hIn, _, hSame⟩
  rw [hSame, hVisible c hIn]

theorem lower_ne_nil
    {s : List Char}
    (hSome : s ≠ []) :
    lower s ≠ [] := by
  rcases List.exists_cons_of_ne_nil hSome with ⟨c, rest, rfl⟩
  have hHead : lowerAt false c rest ≠ [] := by
    rcases lowerAt_cases false c rest with
      ⟨_, hFinal⟩ | hOther
    · simp [hFinal]
    · simp [hOther, lowerChar_ne_nil]
  simp [lower, lowerFrom, hHead]

end SqlAudit.Text

------------------------------------------------------------
-- Blanks In Lowercased Texts
------------------------------------------------------------

namespace SqlAudit.Text

section

variable {b : Char}
variable (hBlank : isBlank b = true)

include hBlank

/- The ASCII blanks, of which there are ten. -/
theorem of_isBlank_of_ascii
    (hAscii : b.toNat < 0x80) :
    isCased b = false ∧ isIgnorable b = false ∧
      b.toLower = b := by
  have hTable :
      ∀ n : Fin 128,
        isBlank (Char.ofNat n) = true →
          isCased (Char.ofNat n) = false ∧
            isIgnorable (Char.ofNat n) = false ∧
            (Char.ofNat n).toLower = Char.ofNat n := by
    decide
  have hChar := hTable ⟨b.toNat, hAscii⟩
  rw [Char.ofNat_toNat] at hChar
  exact hChar hBlank

theorem isCased_of_isBlank : isCased b = false := by
  by_cases hAscii : b.toNat < 0x80
  · exact (of_isBlank_of_ascii hBlank hAscii).1
  · rw [isCased, if_neg hAscii]
    exact Ranges.not_has_of_all_clear (by decide +kernel)
      hBlank

theorem isIgnorable_of_isBlank : isIgnorable b = false := by
  by_cases hAscii : b.toNat < 0x80
  · exact (of_isBlank_of_ascii hBlank hAscii).2.1
  · rw [isIgnorable, if_neg hAscii]
    exact Ranges.not_has_of_all_clear (by decide +kernel)
      hBlank

theorem lowerChar_of_isBlank : lowerChar b = [b] := by
  rcases lowerChar_cases b with ⟨hAscii, hLower⟩ | ⟨rfl, _⟩ |
    ⟨rfl, _⟩ | ⟨run, hRun, hHas, _⟩ | hSelf
  · rw [hLower, (of_isBlank_of_ascii hBlank hAscii).2.2]
  · exact absurd hBlank (by decide)
  · exact absurd hBlank (by decide)
  · rw [CaseRun.isBlank_capital hRun hHas rfl] at hBlank
    cases hBlank
  · exact hSelf

/- The look behind a sigma ends at a blank. -/
theorem startsCased_append_blank
    (u v : List Char) :
    startsCased (u ++ b :: v) = startsCased u := by
  have hCased := isCased_of_isBlank hBlank
  have hCounts := isIgnorable_of_isBlank hBlank
  induction u with
  | nil => simp [startsCased, hCounts, hCased]
  | cons c u ih =>
      cases hIgnorable : isIgnorable c with
      | false => simp [startsCased, hIgnorable]
      | true =>
          simpa [startsCased, hIgnorable] using ih

theorem lowerAt_append_blank
    (before : Bool)
    (c : Char)
    (u v : List Char) :
    lowerAt before c (u ++ b :: v) = lowerAt before c u := by
  unfold lowerAt
  rw [startsCased_append_blank hBlank]

/- A text is lowercased apart on either side of a blank. -/
theorem lowerFrom_append_blank
    (before : Bool)
    (u v : List Char) :
    lowerFrom before (u ++ b :: v) =
      lowerFrom before u ++ b :: lowerFrom false v := by
  induction u generalizing before with
  | nil =>
      have hSigma : (b == 'Σ') = false := by
        rw [beq_eq_false_iff_ne]
        rintro rfl
        exact absurd hBlank (by decide)
      simp [lowerFrom, lowerAt, casedAfter, hSigma,
        lowerChar_of_isBlank hBlank,
        isCased_of_isBlank hBlank,
        isIgnorable_of_isBlank hBlank]
  | cons c u ih =>
      rw [List.cons_append, lowerFrom, ih,
        lowerAt_append_blank hBlank, lowerFrom,
        List.append_assoc]

theorem lower_append_blank
    (u v : List Char) :
    lower (u ++ b :: v) = lower u ++ b :: lower v :=
  lowerFrom_append_blank hBlank false u v

end

end SqlAudit.Text
