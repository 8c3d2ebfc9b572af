import SqlAudit.Proofs.Value.Symbols

/-
  Words in JSON text, and what they say.

  A word is a name or a number. Integers are read as such;
  other numbers keep their spelling. The words that values
  are written as say what the values are.

  Key definitions include:
    * `SqlAudit.Json.Document`
    * `SqlAudit.Json.ofWord?`
    * `SqlAudit.Json.SpelledBy`

  Key theorems include:
    * `SqlAudit.Json.spelledBy_integer`
    * `SqlAudit.Json.spelledBy_real`
-/

------------------------------------------------------------
-- Documents
------------------------------------------------------------

namespace SqlAudit.Json

/- What a JSON text says. -/
inductive Document where
| null
| flag (b : Bool)
| integer (n : Int)
| number (spelling : List Char)
| text (s : List Char)
| list (items : List Document)
| record (fields : List (List Char × Document))
  deriving Repr

/- The characters of integers. -/
def isWhole (c : Char) : Bool :=
  c.isDigit || c == '-'

/- The characters of numbers. -/
def isDecimal (c : Char) : Bool :=
  isWhole c || c == '+' || c == '.' || c == 'e' || c == 'E'

/- The names of numbers that are not finite. -/
def infinities : List (List Char) :=
  ["NaN".toList, "Infinity".toList, "-Infinity".toList]

/- The number that digits spell. -/
def natural? (digits : List Char) : Option Nat :=
  if digits.isEmpty || !digits.all Char.isDigit then none
  else some (Nat.ofDigitChars 10 digits 0)

/- The integer that a word spells. -/
def integer? (w : List Char) : Option Int :=
  if w.head? == some '-' then
    (natural? w.tail).map fun n => -(n : Int)
  else
    (natural? w).map fun n => (n : Int)

/- What a word says. -/
def ofWord? (w : List Char) : Option Document :=
  if w == "null".toList then some .null
  else if w == "true".toList then some (.flag true)
  else if w == "false".toList then some (.flag false)
  else if w.all isWhole then
    (integer? w).map .integer
  else if w.all isDecimal || infinities.contains w then
    some (.number w)
  else none

end SqlAudit.Json

------------------------------------------------------------
-- Integers
------------------------------------------------------------

namespace SqlAudit.Json

theorem isDecimal_of_isWhole
    {c : Char}
    (hWhole : isWhole c = true) :
    isDecimal c = true := by
  simp [isDecimal, hWhole]

theorem isWordChar_of_isDecimal
    {c : Char}
    (hDecimal : isDecimal c = true) :
    isWordChar c = true := by
  simp only [isDecimal, isWhole, Bool.or_eq_true,
    beq_iff_eq] at hDecimal
  rcases hDecimal with
    ((((hDigit | rfl) | rfl) | rfl) | rfl) | rfl
  · simp [isWordChar, Char.isAlphanum, hDigit]
  all_goals decide

/- A word of decimal characters is no name. -/
theorem ofWord?_of_isDecimal
    {w : List Char}
    (hDecimal : ∀ c ∈ w, isDecimal c = true) :
    ofWord? w =
      if w.all isWhole then
        (integer? w).map .integer
      else
        some (.number w) := by
  have hAll : w.all isDecimal = true :=
    List.all_eq_true.mpr hDecimal
  have hNames :
      ∀ name : List Char, name.all isDecimal = false →
        (w == name) = false := by
    intro name hOther
    rw [beq_eq_false_iff_ne]
    rintro rfl
    rw [hAll] at hOther
    cases hOther
  simp only [ofWord?, hNames "null".toList rfl,
    hNames "true".toList rfl, hNames "false".toList rfl,
    hAll, Bool.false_eq_true, if_false, Bool.true_or, if_true]

theorem toList_toString
    (n : Int) :
    (toString n).toList =
      if 0 ≤ n then Nat.toDigits 10 n.toNat
      else '-' :: Nat.toDigits 10 (-n).toNat := by
  rw [Int.toString_eq_repr, Int.repr_eq_if]
  split
  · rw [Nat.toList_repr]
  · rw [String.toList_append, Nat.toList_repr]
    rfl

theorem isWhole_of_mem_toDigits
    {n : Nat}
    {c : Char}
    (hMem : c ∈ Nat.toDigits 10 n) :
    isWhole c = true := by
  simp [isWhole, Nat.isDigit_of_mem_toDigits (by decide)
    (by decide) hMem]

theorem isWhole_of_mem_toString
    {n : Int}
    {c : Char}
    (hMem : c ∈ (toString n).toList) :
    isWhole c = true := by
  rw [toList_toString] at hMem
  split at hMem
  · exact isWhole_of_mem_toDigits hMem
  · rcases List.mem_cons.mp hMem with rfl | hMem
    · rfl
    · exact isWhole_of_mem_toDigits hMem

theorem natural?_toDigits
    (n : Nat) :
    natural? (Nat.toDigits 10 n) = some n := by
  have hDigits :
      (Nat.toDigits 10 n).all Char.isDigit = true :=
    List.all_eq_true.mpr fun _ hMem =>
      Nat.isDigit_of_mem_toDigits (by decide) (by decide) hMem
  have hNe : (Nat.toDigits 10 n).isEmpty = false := by
    simp
  rw [natural?, hDigits, hNe,
    Nat.ofDigitChars_toDigits (by decide) (by decide)]
  rfl

theorem integer?_toString
    (n : Int) :
    integer? (toString n).toList = some n := by
  rw [toList_toString]
  by_cases hSign : 0 ≤ n
  · have hHead :
        ((Nat.toDigits 10 n.toNat).head? == some '-') =
          false := by
      rw [beq_eq_false_iff_ne]
      intro hHead
      have hDigit := Nat.isDigit_of_mem_toDigits (by decide)
        (by decide) (List.mem_of_mem_head? hHead)
      exact absurd hDigit (by decide)
    rw [if_pos hSign, integer?, hHead, natural?_toDigits]
    exact congrArg some (Int.toNat_of_nonneg hSign)
  · have hSize : -((-n).toNat : Int) = n := by omega
    rw [if_neg hSign, integer?, List.tail_cons,
      natural?_toDigits]
    exact congrArg some hSize

/- An integer is read as this integer. -/
theorem ofWord?_integer
    (n : Int) :
    ofWord? (toString n).toList = some (.integer n) := by
  have hWhole : (toString n).toList.all isWhole = true :=
    List.all_eq_true.mpr fun _ => isWhole_of_mem_toString
  rw [ofWord?_of_isDecimal fun _ hMem =>
    isDecimal_of_isWhole (isWhole_of_mem_toString hMem),
    if_pos hWhole, integer?_toString]
  rfl

end SqlAudit.Json

------------------------------------------------------------
-- Numbers That Are No Integers
------------------------------------------------------------

namespace SqlAudit

/- The digits of a decimal are digits. -/
theorem Decimal.isDigit_of_mem_ofScaled
    {n : Nat}
    {e : Int}
    {c : Char}
    (hMem : c ∈ (Digits.ofScaled n e).digits) :
    c.isDigit = true := by
  have hAll : c ∈ Nat.toDigits 10 n := by
    have hReversed :=
      (List.dropWhile_sublist _).subset
        (List.mem_reverse.mp hMem)
    exact List.mem_reverse.mp hReversed
  exact Nat.isDigit_of_mem_toDigits (by decide) (by decide)
    hAll

theorem Decimal.isDigit_of_mem_shortestFrom
    {w : Window}
    {count tries : Nat}
    {c : Char}
    (hMem : c ∈ (shortestFrom w count tries).digits) :
    c.isDigit = true := by
  induction tries generalizing count with
  | zero => exact isDigit_of_mem_ofScaled hMem
  | succ tries ih =>
      rw [shortestFrom] at hMem
      split at hMem
      · exact isDigit_of_mem_ofScaled hMem
      · exact ih hMem

namespace Json

/- Decimal characters, not all of which are of integers. -/
structure IsFraction (w : List Char) : Prop where
  decimal : ∀ c ∈ w, isDecimal c = true
  broken : ∃ c ∈ w, isWhole c = false

theorem isDecimal_of_isDigit
    {c : Char}
    (hDigit : c.isDigit = true) :
    isDecimal c = true :=
  isDecimal_of_isWhole (by simp [isWhole, hDigit])

theorem IsFraction.negative
    {w : List Char}
    (hFraction : IsFraction w) :
    IsFraction ('-' :: w) := by
  rcases hFraction with ⟨hDecimal, c, hMem, hBroken⟩
  refine ⟨?_, c, List.mem_cons_of_mem _ hMem, hBroken⟩
  exact List.forall_mem_cons.mpr ⟨rfl, hDecimal⟩

theorem isDecimal_of_mem_renderExponent
    {e : Int}
    {c : Char}
    (hMem : c ∈ Binary64.renderExponent e) :
    isDecimal c = true := by
  have hDigits : ∀ c ∈ Nat.toDigits 10 e.natAbs,
      isDecimal c = true := by
    intro c hMem
    exact isDecimal_of_isWhole (isWhole_of_mem_toDigits hMem)
  simp only [Binary64.renderExponent, List.mem_cons] at hMem
  rcases hMem with rfl | rfl | hMem
  · rfl
  · split <;> rfl
  · split at hMem
    · rcases List.mem_cons.mp hMem with rfl | hMem
      · rfl
      · exact hDigits c hMem
    · exact hDigits c hMem

section Digits

variable {d : Decimal.Digits}

theorem isFraction_renderScientific
    (hDigits : ∀ c ∈ d.digits, c.isDigit = true) :
    IsFraction (Binary64.renderScientific d) := by
  constructor
  · intro c hMem
    rcases List.mem_append.mp hMem with hMem | hMem
    · split at hMem
      · rename_i first second rest hSplit
        rw [hSplit] at hDigits
        simp only [List.mem_cons] at hMem hDigits
        rcases hMem with rfl | rfl | hMem
        · exact isDecimal_of_isDigit (hDigits _ (.inl rfl))
        · rfl
        · exact isDecimal_of_isDigit (hDigits _ (.inr hMem))
      · exact isDecimal_of_isDigit (hDigits c hMem)
    · exact isDecimal_of_mem_renderExponent hMem
  · refine ⟨'e', ?_, rfl⟩
    exact List.mem_append_right _ List.mem_cons_self

theorem isFraction_renderPositional
    (hDigits : ∀ c ∈ d.digits, c.isDigit = true) :
    IsFraction (Binary64.renderPositional d) := by
  have hZeros : ∀ {k c}, c ∈ List.replicate k '0' →
      isDecimal c = true := by
    intro k c hMem
    rw [List.eq_of_mem_replicate hMem]
    rfl
  have hDecimal : ∀ {c}, c ∈ d.digits → isDecimal c = true :=
    fun hMem => isDecimal_of_isDigit (hDigits _ hMem)
  simp only [Binary64.renderPositional]
  split
  · refine ⟨?_, '.', by simp, rfl⟩
    intro c hMem
    simp only [List.mem_cons, List.mem_append] at hMem
    rcases hMem with rfl | rfl | hMem | hMem
    · rfl
    · rfl
    · exact hZeros hMem
    · exact hDecimal hMem
  · split
    · refine ⟨?_, '.', by simp, rfl⟩
      intro c hMem
      simp only [List.mem_cons, List.mem_append,
        List.not_mem_nil, or_false] at hMem
      rcases hMem with (hMem | hMem) | rfl | rfl
      · exact hDecimal hMem
      · exact hZeros hMem
      · rfl
      · rfl
    · refine ⟨?_, '.', by simp, rfl⟩
      intro c hMem
      simp only [List.mem_cons, List.mem_append] at hMem
      rcases hMem with hMem | rfl | hMem
      · exact hDecimal (List.mem_of_mem_take hMem)
      · rfl
      · exact hDecimal (List.mem_of_mem_drop hMem)

end Digits

theorem isFraction_render
    {x : Binary64}
    (hFinite : x.isFinite = true) :
    IsFraction x.render := by
  have hSize : IsFraction x.renderSize := by
    simp only [Binary64.renderSize, hFinite, Bool.not_true,
      Bool.false_eq_true, if_false]
    split
    · exact ⟨List.all_eq_true.mp (by decide), '.',
        by decide, rfl⟩
    · split
      · exact isFraction_renderScientific fun _ =>
          Decimal.isDigit_of_mem_shortestFrom
      · exact isFraction_renderPositional fun _ =>
          Decimal.isDigit_of_mem_shortestFrom
  unfold Binary64.render
  split
  · exact hSize.negative
  · exact hSize

theorem IsFraction.ofWord?_eq
    {w : List Char}
    (hFraction : IsFraction w) :
    ofWord? w = some (.number w) := by
  rcases hFraction.broken with ⟨c, hMem, hBroken⟩
  have hPart : w.all isWhole ≠ true := by
    intro hWhole
    rw [List.all_eq_true.mp hWhole c hMem] at hBroken
    cases hBroken
  rw [ofWord?_of_isDecimal hFraction.decimal, if_neg hPart]

/- The word is one, and it says what the document does. -/
structure SpelledBy
    (d : Document)
    (w : List Char) : Prop where
  ne_nil : w ≠ []
  word : ∀ c ∈ w, isWordChar c = true
  meaning : ofWord? w = some d

theorem spelledBy_null : SpelledBy .null "null".toList :=
  ⟨by decide, List.all_eq_true.mp (by decide), rfl⟩

theorem spelledBy_true :
    SpelledBy (.flag true) "true".toList :=
  ⟨by decide, List.all_eq_true.mp (by decide), rfl⟩

theorem spelledBy_false :
    SpelledBy (.flag false) "false".toList :=
  ⟨by decide, List.all_eq_true.mp (by decide), rfl⟩

theorem spelledBy_integer
    (n : Int) :
    SpelledBy (.integer n) (toString n).toList where
  ne_nil := by
    rw [toList_toString]
    split
    · exact Nat.toDigits_ne_nil
    · exact List.cons_ne_nil _ _
  word _ hMem :=
    isWordChar_of_isDecimal
      (isDecimal_of_isWhole (isWhole_of_mem_toString hMem))
  meaning := ofWord?_integer n

theorem spelledBy_real
    (x : Binary64) :
    SpelledBy (.number (real x)) (real x) := by
  have hNamed : ∀ w ∈ infinities, SpelledBy (.number w) w := by
    intro w hMem
    simp only [infinities, List.mem_cons, List.not_mem_nil,
      or_false] at hMem
    rcases hMem with rfl | rfl | rfl
    all_goals exact
      ⟨by decide, List.all_eq_true.mp (by decide), rfl⟩
  unfold real
  split
  · rename_i hFinite
    have hFraction := isFraction_render hFinite
    refine ⟨?_, fun c hMem =>
      isWordChar_of_isDecimal (hFraction.decimal c hMem),
      hFraction.ofWord?_eq⟩
    rcases hFraction.broken with ⟨c, hMem, _⟩
    exact List.ne_nil_of_mem hMem
  · split
    · exact hNamed _ (by decide)
    · split
      · exact hNamed _ (by decide)
      · exact hNamed _ (by decide)

end Json

end SqlAudit
