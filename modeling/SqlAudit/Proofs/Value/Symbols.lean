import SqlAudit.Value.Json

/-
  The symbols of a JSON text.

  A text is read character by character. Brackets, commas and
  colons are symbols of their own, words go on as long as
  their characters do, and a text in quotes is collected as
  UTF-16 units, which it may spell by their numbers. Blanks
  between symbols do not count.

  Key definitions include:
    * `SqlAudit.Json.units`
    * `SqlAudit.Json.ofUnits`
    * `SqlAudit.Json.Symbol`
    * `SqlAudit.Json.Scanner.step`
    * `SqlAudit.Json.symbols`

  Key theorems include:
    * `SqlAudit.Json.ofUnits_flatMap_units`
    * `SqlAudit.Json.symbols_text`
    * `SqlAudit.Json.symbols_word`
    * `SqlAudit.Json.symbols_newLine`
-/

------------------------------------------------------------
-- UTF-16 Units
------------------------------------------------------------

namespace SqlAudit.Json

/- The UTF-16 units of a character. -/
def units (c : Char) : List Nat :=
  if c.toNat < 0x10000 then
    [c.toNat]
  else
    [ 0xd800 + (c.toNat - 0x10000) / 0x400,
      0xdc00 + (c.toNat - 0x10000) % 0x400 ]

/- The first unit of a pair. -/
def isHigh (u : Nat) : Bool :=
  0xd800 ≤ u && u < 0xdc00

/- The second unit of a pair. -/
def isLow (u : Nat) : Bool :=
  0xdc00 ≤ u && u < 0xe000

/- The character of a pair of units. -/
def ofPair (u v : Nat) : Char :=
  Char.ofNat (0x10000 + (u - 0xd800) * 0x400 + (v - 0xdc00))

/- The characters of units, if no part of a pair is alone. -/
def ofUnits : List Nat → Option (List Char)
| [] => some []
| u :: us =>
    if isHigh u then
      match us with
      | v :: vs =>
          if isLow v then (ofUnits vs).map (ofPair u v :: ·)
          else none
      | [] => none
    else if isLow u || 0x10000 ≤ u then
      none
    else
      (ofUnits us).map (Char.ofNat u :: ·)

theorem isValidChar_toNat (c : Char) :
    c.toNat < 0xd800 ∨ 0xdfff < c.toNat ∧ c.toNat < 0x110000 :=
  c.valid

theorem ofPair_units
    {c : Char}
    (hLarge : 0x10000 ≤ c.toNat) :
    ofPair (0xd800 + (c.toNat - 0x10000) / 0x400)
      (0xdc00 + (c.toNat - 0x10000) % 0x400) = c := by
  have hNumber :
      0x10000 +
          (0xd800 + (c.toNat - 0x10000) / 0x400 - 0xd800) *
            0x400 +
          (0xdc00 + (c.toNat - 0x10000) % 0x400 - 0xdc00) =
        c.toNat := by
    omega
  rw [ofPair, hNumber, Char.ofNat_toNat]

/- The units of a character are read as this character. -/
theorem ofUnits_units_append
    (c : Char)
    (us : List Nat) :
    ofUnits (units c ++ us) = (ofUnits us).map (c :: ·) := by
  have hValid := isValidChar_toNat c
  unfold units
  by_cases hSmall : c.toNat < 0x10000
  · have hHigh : isHigh c.toNat = false := by
      simp only [isHigh, Bool.and_eq_false_iff,
        decide_eq_false_iff_not]
      omega
    have hLow :
        (isLow c.toNat || decide (0x10000 ≤ c.toNat)) =
          false := by
      simp only [isLow, Bool.or_eq_false_iff,
        Bool.and_eq_false_iff, decide_eq_false_iff_not]
      omega
    rw [if_pos hSmall, List.singleton_append, ofUnits.eq_def]
    simp only [hHigh, hLow, Bool.false_eq_true, if_false,
      Char.ofNat_toNat]
  · have hHigh :
        isHigh (0xd800 + (c.toNat - 0x10000) / 0x400) =
          true := by
      simp only [isHigh, Bool.and_eq_true, decide_eq_true_eq]
      omega
    have hLow :
        isLow (0xdc00 + (c.toNat - 0x10000) % 0x400) =
          true := by
      simp only [isLow, Bool.and_eq_true, decide_eq_true_eq]
      omega
    rw [if_neg hSmall, List.cons_append, List.singleton_append,
      ofUnits]
    simp only [hHigh, hLow, if_true,
      ofPair_units (Nat.not_lt.mp hSmall)]

/- A text is what its units are read as. -/
theorem ofUnits_flatMap_units
    (s : List Char) :
    ofUnits (s.flatMap units) = some s := by
  induction s with
  | nil => rfl
  | cons c s ih =>
      rw [List.flatMap_cons, ofUnits_units_append, ih]
      rfl

end SqlAudit.Json

------------------------------------------------------------
-- Scanning
------------------------------------------------------------

namespace SqlAudit.Json

/- What a JSON text is made of. -/
inductive Symbol where
| openList
| closeList
| openRecord
| closeRecord
| comma
| colon
| word (w : List Char)
| text (s : List Char)
  deriving Repr, DecidableEq

/-
  Where the scanner is: between symbols, in a word, in quotes,
  behind a backslash, or in the number of a unit, with how
  many digits are missing and the value of the others.
-/
inductive Scanner where
| between
| word (w : List Char)
| quoted (us : List Nat)
| escape (us : List Nat)
| number (us : List Nat) (missing value : Nat)
  deriving Repr, DecidableEq

/- Symbols of one character. -/
def mark? (c : Char) : Option Symbol :=
  if c == '[' then some .openList
  else if c == ']' then some .closeList
  else if c == '\x7b' then some .openRecord
  else if c == '\x7d' then some .closeRecord
  else if c == ',' then some .comma
  else if c == ':' then some .colon
  else none

/- Blanks that may stand between symbols. -/
def isBlank (c : Char) : Bool :=
  c == ' ' || c == '\n' || c == '\r' || c == '\t'

/- The characters of numbers and names. -/
def isWordChar (c : Char) : Bool :=
  c.isAlphanum || c == '+' || c == '-' || c == '.'

/- The unit that a letter behind a backslash stands for. -/
def escape? (c : Char) : Option Nat :=
  if c == '"' || c == '\\' || c == '/' then some c.toNat
  else if c == 'b' then some 8
  else if c == 'f' then some 12
  else if c == 'n' then some 10
  else if c == 'r' then some 13
  else if c == 't' then some 9
  else none

/- The value of a hexadecimal digit. -/
def hexValue? (c : Char) : Option Nat :=
  if '0' ≤ c && c ≤ '9' then some (c.toNat - '0'.toNat)
  else if 'a' ≤ c && c ≤ 'f' then
    some (c.toNat - 'a'.toNat + 10)
  else if 'A' ≤ c && c ≤ 'F' then
    some (c.toNat - 'A'.toNat + 10)
  else none

namespace Scanner

/- A character between symbols. -/
def start (c : Char) : Option (List Symbol × Scanner) :=
  match mark? c with
  | some m => some ([m], between)
  | none =>
      if isBlank c then some ([], between)
      else if c == '"' then some ([], quoted [])
      else if isWordChar c then some ([], word [c])
      else none

/- The symbols that end with a character, and what follows. -/
def step :
    Scanner → Char → Option (List Symbol × Scanner)
| between, c => start c
| word w, c =>
    if isWordChar c then
      some ([], word (w ++ [c]))
    else
      (start c).map fun next => (.word w :: next.1, next.2)
| quoted us, c =>
    if c == '"' then
      (ofUnits us).map fun s => ([.text s], between)
    else if c == '\\' then
      some ([], escape us)
    else if c.toNat < 32 then
      none
    else
      some ([], quoted (us ++ units c))
| escape us, c =>
    if c == 'u' then
      some ([], number us 4 0)
    else
      (escape? c).map fun u => ([], quoted (us ++ [u]))
| number us missing value, c =>
    (hexValue? c).map fun d =>
      if missing ≤ 1 then
        ([], quoted (us ++ [16 * value + d]))
      else
        ([], number us (missing - 1) (16 * value + d))

/- A text may end behind a symbol. -/
def finish : Scanner → Option (List Symbol)
| between => some []
| word w => some [.word w]
| _ => none

end Scanner

/- The symbols of a text, from a place of the scanner on. -/
def symbols :
    Scanner → List Char → Option (List Symbol)
| place, [] => place.finish
| place, c :: rest =>
    (place.step c).bind fun next =>
      (symbols next.2 rest).map (next.1 ++ ·)

theorem symbols_of_step
    {place next : Scanner}
    {c : Char}
    {found : List Symbol}
    (hStep : place.step c = some (found, next))
    (rest : List Char) :
    symbols place (c :: rest) =
      (symbols next rest).map (found ++ ·) := by
  rw [symbols, hStep]
  rfl

/- A step inside a symbol finds nothing yet. -/
theorem symbols_of_silent_step
    {place next : Scanner}
    {c : Char}
    (hStep : place.step c = some ([], next))
    (rest : List Char) :
    symbols place (c :: rest) = symbols next rest := by
  rw [symbols_of_step hStep]
  exact Option.map_id'

end SqlAudit.Json

------------------------------------------------------------
-- Texts In Quotes
------------------------------------------------------------

namespace SqlAudit.Json

theorem hexValue?_digitChar
    {d : Nat}
    (hDigit : d < 16) :
    hexValue? d.digitChar = some d := by
  have hAll : ∀ d < 16, hexValue? (Nat.digitChar d) = some d := by
    decide
  exact hAll d hDigit

/- The value of digits behind others. -/
def hexFrom
    (value : Nat)
    (digits : List Char) : Option Nat :=
  digits.foldlM
    (fun value c => (hexValue? c).map (16 * value + ·)) value

theorem hexFrom_toDigits
    (n : Nat) :
    hexFrom 0 (Nat.toDigits 16 n) = some n := by
  induction n using Nat.strongRecOn with
  | ind n ih =>
      by_cases hSmall : n < 16
      · simp [Nat.toDigits_of_lt_base hSmall, hexFrom,
          hexValue?_digitChar hSmall]
      · have hLess : n / 16 < n := by omega
        have hDigit : n % 16 < 16 := by omega
        have hFront := ih (n / 16) hLess
        rw [hexFrom] at hFront
        rw [Nat.toDigits_of_base_le (by decide) (by omega),
          hexFrom, List.foldlM_append, hFront]
        simp [hexValue?_digitChar hDigit]
        omega

theorem hexFrom_hexDigits
    (width n : Nat) :
    hexFrom 0 (Text.hexDigits width n) = some n := by
  have hZeros :
      ∀ k, hexFrom 0 (List.replicate k '0') = some 0 := by
    intro k
    induction k with
    | zero => rfl
    | succ k ih => exact ih
  have hDigits := hexFrom_toDigits n
  rw [hexFrom] at hDigits
  rw [Text.hexDigits, hexFrom, List.foldlM_append]
  rw [← hexFrom, hZeros]
  exact hDigits

theorem length_hexDigits
    {width n : Nat}
    (hFits : (Nat.toDigits 16 n).length ≤ width) :
    (Text.hexDigits width n).length = width := by
  simp only [Text.hexDigits, List.length_append,
    List.length_replicate]
  omega

/- The digits of a unit are read to the last one. -/
theorem symbols_number
    (us : List Nat)
    {digits : List Char}
    {value n : Nat}
    (hNe : digits ≠ [])
    (hValue : hexFrom value digits = some n)
    (rest : List Char) :
    symbols (.number us digits.length value)
        (digits ++ rest) =
      symbols (.quoted (us ++ [n])) rest := by
  induction digits generalizing value with
  | nil => exact absurd rfl hNe
  | cons c digits ih =>
      rw [hexFrom, List.foldlM_cons] at hValue
      cases hDigit : hexValue? c with
      | none => simp [hDigit] at hValue
      | some d =>
          simp only [hDigit, Option.map_some] at hValue
          cases digits with
          | nil =>
              cases hValue
              apply symbols_of_silent_step
              simp [Scanner.step, hDigit]
          | cons c' digits =>
              have hStep :
                  (Scanner.number us (c :: c' :: digits).length
                    value).step c =
                    some ([], .number us (c' :: digits).length
                      (16 * value + d)) := by
                simp [Scanner.step, hDigit]
              rw [List.cons_append,
                symbols_of_silent_step hStep]
              exact ih (List.cons_ne_nil _ _) hValue

theorem symbols_backslash
    (us : List Nat)
    (rest : List Char) :
    symbols (.quoted us) ('\\' :: rest) =
      symbols (.escape us) rest := by
  apply symbols_of_silent_step
  rfl

theorem symbols_unit
    (us : List Nat)
    {n : Nat}
    (hUnit : n < 0x10000)
    (rest : List Char) :
    symbols (.quoted us) (unit n ++ rest) =
      symbols (.quoted (us ++ [n])) rest := by
  have hFits : (Nat.toDigits 16 n).length ≤ 4 :=
    (Nat.length_toDigits_le_iff (by decide)
      (by decide)).mpr hUnit
  have hLength : (Text.hexDigits 4 n).length = 4 :=
    length_hexDigits hFits
  have hNe : Text.hexDigits 4 n ≠ [] := by
    intro hNil
    simp [hNil] at hLength
  have hDigits := symbols_number us hNe
    (hexFrom_hexDigits 4 n) rest
  rw [hLength] at hDigits
  have hLetter :
      (Scanner.escape us).step 'u' =
        some ([], .number us 4 0) :=
    rfl
  rw [unit, List.cons_append, List.cons_append,
    symbols_backslash, symbols_of_silent_step hLetter]
  exact hDigits

/- A character behind a backslash. -/
theorem symbols_escape
    (us : List Nat)
    {c : Char}
    {n : Nat}
    (hEscape : escape? c = some n)
    (rest : List Char) :
    symbols (.quoted us) ('\\' :: c :: rest) =
      symbols (.quoted (us ++ [n])) rest := by
  have hNumber : (c == 'u') = false := by
    rw [beq_eq_false_iff_ne]
    rintro rfl
    cases hEscape
  have hLetter :
      (Scanner.escape us).step c =
        some ([], .quoted (us ++ [n])) := by
    simp [Scanner.step, hNumber, hEscape]
  rw [symbols_backslash, symbols_of_silent_step hLetter]

/-
  A character in quotes: behind a backslash, as it is, or by
  the numbers of its units.
-/
inductive CharShape (c : Char) : List Char → Prop
| escaped
    {letter : Char} :
    escape? letter = some c.toNat →
    c.toNat < 0x10000 →
    CharShape c ['\\', letter]
| plain :
    c ≠ '"' →
    c ≠ '\\' →
    32 ≤ c.toNat →
    CharShape c [c]
| numbered :
    (∀ u ∈ units c, u < 0x10000) →
    CharShape c ((units c).flatMap unit)

theorem units_of_small
    {c : Char}
    (hSmall : c.toNat < 0x10000) :
    units c = [c.toNat] :=
  if_pos hSmall

theorem lt_of_mem_units
    {c : Char}
    {u : Nat}
    (hMem : u ∈ units c) :
    u < 0x10000 := by
  have hValid := isValidChar_toNat c
  unfold units at hMem
  split at hMem
  · rw [List.mem_singleton.mp hMem]
    assumption
  · simp only [List.mem_cons, List.not_mem_nil,
      or_false] at hMem
    omega

theorem eq_of_toNat_eq
    {c d : Char}
    (hSame : c.toNat = d.toNat) :
    c = d := by
  rw [← Char.ofNat_toNat c, hSame, Char.ofNat_toNat]

theorem charShape_char
    (c : Char) :
    CharShape c (char c) := by
  by_cases hSpecial :
      c ∈ ['"', '\\', '\n', '\r', '\t', '\x08', '\x0c']
  · simp only [List.mem_cons, List.not_mem_nil,
      or_false] at hSpecial
    rcases hSpecial with
      rfl | rfl | rfl | rfl | rfl | rfl | rfl
    all_goals exact .escaped rfl (by decide)
  · simp only [List.mem_cons, List.not_mem_nil, or_false,
      not_or] at hSpecial
    rcases hSpecial with
      ⟨hQuote, hSlash, hFeed, hReturn, hTab, hBack, hForm⟩
    have hBack' : c.toNat ≠ 8 :=
      fun hSame => hBack (eq_of_toNat_eq hSame)
    have hForm' : c.toNat ≠ 12 :=
      fun hSame => hForm (eq_of_toNat_eq hSame)
    by_cases hPlain : 32 ≤ c.toNat ∧ c.toNat < 127
    · have hChar : char c = [c] := by
        simp [char, hQuote, hSlash, hFeed, hReturn, hTab,
          hBack', hForm', hPlain]
      rw [hChar]
      exact .plain hQuote hSlash hPlain.1
    · have hChar : char c = (units c).flatMap unit := by
        by_cases hSmall : c.toNat < 0x10000
        all_goals
          simp [char, units, hQuote, hSlash, hFeed, hReturn,
            hTab, hBack', hForm', hPlain, hSmall]
      rw [hChar]
      exact .numbered fun _ => lt_of_mem_units

theorem symbols_units
    (us vs : List Nat)
    (hUnits : ∀ v ∈ vs, v < 0x10000)
    (rest : List Char) :
    symbols (.quoted us) (vs.flatMap unit ++ rest) =
      symbols (.quoted (us ++ vs)) rest := by
  induction vs generalizing us with
  | nil => simp
  | cons v vs ih =>
      rcases List.forall_mem_cons.mp hUnits with ⟨hHead, hTail⟩
      rw [List.flatMap_cons, List.append_assoc,
        symbols_unit us hHead, ih _ hTail,
        List.append_assoc, List.singleton_append]

/- Each character in quotes is read as its units. -/
theorem symbols_char
    (us : List Nat)
    (c : Char)
    (rest : List Char) :
    symbols (.quoted us) (char c ++ rest) =
      symbols (.quoted (us ++ units c)) rest := by
  have hShape := charShape_char c
  generalize char c = shown at hShape ⊢
  cases hShape with
  | escaped hEscape hSmall =>
      rw [units_of_small hSmall]
      exact symbols_escape us hEscape rest
  | plain hQuote hSlash hLarge =>
      have hStep :
          (Scanner.quoted us).step c =
            some ([], .quoted (us ++ units c)) := by
        simp [Scanner.step, hQuote, hSlash, hLarge]
      exact symbols_of_silent_step hStep rest
  | numbered hUnits =>
      exact symbols_units us (units c) hUnits rest

/- A text in quotes is one symbol. -/
theorem symbols_text
    (s rest : List Char) :
    symbols .between (text s ++ rest) =
      (symbols .between rest).map (.text s :: ·) := by
  have hChars :
      ∀ us, symbols (.quoted us)
          (s.flatMap char ++ '"' :: rest) =
        symbols (.quoted (us ++ s.flatMap units))
          ('"' :: rest) := by
    induction s with
    | nil => simp
    | cons c s ih =>
        intro us
        rw [List.flatMap_cons, List.append_assoc,
          symbols_char, ih, List.flatMap_cons,
          List.append_assoc]
  have hOpen :
      Scanner.between.step '"' = some ([], .quoted []) :=
    rfl
  have hClose :
      (Scanner.quoted (s.flatMap units)).step '"' =
        some ([.text s], .between) := by
    simp [Scanner.step, ofUnits_flatMap_units]
  have hSplit :
      text s ++ rest =
        '"' :: (s.flatMap char ++ '"' :: rest) := by
    simp [text]
  rw [hSplit, symbols_of_silent_step hOpen, hChars,
    List.nil_append, symbols_of_step hClose]
  rfl

end SqlAudit.Json

------------------------------------------------------------
-- Words, Marks And Blanks
------------------------------------------------------------

namespace SqlAudit.Json

/- No word goes on into the text. -/
def Breaks (rest : List Char) : Prop :=
  ∀ c, rest.head? = some c → isWordChar c = false

theorem breaks_nil : Breaks [] := by
  intro c hHead
  cases hHead

theorem breaks_cons
    {c : Char}
    (hBreak : isWordChar c = false)
    (rest : List Char) :
    Breaks (c :: rest) := by
  rintro d ⟨⟩
  exact hBreak

/- A character of a word begins one. -/
theorem start_of_isWordChar
    {c : Char}
    (hWord : isWordChar c = true) :
    Scanner.start c = some ([], .word [c]) := by
  have hOthers :
      ∀ d, isWordChar d = false → (c == d) = false := by
    intro d hOther
    rw [beq_eq_false_iff_ne]
    rintro rfl
    rw [hWord] at hOther
    cases hOther
  have hMark : mark? c = none := by
    simp [mark?, hOthers '[' rfl, hOthers ']' rfl,
      hOthers '\x7b' rfl, hOthers '\x7d' rfl,
      hOthers ',' rfl, hOthers ':' rfl]
  have hBlank : isBlank c = false := by
    simp [isBlank, hOthers ' ' rfl, hOthers '\n' rfl,
      hOthers '\r' rfl, hOthers '\t' rfl]
  simp [Scanner.start, hMark, hBlank, hOthers '"' rfl, hWord]

theorem symbols_wordChars
    {w : List Char}
    (hWord : ∀ c ∈ w, isWordChar c = true)
    (front rest : List Char) :
    symbols (.word front) (w ++ rest) =
      symbols (.word (front ++ w)) rest := by
  induction w generalizing front with
  | nil => simp
  | cons c w ih =>
      rcases List.forall_mem_cons.mp hWord with ⟨hHead, hTail⟩
      have hStep :
          (Scanner.word front).step c =
            some ([], .word (front ++ [c])) := by
        simp [Scanner.step, hHead]
      rw [List.cons_append, symbols_of_silent_step hStep,
        ih hTail, List.append_assoc, List.singleton_append]

theorem symbols_endOfWord
    (w : List Char)
    {rest : List Char}
    (hBreaks : Breaks rest) :
    symbols (.word w) rest =
      (symbols .between rest).map (.word w :: ·) := by
  cases rest with
  | nil => rfl
  | cons c rest =>
      have hStep :
          (Scanner.word w).step c =
            (Scanner.start c).map fun next =>
              (.word w :: next.1, next.2) := by
        simp [Scanner.step, hBreaks c rfl]
      rw [symbols, symbols, hStep]
      cases hStart : Scanner.start c with
      | none => simp [Scanner.step, hStart]
      | some next =>
          simp [Scanner.step, hStart, Function.comp_def]

/- A word is one symbol, if no word follows. -/
theorem symbols_word
    {w : List Char}
    (hNe : w ≠ [])
    (hWord : ∀ c ∈ w, isWordChar c = true)
    {rest : List Char}
    (hBreaks : Breaks rest) :
    symbols .between (w ++ rest) =
      (symbols .between rest).map (.word w :: ·) := by
  cases w with
  | nil => exact absurd rfl hNe
  | cons c w =>
      rcases List.forall_mem_cons.mp hWord with ⟨hHead, hTail⟩
      have hStep :
          Scanner.between.step c = some ([], .word [c]) :=
        start_of_isWordChar hHead
      rw [List.cons_append, symbols_of_silent_step hStep,
        symbols_wordChars hTail, symbols_endOfWord _ hBreaks]
      rfl

/- A bracket, a comma or a colon is one symbol. -/
theorem symbols_mark
    {c : Char}
    {m : Symbol}
    (hMark : mark? c = some m)
    (rest : List Char) :
    symbols .between (c :: rest) =
      (symbols .between rest).map (m :: ·) := by
  have hStep :
      Scanner.between.step c = some ([m], .between) := by
    simp [Scanner.step, Scanner.start, hMark]
  rw [symbols_of_step hStep]
  rfl

/- Blanks between symbols do not count. -/
theorem symbols_blanks
    {blanks : List Char}
    (hBlanks : ∀ c ∈ blanks, c = ' ' ∨ c = '\n')
    (rest : List Char) :
    symbols .between (blanks ++ rest) =
      symbols .between rest := by
  induction blanks with
  | nil => rfl
  | cons c blanks ih =>
      rcases List.forall_mem_cons.mp hBlanks with
        ⟨hHead, hTail⟩
      have hStep :
          Scanner.between.step c = some ([], .between) := by
        rcases hHead with rfl | rfl
        · rfl
        · rfl
      rw [List.cons_append, symbols_of_silent_step hStep,
        ih hTail]

theorem symbols_newLine
    (level : Nat)
    (rest : List Char) :
    symbols .between (newLine level ++ rest) =
      symbols .between rest := by
  apply symbols_blanks
  intro c hMem
  rcases List.mem_cons.mp hMem with rfl | hMem
  · exact .inr rfl
  · exact .inl (List.eq_of_mem_replicate hMem)

end SqlAudit.Json
