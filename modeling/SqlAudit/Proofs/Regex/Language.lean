import Mathlib.Computability.Language
import SqlAudit.Regex.Match

/-
  The language of a regular expression.

  Whatever an expression matches is a text of its language.
  If the expression is regular, that is, if it neither looks
  around nor remembers nor refuses to give back, then every
  text of its language is matched as well, in whatever order
  the choices are tried. So a regular expression occurs in a
  text exactly if a piece of the text is in its language.

  Key definitions include:
    * `SqlAudit.Cursor.Reads`
    * `SqlAudit.Regex.language`
    * `SqlAudit.Regex.isRegular`

  Key theorems include:
    * `SqlAudit.Regex.ends_within`
    * `SqlAudit.Regex.ends_covers`
    * `SqlAudit.Regex.occursIn_iff`
-/

------------------------------------------------------------
-- Reading From Place To Place
------------------------------------------------------------

namespace SqlAudit

namespace Cursor

/- From the first place to the second, the text is `w`. -/
def Reads
    (c : Cursor)
    (w : List Char)
    (d : Cursor) : Prop :=
  c.rest = w ++ d.rest

namespace Reads

variable {c d e : Cursor}
variable {u v w : List Char}

theorem refl (c : Cursor) : c.Reads [] c := rfl

theorem trans
    (hFirst : c.Reads u d)
    (hSecond : d.Reads v e) :
    c.Reads (u ++ v) e := by
  unfold Reads at *
  rw [hFirst, hSecond, List.append_assoc]

theorem left_eq
    (hReads : c.Reads w d) :
    c.left = w.length + d.left := by
  rw [c.left_eq, d.left_eq, hReads, List.length_append]

/- Only the empty text is read by staying. -/
theorem moves
    (hReads : c.Reads w d)
    (hSome : w ≠ []) :
    (d.left == c.left) = false := by
  have hLeft := hReads.left_eq
  have hLength := List.length_pos_iff.mpr hSome
  apply beq_false_of_ne
  omega

/- What is behind a text behind another. -/
theorem rest_of_append
    {rest : List Char}
    (hReads : c.Reads u d)
    (hRest : c.rest = u ++ rest) :
    d.rest = rest :=
  List.append_cancel_left (hReads.symm.trans hRest)

end Reads

theorem reads_of_next?
    {c d : Cursor}
    {x : Char}
    (hNext : c.next? = some (x, d)) :
    c.Reads [x] d := by
  rcases c with ⟨before, rest, left, hLeft, held⟩
  cases rest with
  | nil => cases hNext
  | cons y rest => cases hNext; rfl

theorem exists_next?
    {c : Cursor}
    {x : Char}
    {rest : List Char}
    (hRest : c.rest = x :: rest) :
    ∃ d, c.next? = some (x, d) ∧ c.Reads [x] d := by
  rcases c with ⟨before, _, left, hLeft, held⟩
  cases hRest
  exact ⟨_, rfl, rfl⟩

theorem exists_reads_of_after?
    {letters : CaseRule}
    {text : List Char}
    {c d : Cursor}
    (hAfter : after? letters text c = some d) :
    ∃ w, c.Reads w d := by
  induction text generalizing c with
  | nil =>
      cases hAfter
      exact ⟨[], Reads.refl _⟩
  | cons x text ih =>
      cases hNext : c.next? with
      | none => simp [after?, hNext] at hAfter
      | some next =>
          simp only [after?, hNext, ite_eq_iff, reduceCtorEq,
            and_false, or_false] at hAfter
          rcases ih hAfter.2 with ⟨w, hReads⟩
          exact ⟨_, (reads_of_next? hNext).trans hReads⟩

end Cursor

end SqlAudit

------------------------------------------------------------
-- Languages
------------------------------------------------------------

namespace SqlAudit

namespace Regex

/-
  The texts that an expression can match. Places are not
  texts, so a condition on a place has the empty text only,
  and an echo may stand for any text.
-/
def language : Regex → Language Char
| .empty | .anchor _ | .look .. => 1
| .char cls => {w | ∃ x, cls.has x = true ∧ w = [x]}
| .seq r s => r.language * s.language
| .alt r s | .given _ r s => r.language + s.language
| .repeated r least most _ =>
    {w | ∃ n, least ≤ n ∧ (∀ m ∈ most, n ≤ max least m) ∧
      w ∈ r.language ^ n}
| .atomic r | .group _ r => r.language
| .echo .. => ⊤

/- The expression is one of formal language theory. -/
def isRegular : Regex → Bool
| .empty | .char _ => true
| .seq r s | .alt r s => r.isRegular && s.isRegular
| .repeated r _ _ greed => r.isRegular && greed != .possessive
| .group _ r => r.isRegular
| .anchor _ | .atomic _ | .echo .. | .look .. | .given .. =>
    false

end Regex

end SqlAudit

------------------------------------------------------------
-- Sequences, Choices And Repeated Characters
------------------------------------------------------------

namespace SqlAudit

namespace Regex

theorem language_seqOf
    (rs : List Regex) :
    (seqOf rs).language = (rs.map language).prod := by
  induction rs with
  | nil => rfl
  | cons r rs ih =>
      cases rs with
      | nil => simp [seqOf]
      | cons s rs =>
          rw [List.map_cons, List.prod_cons, ← ih]
          rfl

theorem mem_language_altOf_iff
    {rs : List Regex}
    (hSome : rs ≠ [])
    {w : List Char} :
    w ∈ (altOf rs).language ↔ ∃ r ∈ rs, w ∈ r.language := by
  induction rs with
  | nil => exact absurd rfl hSome
  | cons r rs ih =>
      cases rs with
      | nil => simp [altOf]
      | cons s rs =>
          rw [List.exists_mem_cons_iff,
            ← ih (List.cons_ne_nil s rs)]
          rfl

theorem isRegular_seqOf
    {rs : List Regex}
    (hRegular : ∀ r ∈ rs, r.isRegular = true) :
    (seqOf rs).isRegular = true := by
  induction rs with
  | nil => rfl
  | cons r rs ih =>
      rcases List.forall_mem_cons.mp hRegular with
        ⟨hHead, hTail⟩
      cases rs with
      | nil => exact hHead
      | cons s rs => simp [seqOf, isRegular, hHead, ih hTail]

theorem isRegular_altOf
    {rs : List Regex}
    (hRegular : ∀ r ∈ rs, r.isRegular = true) :
    (altOf rs).isRegular = true := by
  induction rs with
  | nil => rfl
  | cons r rs ih =>
      rcases List.forall_mem_cons.mp hRegular with
        ⟨hHead, hTail⟩
      cases rs with
      | nil => exact hHead
      | cons s rs => simp [altOf, isRegular, hHead, ih hTail]

theorem mem_language_char_pow_iff
    {cls : CharClass}
    {n : Nat}
    {w : List Char} :
    w ∈ (Regex.char cls).language ^ n ↔
      w.length = n ∧ ∀ x ∈ w, cls.has x = true := by
  induction n generalizing w with
  | zero =>
      rw [pow_zero, Language.mem_one, List.length_eq_zero_iff]
      constructor
      · rintro rfl
        simp
      · exact And.left
  | succ n ih =>
      rw [pow_succ', Language.mem_mul]
      constructor
      · rintro ⟨_, ⟨x, hHas, rfl⟩, v, hV, rfl⟩
        rcases ih.mp hV with ⟨rfl, hRest⟩
        exact ⟨rfl, List.forall_mem_cons.mpr ⟨hHas, hRest⟩⟩
      · rintro ⟨hLength, hAll⟩
        cases w with
        | nil => cases hLength
        | cons x v =>
            rcases List.forall_mem_cons.mp hAll with
              ⟨hHas, hRest⟩
            exact ⟨[x], ⟨x, hHas, rfl⟩, v,
              ih.mpr ⟨Nat.succ.inj hLength, hRest⟩, rfl⟩

/- A repeated character stands for as many of its class. -/
theorem mem_language_repeated_char_iff
    {cls : CharClass}
    {least : Nat}
    {most : Option Nat}
    {greed : Greed}
    {w : List Char} :
    w ∈ (Regex.repeated (.char cls) least most
        greed).language ↔
      least ≤ w.length ∧
        (∀ m ∈ most, w.length ≤ max least m) ∧
        ∀ x ∈ w, cls.has x = true := by
  constructor
  · rintro ⟨n, hLeast, hMost, hWord⟩
    rcases mem_language_char_pow_iff.mp hWord with
      ⟨rfl, hAll⟩
    exact ⟨hLeast, hMost, hAll⟩
  · rintro ⟨hLeast, hMost, hAll⟩
    exact ⟨w.length, hLeast, hMost,
      mem_language_char_pow_iff.mpr ⟨rfl, hAll⟩⟩

end Regex

end SqlAudit

------------------------------------------------------------
-- Ends And Languages
------------------------------------------------------------

namespace SqlAudit

namespace Regex

/- All that can be read up to an end is in the language. -/
def Within
    (ends : Cursor → List Cursor)
    (L : Language Char) : Prop :=
  ∀ c, ∀ e ∈ ends c, ∃ w ∈ L, c.Reads w e

/- All of the language that can be read leads to an end. -/
def Covers
    (ends : Cursor → List Cursor)
    (L : Language Char) : Prop :=
  ∀ c, ∀ w ∈ L, ∀ rest, c.rest = w ++ rest →
    ∃ e ∈ ends c, c.Reads w e

end Regex

end SqlAudit

------------------------------------------------------------
-- Matches Are In The Language
------------------------------------------------------------

namespace SqlAudit

namespace Regex

namespace Within

variable {ends next : Cursor → List Cursor}
variable {L M : Language Char}

theorem take
    (hWithin : Within ends L)
    (n : Nat) :
    Within (fun c => (ends c).take n) L :=
  fun c e hMem => hWithin c e (List.mem_of_mem_take hMem)

theorem append
    (hFirst : Within ends L)
    (hSecond : Within next M) :
    Within (fun c => ends c ++ next c) (L + M) := by
  intro c e hMem
  rcases List.mem_append.mp hMem with hEnds | hNext
  · rcases hFirst c e hEnds with ⟨w, hWord, hReads⟩
    exact ⟨w, .inl hWord, hReads⟩
  · rcases hSecond c e hNext with ⟨w, hWord, hReads⟩
    exact ⟨w, .inr hWord, hReads⟩

theorem flatMap
    (hFirst : Within ends L)
    (hSecond : Within next M) :
    Within (fun c => (ends c).flatMap next) (L * M) := by
  intro c e hMem
  rcases List.mem_flatMap.mp hMem with ⟨d, hEnds, hNext⟩
  rcases hFirst c d hEnds with ⟨u, hU, hReadsU⟩
  rcases hSecond d e hNext with ⟨v, hV, hReadsV⟩
  exact ⟨u ++ v, Language.append_mem_mul hU hV,
    hReadsU.trans hReadsV⟩

theorem rounds
    (hWithin : Within ends L)
    (n : Nat) :
    Within (Regex.rounds ends n) (L ^ n) := by
  induction n with
  | zero =>
      intro c e hMem
      rcases List.mem_singleton.mp hMem with rfl
      exact ⟨[], rfl, .refl _⟩
  | succ n ih =>
      rw [pow_succ']
      exact hWithin.flatMap ih

/- No more rounds than allowed are made. -/
theorem mostRounds
    (hWithin : Within ends L)
    (n : Nat) :
    Within (Regex.mostRounds ends n)
      {w | ∃ k ≤ n, w ∈ L ^ k} := by
  induction n with
  | zero =>
      intro c e hMem
      rcases List.mem_singleton.mp hMem with rfl
      exact ⟨[], ⟨0, Nat.le_refl 0, rfl⟩, .refl _⟩
  | succ n ih =>
      intro c e hMem
      rcases List.mem_append.mp hMem with hMore | hStay
      · rcases List.mem_flatMap.mp hMore with
          ⟨d, hEnds, hThen⟩
        rcases hWithin c d hEnds with ⟨u, hU, hReadsU⟩
        by_cases hMove : (d.left == c.left) = true
        · rw [if_pos hMove] at hThen
          rcases List.mem_singleton.mp hThen with rfl
          exact ⟨u, ⟨1, by omega, by simpa using hU⟩, hReadsU⟩
        · rw [if_neg hMove] at hThen
          rcases ih d e hThen with
            ⟨v, ⟨k, hLe, hV⟩, hReadsV⟩
          refine ⟨u ++ v, ⟨k + 1, by omega, ?_⟩,
            hReadsU.trans hReadsV⟩
          rw [pow_succ']
          exact Language.append_mem_mul hU hV
      · rcases List.mem_singleton.mp hStay with rfl
        exact ⟨[], ⟨0, by omega, rfl⟩, .refl _⟩

end Within

/- The order of the rounds does not change the ends. -/
theorem mem_fewestRounds_iff
    (ends : Cursor → List Cursor)
    (n : Nat)
    (c e : Cursor) :
    e ∈ fewestRounds ends n c ↔ e ∈ mostRounds ends n c := by
  induction n generalizing c with
  | zero => rfl
  | succ n ih =>
      have hNext (d : Cursor) :
          e ∈ (if d.left == c.left then [d]
              else fewestRounds ends n d) ↔
            e ∈ (if d.left == c.left then [d]
              else mostRounds ends n d) := by
        by_cases hMove : (d.left == c.left) = true
        · rw [if_pos hMove, if_pos hMove]
        · rw [if_neg hMove, if_neg hMove, ih]
      simp only [fewestRounds, mostRounds, List.mem_cons,
        List.mem_append, List.mem_flatMap, hNext,
        List.not_mem_nil, or_false]
      exact or_comm

/- A repetition makes as many rounds as its bounds allow. -/
theorem Within.repetition
    {ends : Cursor → List Cursor}
    {r : Regex}
    (hWithin : Within ends r.language)
    (least : Nat)
    (most : Option Nat)
    (greed : Greed) :
    Within (Regex.repetition ends least most greed)
      (Regex.repeated r least most greed).language := by
  have hMost {ends : Cursor → List Cursor}
      (hWithin : Within ends r.language) :
      Within (Regex.repetition ends least most .greedy)
        (Regex.repeated r least most greed).language := by
    intro c e hMem
    rcases List.mem_flatMap.mp hMem with ⟨d, hRounds, hExtra⟩
    rcases hWithin.rounds least c d hRounds with
      ⟨u, hU, hReadsU⟩
    rcases hWithin.mostRounds _ d e hExtra with
      ⟨v, ⟨k, hLe, hV⟩, hReadsV⟩
    refine ⟨u ++ v, ⟨least + k, by omega, ?_, ?_⟩,
      hReadsU.trans hReadsV⟩
    · intro m hMost
      rcases hMost with rfl
      simp only [extraRounds] at hLe
      omega
    · rw [pow_add]
      exact Language.append_mem_mul hU hV
  cases greed with
  | greedy => exact hMost hWithin
  | frugal =>
      intro c e hMem
      apply hMost hWithin c e
      simpa only [Regex.repetition, List.mem_flatMap,
        mem_fewestRounds_iff] using hMem
  | possessive => exact (hMost (hWithin.take 1)).take 1

/- Whatever is matched is in the language. -/
theorem ends_within
    (r : Regex) :
    Within r.ends r.language := by
  induction r with
  | empty =>
      intro c e hMem
      rcases List.mem_singleton.mp hMem with rfl
      exact ⟨[], rfl, .refl _⟩
  | char cls =>
      intro c e hMem
      cases hNext : c.next? with
      | none => simp [ends, hNext] at hMem
      | some next =>
          simp only [ends, hNext, List.mem_ite_nil_right,
            List.mem_singleton] at hMem
          rcases hMem with ⟨hHas, rfl⟩
          exact ⟨_, ⟨next.1, hHas, rfl⟩,
            Cursor.reads_of_next? hNext⟩
  | anchor a =>
      intro c e hMem
      simp only [ends, List.mem_ite_nil_right,
        List.mem_singleton] at hMem
      rcases hMem with ⟨_, rfl⟩
      exact ⟨[], rfl, .refl _⟩
  | seq r s ihR ihS => exact ihR.flatMap ihS
  | alt r s ihR ihS => exact ihR.append ihS
  | repeated r least most greed ih =>
      exact ih.repetition least most greed
  | atomic r ih => exact ih.take 1
  | group n r ih =>
      intro c e hMem
      rcases List.mem_map.mp hMem with ⟨d, hEnds, rfl⟩
      exact ih c d hEnds
  | echo n letters =>
      intro c e hMem
      rcases Option.bind_eq_some_iff.mp
        (Option.mem_toList.mp hMem) with ⟨t, _, hAfter⟩
      rcases Cursor.exists_reads_of_after? hAfter with
        ⟨w, hReads⟩
      exact ⟨w, trivial, hReads⟩
  | look wanted side r ih =>
      intro c e hMem
      have hEnd := Option.mem_toList.mp hMem
      unfold lookEnd? at hEnd
      split at hEnd
      · split at hEnd
        · cases hEnd
          exact ⟨[], rfl, rfl⟩
        · cases hEnd
      · split at hEnd
        · cases hEnd
        · cases hEnd
          exact ⟨[], rfl, rfl⟩
  | given n r s ihR ihS =>
      intro c e hMem
      apply ihR.append ihS c e
      simp only [ends] at hMem
      split at hMem
      · exact List.mem_append_left _ hMem
      · exact List.mem_append_right _ hMem

end Regex

end SqlAudit

------------------------------------------------------------
-- The Language Is Matched
------------------------------------------------------------

namespace SqlAudit

namespace Regex

namespace Covers

variable {ends next : Cursor → List Cursor}
variable {L M : Language Char}

theorem append
    (hFirst : Covers ends L)
    (hSecond : Covers next M) :
    Covers (fun c => ends c ++ next c) (L + M) := by
  rintro c w (hWord | hWord) rest hRest
  · rcases hFirst c w hWord rest hRest with
      ⟨e, hEnds, hReads⟩
    exact ⟨e, List.mem_append_left _ hEnds, hReads⟩
  · rcases hSecond c w hWord rest hRest with
      ⟨e, hNext, hReads⟩
    exact ⟨e, List.mem_append_right _ hNext, hReads⟩

theorem flatMap
    (hFirst : Covers ends L)
    (hSecond : Covers next M) :
    Covers (fun c => (ends c).flatMap next) (L * M) := by
  rintro c _ ⟨u, hU, v, hV, rfl⟩ rest hRest
  rw [List.append_assoc] at hRest
  rcases hFirst c u hU _ hRest with ⟨d, hEnds, hReadsU⟩
  rcases hSecond d v hV rest
    (hReadsU.rest_of_append hRest) with ⟨e, hNext, hReadsV⟩
  exact ⟨e, List.mem_flatMap.mpr ⟨d, hEnds, hNext⟩,
    hReadsU.trans hReadsV⟩

theorem rounds
    (hCovers : Covers ends L)
    (n : Nat) :
    Covers (Regex.rounds ends n) (L ^ n) := by
  induction n with
  | zero =>
      rintro c _ rfl rest _
      exact ⟨c, List.mem_singleton.mpr rfl, .refl c⟩
  | succ n ih =>
      rw [pow_succ']
      exact hCovers.flatMap ih

/-
  Every text of some rounds is read, though a round that does
  not move on is the last one. The induction is on the number
  of rounds: one that reads nothing can be left out, and the
  others are no more than are allowed, or no more than the
  text has characters.
-/
theorem mostRounds
    (hCovers : Covers ends L)
    {k n : Nat}
    {c : Cursor}
    {w rest : List Char}
    (hWord : w ∈ L ^ k)
    (hRest : c.rest = w ++ rest)
    (hEnough : k ≤ n ∨ w.length ≤ n) :
    ∃ e ∈ Regex.mostRounds ends n c, c.Reads w e := by
  induction k generalizing n c w with
  | zero =>
      rcases hWord with rfl
      refine ⟨c, ?_, .refl c⟩
      cases n with
      | zero => exact List.mem_singleton.mpr rfl
      | succ n =>
          exact List.mem_append_right _
            (List.mem_singleton.mpr rfl)
  | succ k ih =>
      rw [pow_succ'] at hWord
      rcases hWord with ⟨u, hU, v, hV, rfl⟩
      by_cases hEmpty : u = []
      · subst hEmpty
        apply ih hV hRest
        rcases hEnough with hLe | hLe
        · exact .inl (by omega)
        · exact .inr hLe
      · have hLength := List.length_pos_iff.mpr hEmpty
        simp only [List.length_append] at hEnough
        cases n with
        | zero => omega
        | succ n =>
            simp only [List.append_assoc] at hRest
            rcases hCovers c u hU _ hRest with
              ⟨d, hEnds, hReadsU⟩
            have hThen : k ≤ n ∨ v.length ≤ n := by omega
            rcases ih hV (hReadsU.rest_of_append hRest)
              hThen with ⟨e, hMost, hReadsV⟩
            refine ⟨e, ?_, hReadsU.trans hReadsV⟩
            apply List.mem_append_left
            apply List.mem_flatMap.mpr
            refine ⟨d, hEnds, ?_⟩
            rw [hReadsU.moves hEmpty]
            exact hMost

end Covers

/- A repetition that gives back reads all of its language. -/
theorem Covers.repetition
    {ends : Cursor → List Cursor}
    {r : Regex}
    (hCovers : Covers ends r.language)
    (least : Nat)
    (most : Option Nat)
    {greed : Greed}
    (hGreed : greed ≠ .possessive) :
    Covers (Regex.repetition ends least most greed)
      (Regex.repeated r least most greed).language := by
  have hMost :
      Covers (Regex.repetition ends least most .greedy)
        (Regex.repeated r least most greed).language := by
    rintro c w ⟨n, hLeast, hBound, hWord⟩ rest hRest
    obtain ⟨k, rfl⟩ := Nat.exists_eq_add_of_le hLeast
    rw [pow_add] at hWord
    rcases hWord with ⟨u, hU, v, hV, rfl⟩
    rw [List.append_assoc] at hRest
    rcases hCovers.rounds least c u hU _ hRest with
      ⟨d, hRounds, hReadsU⟩
    have hThen := hReadsU.rest_of_append hRest
    have hEnough :
        k ≤ extraRounds least most d ∨
          v.length ≤ extraRounds least most d := by
      cases most with
      | some m =>
          have hLe := hBound m rfl
          simp only [extraRounds]
          omega
      | none =>
          have hLength := congrArg List.length hThen
          rw [← d.left_eq, List.length_append] at hLength
          simp only [extraRounds]
          omega
    rcases hCovers.mostRounds hV hThen hEnough with
      ⟨e, hExtra, hReadsV⟩
    exact ⟨e, List.mem_flatMap.mpr ⟨d, hRounds, hExtra⟩,
      hReadsU.trans hReadsV⟩
  cases greed with
  | greedy => exact hMost
  | frugal =>
      intro c w hWord rest hRest
      rcases hMost c w hWord rest hRest with ⟨e, hMem, hReads⟩
      refine ⟨e, ?_, hReads⟩
      simpa only [Regex.repetition, List.mem_flatMap,
        mem_fewestRounds_iff] using hMem
  | possessive => exact absurd rfl hGreed

/- A regular expression matches all of its language. -/
theorem ends_covers
    {r : Regex}
    (hRegular : r.isRegular = true) :
    Covers r.ends r.language := by
  induction r with
  | empty =>
      rintro c _ rfl rest _
      exact ⟨c, List.mem_singleton.mpr rfl, .refl c⟩
  | char cls =>
      rintro c _ ⟨x, hHas, rfl⟩ rest hRest
      rcases Cursor.exists_next? hRest with
        ⟨d, hNext, hReads⟩
      exact ⟨d, by simp [ends, hNext, hHas], hReads⟩
  | seq r s ihR ihS =>
      simp only [isRegular, Bool.and_eq_true] at hRegular
      exact (ihR hRegular.1).flatMap (ihS hRegular.2)
  | alt r s ihR ihS =>
      simp only [isRegular, Bool.and_eq_true] at hRegular
      exact (ihR hRegular.1).append (ihS hRegular.2)
  | repeated r least most greed ih =>
      simp only [isRegular, Bool.and_eq_true, bne_iff_ne]
        at hRegular
      exact (ih hRegular.1).repetition least most hRegular.2
  | group n r ih =>
      intro c w hWord rest hRest
      rcases ih hRegular c w hWord rest hRest with
        ⟨e, hEnds, hReads⟩
      exact ⟨e.hold n c, List.mem_map.mpr ⟨e, hEnds, rfl⟩,
        hReads⟩
  | anchor | atomic | echo | look | given => cases hRegular

end Regex

end SqlAudit

------------------------------------------------------------
-- Occurrences
------------------------------------------------------------

namespace SqlAudit

/- The places of a text are its suffixes. -/
theorem Cursor.exists_onward_rest_iff
    {text rest : List Char} :
    (∃ c ∈ (Cursor.start text).onward, c.rest = rest) ↔
      rest <:+ text := by
  have hFrom (before text : List Char) (left : Nat)
      (hLeft : left = text.length) :
      (∃ c ∈ onwardFrom before text left hLeft,
          c.rest = rest) ↔
        rest <:+ text := by
    induction text generalizing before left with
    | nil => simp [onwardFrom, eq_comm]
    | cons x text ih =>
        simp only [onwardFrom, List.mem_cons,
          exists_eq_or_imp, ih, List.suffix_cons_iff]
        exact or_congr_left eq_comm
  exact hFrom [] text _ _

namespace Regex

/- An expression occurs if there is an end somewhere. -/
theorem occursIn_iff_exists_ends
    {r : Regex}
    {text : List Char} :
    r.occursIn text = true ↔
      ∃ c ∈ (Cursor.start text).onward, r.ends c ≠ [] := by
  simp [occursIn, search_eq r Cursor some, findSome?_some]

/- What occurs in a text is in the language. -/
theorem exists_infix_of_occursIn
    {r : Regex}
    {text : List Char}
    (hOccurs : r.occursIn text = true) :
    ∃ w ∈ r.language, w <:+: text := by
  rcases occursIn_iff_exists_ends.mp hOccurs with
    ⟨c, hPlace, hEnds⟩
  rcases List.exists_mem_of_ne_nil _ hEnds with ⟨e, hEnd⟩
  rcases r.ends_within c e hEnd with ⟨w, hWord, hReads⟩
  have hSuffix :=
    Cursor.exists_onward_rest_iff.mp ⟨c, hPlace, rfl⟩
  have hPrefix : w <+: c.rest := ⟨e.rest, hReads.symm⟩
  exact ⟨w, hWord, hPrefix.isInfix.trans hSuffix.isInfix⟩

/-
  A regular expression occurs in a text exactly if a piece
  of the text is in its language.
-/
theorem occursIn_iff
    {r : Regex}
    (hRegular : r.isRegular = true)
    {text : List Char} :
    r.occursIn text = true ↔
      ∃ w ∈ r.language, w <:+: text := by
  constructor
  · exact exists_infix_of_occursIn
  · rintro ⟨w, hWord, front, back, hText⟩
    have hSuffix : w ++ back <:+ text :=
      ⟨front, by rw [← hText, List.append_assoc]⟩
    rcases Cursor.exists_onward_rest_iff.mpr hSuffix with
      ⟨c, hPlace, hRest⟩
    rcases ends_covers hRegular c w hWord back hRest with
      ⟨e, hEnd, _⟩
    exact occursIn_iff_exists_ends.mpr
      ⟨c, hPlace, List.ne_nil_of_mem hEnd⟩

end Regex

end SqlAudit
