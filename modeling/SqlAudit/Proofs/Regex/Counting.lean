import SqlAudit.Proofs.Regex.Enumeration
import SqlAudit.Proofs.Text.Positions

/-
  Counting the matches of a word.

  A scan goes on behind each match, so it could pass over an
  occurrence that begins inside a match. A word without a
  border has no such occurrence, and the scan finds it at all
  positions at which it starts.

  Key definitions include:
    * `SqlAudit.Regex.Denotes`
    * `SqlAudit.Regex.word?`

  Key theorems include:
    * `SqlAudit.Regex.denotes_of_word?`
    * `SqlAudit.Regex.Denotes.count_eq`
-/

------------------------------------------------------------
-- Expressions Of One Word
------------------------------------------------------------

namespace SqlAudit

namespace Regex

/- The expression matches the word and nothing else. -/
structure Denotes
    (r : Regex)
    (w : List Char) : Prop where
  isRegular : r.isRegular = true
  mem_language_iff : ∀ v, v ∈ r.language ↔ v = w

namespace Denotes

variable {r : Regex}
variable {w : List Char}
variable {c e : Cursor}

/- A match reads the word. -/
theorem reads_of_bestEnd?
    (hDenotes : r.Denotes w)
    {mustMove : Bool}
    (hBest : r.bestEnd? mustMove c = some e) :
    c.Reads w e := by
  have hEnd := List.mem_of_find?_eq_some hBest
  rcases r.ends_within c e hEnd with ⟨v, hWord, hReads⟩
  rwa [(hDenotes.mem_language_iff v).mp hWord] at hReads

/- There is a match wherever the word stands. -/
theorem not_isPrefixOf_of_bestEnd?
    (hDenotes : r.Denotes w)
    (hNone : r.bestEnd? false c = none) :
    w.isPrefixOf c.rest = false := by
  rw [Bool.eq_false_iff, Ne, List.isPrefixOf_iff_prefix]
  rintro ⟨rest, hRest⟩
  have hWord := (hDenotes.mem_language_iff w).mpr rfl
  rcases ends_covers hDenotes.isRegular c w hWord rest
    hRest.symm with ⟨d, hEnd, _⟩
  rw [bestEnd?_free_eq_none_iff.mp hNone] at hEnd
  cases hEnd

end Denotes

end Regex

end SqlAudit

------------------------------------------------------------
-- Scanning For A Word
------------------------------------------------------------

namespace SqlAudit

namespace Regex

namespace Denotes

variable {r : Regex}
variable {w : List Char}
variable (hDenotes : r.Denotes w)
variable (hSome : w ≠ [])
variable (hUnbordered : Text.isUnbordered w = true)

include hDenotes hSome hUnbordered

/-
  The induction is on the scan. After a match, the positions
  that are left are those behind it. After a place without
  one, they are those from the next place on.
-/
theorem length_of_enumerates
    {c : Cursor}
    {spans : List Span}
    (hSpans : r.Enumerates false c spans) :
    spans.length = (Text.positions w c.rest).length := by
  generalize hFree : false = mustMove at hSpans
  induction hSpans with
  | found hBest _ ih =>
      have hReads := hDenotes.reads_of_bestEnd? hBest
      have hBehind := ih (hReads.moves hSome).symm
      rw [List.length_cons, hBehind, hReads,
        Text.length_positions_append_word hUnbordered hSome,
        Nat.add_comm]
      rfl
  | passed hNone hNext _ ih =>
      subst hFree
      have hNot := hDenotes.not_isPrefixOf_of_bestEnd? hNone
      rw [Cursor.reads_of_next? hNext,
        List.singleton_append] at hNot ⊢
      rw [ih rfl, Text.length_positions_cons, hNot]
      simp
  | @ended _ c _ hEnd =>
      have hRest : c.rest = [] := by
        cases hRest : c.rest with
        | nil => rfl
        | cons x rest =>
            rcases Cursor.exists_next? hRest with
              ⟨d, hNext, _⟩
            rw [hEnd] at hNext
            cases hNext
      simp [hRest]

/- All occurrences of the word are counted. -/
theorem count_eq
    (text : List Char) :
    r.count text = (Text.positions w text).length :=
  hDenotes.length_of_enumerates hSome hUnbordered
    (enumerates_findAll r text)

end Denotes

end Regex

end SqlAudit

------------------------------------------------------------
-- Words That Can Be Read Off
------------------------------------------------------------

namespace SqlAudit

namespace Regex

/-
  The word that an expression stands for, if it is made of
  single characters one after the other.
-/
def word? : Regex → Option (List Char)
| .empty => some []
| .char ⟨false, [.single c], .exact⟩ => some [c]
| .seq r s => do return (← r.word?) ++ (← s.word?)
| .group _ r => r.word?
| _ => none

theorem denotes_of_word?
    {r : Regex}
    {w : List Char}
    (hWord : r.word? = some w) :
    r.Denotes w := by
  fun_induction word? r generalizing w with
  | case1 =>
      cases hWord
      exact ⟨rfl, fun v => Language.mem_one v⟩
  | case2 c =>
      cases hWord
      refine ⟨rfl, fun v => ?_⟩
      change
        (∃ x, (CharClass.single c).has x = true ∧ v = [x]) ↔ _
      simp [CharClass.has, CharClass.single,
        CharClass.ofItem, ClassItem.hasUnder, ClassItem.has]
  | case3 r s ihR ihS =>
      rcases Option.bind_eq_some_iff.mp hWord with
        ⟨u, hFirst, hRest⟩
      rcases Option.bind_eq_some_iff.mp hRest with
        ⟨v, hSecond, hBoth⟩
      cases hBoth
      have hU := ihR hFirst
      have hV := ihS hSecond
      refine ⟨?_, fun x => ?_⟩
      · simp [isRegular, hU.isRegular, hV.isRegular]
      · rw [language, Language.mem_mul]
        simp [hU.mem_language_iff, hV.mem_language_iff,
          eq_comm]
  | case4 n r ih => exact ⟨(ih hWord).1, (ih hWord).2⟩
  | case5 => cases hWord

end Regex

end SqlAudit
