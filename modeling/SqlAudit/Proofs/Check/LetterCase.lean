import Mathlib.Data.List.Forall2
import SqlAudit.Check
import SqlAudit.Proofs.Rule.Sample
import SqlAudit.Proofs.Text.Lowercase

/-
  The letter case of statements has no part in a check.

  A check sees no more of a text than its statement, which is
  in small letters. Texts that differ in the case of ASCII
  letters have one statement, and so have a text and the same
  text in small letters.

  Key definitions include:
    * `SqlAudit.Text.SameButCase`

  Key theorems include:
    * `SqlAudit.Text.SameButCase.lower_eq`
    * `SqlAudit.check_eq_of_statements`
    * `SqlAudit.letter_case_is_immaterial`
-/

------------------------------------------------------------
-- Texts That Differ In Letter Case
------------------------------------------------------------

namespace SqlAudit.Text

/-
  The texts are equal up to the case of ASCII letters, or one
  of them is the other one in small letters.
-/
def SameButCase (s t : List Char) : Prop :=
  s.map Char.toLower = t.map Char.toLower ∨
    t = lower s ∨ s = lower t

theorem SameButCase.lower_eq
    {s t : List Char}
    (hSame : SameButCase s t) :
    lower s = lower t := by
  rcases hSame with hAscii | rfl | rfl
  · rw [← lower_map_toLower s, hAscii, lower_map_toLower]
  · exact (lower_lower s).symm
  · exact lower_lower t

theorem SameButCase.ofText_eq
    {s t : List Char}
    (hSame : SameButCase s t) :
    Statement.ofText s = Statement.ofText t :=
  congrArg Statement.mk hSame.lower_eq

end SqlAudit.Text

------------------------------------------------------------
-- Checks Of Equal Statements
------------------------------------------------------------

namespace SqlAudit

/- An inspection sees the statements and nothing else. -/
theorem inspectAll_eq_of_statements
    (config : Configuration)
    (catalog : List Rule)
    (index : Nat)
    {texts others : List (List Char)}
    (hSame :
      texts.map Statement.ofText =
        others.map Statement.ofText) :
    inspectAll config catalog index texts =
      inspectAll config catalog index others := by
  induction texts generalizing index others with
  | nil =>
      cases others with
      | nil => rfl
      | cons _ _ => cases hSame
  | cons text texts ih =>
      cases others with
      | nil => cases hSame
      | cons other others =>
          rw [List.map_cons, List.map_cons,
            List.cons.injEq] at hSame
          simp only [inspectAll, hSame.1,
            ih (index + 1) hSame.2]

theorem check_eq_of_statements
    (config : Configuration)
    (catalog : List Rule)
    {texts others : List (List Char)}
    (hSame :
      texts.map Statement.ofText =
        others.map Statement.ofText) :
    check config catalog texts =
      check config catalog others := by
  unfold check
  rw [inspectAll_eq_of_statements config catalog 0 hSame]

/-
  Texts that differ in letter case only have the same
  statements, with the same facts. Whatever the configuration
  and the rules, checks of them go the same way up to the end
  or to the same fault, so that they have the same report.
-/
theorem letter_case_is_immaterial
    (config : Configuration)
    (catalog : List Rule)
    (texts others : List (List Char))
    (hSame : List.Forall₂ Text.SameButCase texts others) :
    texts.map Statement.ofText =
        others.map Statement.ofText ∧
      check config catalog texts =
        check config catalog others ∧
      (check config catalog texts).report =
        (check config catalog others).report := by
  have hStatements :
      texts.map Statement.ofText =
        others.map Statement.ofText := by
    induction hSame with
    | nil => rfl
    | cons hHead _ ih =>
        rw [List.map_cons, List.map_cons, hHead.ofText_eq, ih]
  have hCheck :=
    check_eq_of_statements config catalog hStatements
  exact ⟨hStatements, hCheck, by rw [hCheck]⟩

/-
  A sigma does not mind the case of the letters around it,
  and the dotted letter is two characters in small letters.
-/
theorem letter_case_is_immaterial_of_sigmas :
    let rule : Rule := .longSample
    let config : Configuration :=
      ⟨.info, .flag false, .flag false, .text "mysql"⟩
    let texts := ["AΣ Σb".toList, "İΣ".toList]
    let others := ["aΣ ΣB".toList, "i̇ς".toList]
    List.Forall₂ Text.SameButCase texts others ∧
      (check config [rule] texts).report =
        (check config [rule] others).report ∧
      ∃ report,
        (check config [rule] others).report = .ok report ∧
          report.findings.map Finding.index = [0, 1] := by
  intro rule config texts others
  have hSame : List.Forall₂ Text.SameButCase texts others :=
    .cons (.inl (by decide))
      (.cons (.inr (.inl (by decide +kernel))) .nil)
  have hEqual :=
    letter_case_is_immaterial config [rule] texts others hSame
  refine ⟨hSame, hEqual.2.2, _, rfl, ?_⟩
  rfl

end SqlAudit
