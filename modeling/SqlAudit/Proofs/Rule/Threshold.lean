import SqlAudit.Proofs.Regex.Enumeration
import SqlAudit.Rule.Draft

/-
  Thresholds of tests that look for a pattern.

  For a threshold of one, a test looks for a single match,
  and for others, it counts all matches of a scan. That makes
  no difference to when it fires, and a test for absence
  fires exactly when a threshold of one is not reached.

  Key definitions include:
    * `SqlAudit.Test.Fires`

  Key theorems include:
    * `SqlAudit.Pattern.tally_eq`
    * `SqlAudit.Test.threshold_agrees_with_enumeration`
-/

------------------------------------------------------------
-- Outcomes And Counts
------------------------------------------------------------

namespace SqlAudit

/- The test comes to a match that fired. -/
def Test.Fires
    (test : Test)
    (s : Statement) : Prop :=
  ∃ m, test.outcome s = .ok m ∧ m.fired = true

theorem Test.fires_of_outcome
    {test : Test}
    {s : Statement}
    {m : Match}
    (hOutcome : test.outcome s = .ok m) :
    test.Fires s ↔ m.fired = true := by
  simp [Fires, hOutcome]

/-
  What is counted is the number of matches, but at most one
  if one is enough.
-/
theorem Pattern.tally_eq
    (p : Pattern)
    (least : Nat)
    (text : List Char) :
    p.tally least text =
      if least = 1 then min 1 (p.regex.count text)
      else p.regex.count text := by
  unfold tally
  by_cases hOne : least = 1
  · simp only [hOne, beq_self_eq_true, if_true]
    by_cases hOccurs : p.regex.occursIn text = true
    · have hSome := Regex.occursIn_iff_count_ne_zero.mp hOccurs
      rw [if_pos hOccurs]
      omega
    · have hNone := hOccurs
      rw [Regex.occursIn_iff_count_ne_zero, not_not] at hNone
      rw [if_neg hOccurs, hNone]
      rfl
  · simp [hOne]

theorem Test.outcome_occurs
    (p : Pattern)
    (least : Nat)
    (s : Statement) :
    (Test.occurs p least).outcome s =
      .ok ⟨decide (least ≤ p.regex.count s.text),
        if least = 1 then min 1 (p.regex.count s.text)
        else p.regex.count s.text⟩ := by
  have hFires :
      least ≤ p.tally least s.text ↔
        least ≤ p.regex.count s.text := by
    rw [p.tally_eq]
    split
    · omega
    · rfl
  simp only [outcome, decide_eq_decide.mpr hFires]
  rw [p.tally_eq]

theorem Test.outcome_absent
    (p : Pattern)
    (s : Statement) :
    (Test.absent p).outcome s =
      .ok ⟨decide (p.regex.count s.text = 0), 0⟩ := by
  simp only [outcome]
  by_cases hOccurs : p.regex.occursIn s.text = true
  · have hSome := Regex.occursIn_iff_count_ne_zero.mp hOccurs
    simp [hOccurs, hSome, Match.none]
  · have hNone := hOccurs
    rw [Regex.occursIn_iff_count_ne_zero, not_not] at hNone
    simp [hOccurs, hNone]

end SqlAudit

------------------------------------------------------------
-- Thresholds
------------------------------------------------------------

namespace SqlAudit

namespace Test

/-
  On every text, a scan enumerates one list of matches. A
  test for a pattern fires exactly if that list is as long
  as the threshold, also if one match is enough and only one
  is looked for, so it fires for every smaller threshold. The
  test for the absence of the pattern fires exactly if the
  list is empty, which is when the test for its presence
  does not fire.
-/
theorem threshold_agrees_with_enumeration
    (p : Pattern)
    (text : List Char) :
    ∃ spans : List Regex.Span,
      (∀ others,
        p.regex.Enumerates false (.start (Text.lower text))
            others ↔
          others = spans) ∧
      (∀ least,
        (Test.occurs p least).outcome (.ofText text) =
          .ok ⟨decide (least ≤ spans.length),
            if least = 1 then min 1 spans.length
            else spans.length⟩) ∧
      (Test.absent p).outcome (.ofText text) =
        .ok ⟨decide (spans.length = 0), 0⟩ ∧
      (∀ least fewer,
        fewer ≤ least →
        (Test.occurs p least).Fires (.ofText text) →
        (Test.occurs p fewer).Fires (.ofText text)) ∧
      ((Test.absent p).Fires (.ofText text) ↔
        ¬(Test.occurs p 1).Fires (.ofText text)) := by
  have hFound := p.regex.enumerates_findAll (Text.lower text)
  have hFires (least : Nat) :=
    fires_of_outcome
      (outcome_occurs p least (.ofText text))
  have hAbsent :=
    fires_of_outcome (outcome_absent p (.ofText text))
  simp only [decide_eq_true_eq] at hFires hAbsent
  refine ⟨p.regex.findAll (Text.lower text), ?_,
    fun least => outcome_occurs p least _,
    outcome_absent p _, ?_, ?_⟩
  · intro others
    constructor
    · intro hOthers
      exact hOthers.unique hFound
    · rintro rfl
      exact hFound
  · intro least fewer hLe hLeast
    exact (hFires fewer).mpr
      (hLe.trans ((hFires least).mp hLeast))
  · rw [hAbsent, hFires]
    omega

/-
  The empty text matches before and after the one character,
  so that a threshold of two is reached.
-/
theorem threshold_agrees_with_enumeration_of_stars :
    ∃ p,
      Draft.compileText (.text "a") "a*".toList = .ok p ∧
        (Test.occurs p 2).Fires (.ofText "B".toList) ∧
        (Test.occurs p 1).Fires (.ofText "B".toList) ∧
        ¬(Test.absent p).Fires (.ofText "B".toList) := by
  let p : Pattern :=
    ⟨"a*".toList,
      .repeated (.char (.single 'a')) 0 none .greedy⟩
  rcases threshold_agrees_with_enumeration p "B".toList with
    ⟨spans, _, _, _, hFewer, hEither⟩
  have hTwo : (Test.occurs p 2).Fires (.ofText "B".toList) :=
    ⟨⟨true, 2⟩, by rfl, rfl⟩
  have hOne := hFewer 2 1 (by omega) hTwo
  refine ⟨p, by rfl, hTwo, hOne, ?_⟩
  rw [hEither, not_not]
  exact hOne

end Test

end SqlAudit
