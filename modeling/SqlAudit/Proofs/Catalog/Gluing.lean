import SqlAudit.Proofs.Catalog.Counting
import SqlAudit.Proofs.Regex.Blindness

/-
  Firings that no text around a statement undoes.

  A growing rule looks for something that stays when text is
  put before and behind: a clause, a pattern that sees no
  difference between the small sigmas, occurrences of a word,
  or length. All built-in rules grow but those about keys and
  about the name of the table. A rule about keys looks for
  something as well, and fires if there is none.

  Key definitions include:
    * `SqlAudit.Rule.isGrowing`
    * `SqlAudit.Catalog.keyRules`
    * `SqlAudit.Catalog.nameRules`

  Key theorems include:
    * `SqlAudit.Rule.evaluate_of_pieceOf`
    * `SqlAudit.Test.outcome_absent_of_pieceOf`
    * `SqlAudit.Registry.standard_isGrowing`
    * `SqlAudit.Catalog.gluing_hides_nothing`
-/

------------------------------------------------------------
-- Guards And Tests That Grow
------------------------------------------------------------

namespace SqlAudit

/- The guard looks for clauses anywhere in the text. -/
def Guard.isGrowing : Guard → Bool
| .always | .ddl | .create => true
| .table | .tableHolding _ => false

/-
  The pattern is regular and does not see which small sigma
  it matches. If it is counted, it is a word that does not
  overlap itself and has no sigma.
-/
def Pattern.isGrowing
    (p : Pattern)
    (least : Nat) : Bool :=
  if least = 1 then
    p.regex.isRegular && p.regex.isBlind
  else
    p.regex.word?.any fun w =>
      !w.isEmpty && Text.isUnbordered w && Text.isSigmaFree w

/- The test looks for something that a text has. -/
def Test.isGrowing : Test → Bool
| .occurs p least => p.isGrowing least
| .long _ => true
| .absent _ | .aboutTable _ => false

/- Both the guard and the test of the rule grow. -/
def Rule.isGrowing (rule : Rule) : Bool :=
  rule.guard.isGrowing && rule.test.isGrowing

section

variable {s t : Statement}
variable (hPiece : Text.PieceOf s.text t.text)

include hPiece

theorem Guard.admits_of_pieceOf
    {guard : Guard}
    (hGrowing : guard.isGrowing = true)
    (hAdmits : guard.admits s = true) :
    guard.admits t = true := by
  have hCreate (hFound :
      Text.occurs createTable s.text = true) :=
    Text.PieceOf.occurs (w := createTable) (by decide) hPiece
      hFound
  have hAlter (hFound :
      Text.occurs alterTable s.text = true) :=
    Text.PieceOf.occurs (w := alterTable) (by decide) hPiece
      hFound
  cases guard with
  | always => rfl
  | ddl =>
      rcases Bool.or_eq_true_iff.mp hAdmits with
        hFound | hFound
      · exact Bool.or_eq_true_iff.mpr (.inl (hCreate hFound))
      · exact Bool.or_eq_true_iff.mpr (.inr (hAlter hFound))
  | create => exact hCreate hAdmits
  | table | tableHolding => cases hGrowing

/- A growing pattern matches no less in the whole. -/
theorem Pattern.tally_le_of_pieceOf
    {p : Pattern}
    {least : Nat}
    (hGrowing : p.isGrowing least = true) :
    p.tally least s.text ≤ p.tally least t.text := by
  unfold isGrowing at hGrowing
  by_cases hOne : least = 1
  · rw [if_pos hOne, Bool.and_eq_true] at hGrowing
    simp only [tally, hOne, beq_self_eq_true, if_true]
    by_cases hOccurs : p.regex.occursIn s.text = true
    · have hThere :=
        Regex.occursIn_of_pieceOf hGrowing.1 hGrowing.2 hPiece
          hOccurs
      rw [if_pos hOccurs, if_pos hThere]
    · rw [if_neg hOccurs]
      exact Nat.zero_le _
  · rw [if_neg hOne] at hGrowing
    simp only [Option.any_eq_true, Bool.and_eq_true,
      Bool.not_eq_true', List.isEmpty_eq_false_iff] at hGrowing
    rcases hGrowing with
      ⟨w, hWord, ⟨hSome, hUnbordered⟩, hFree⟩
    have hCount :=
      (Regex.denotes_of_word? hWord).count_eq hSome
        hUnbordered
    rw [p.tally_eq, p.tally_eq, if_neg hOne, if_neg hOne,
      hCount, hCount]
    exact Text.PieceOf.length_positions_le hFree hPiece

/- A growing test that fires on a piece fires on the whole. -/
theorem Test.outcome_of_pieceOf
    {test : Test}
    (hGrowing : test.isGrowing = true)
    {m : Match}
    (hOutcome : test.outcome s = .ok m)
    (hFired : m.fired = true) :
    ∃ more,
      test.outcome t = .ok more ∧ more.fired = true ∧
        m.count ≤ more.count := by
  cases test with
  | occurs p least =>
      have hTally := p.tally_le_of_pieceOf hPiece hGrowing
      cases hOutcome
      rw [decide_eq_true_eq] at hFired
      exact ⟨_, rfl, decide_eq_true (hFired.trans hTally),
        hTally⟩
  | long least =>
      have hLength := hPiece.length_le
      simp only [outcome] at hOutcome ⊢
      by_cases hLong : least ≤ s.text.length
      · rw [if_pos hLong] at hOutcome
        rw [if_pos (hLong.trans hLength)]
        cases hOutcome
        exact ⟨_, rfl, rfl, Nat.le_refl 1⟩
      · rw [if_neg hLong] at hOutcome
        cases hOutcome
        cases hFired
  | absent | aboutTable => cases hGrowing

/- So does a growing rule, guard and all. -/
theorem Rule.evaluate_of_pieceOf
    {rule : Rule}
    (hGrowing : rule.isGrowing = true)
    {m : Match}
    (hEvaluate : rule.evaluate s = .ok m)
    (hFired : m.fired = true) :
    ∃ more,
      rule.evaluate t = .ok more ∧ more.fired = true ∧
        m.count ≤ more.count := by
  rcases Bool.and_eq_true_iff.mp hGrowing with
    ⟨hGuard, hTest⟩
  unfold evaluate applies at hEvaluate ⊢
  by_cases hAdmits : rule.guard.admits s = true
  · rw [if_pos hAdmits] at hEvaluate
    rw [if_pos (Guard.admits_of_pieceOf hPiece hGuard
      hAdmits)]
    exact Test.outcome_of_pieceOf hPiece hTest hEvaluate
      hFired
  · rw [if_neg hAdmits] at hEvaluate
    cases hEvaluate
    cases hFired

/- What is found in a piece is not missing in the whole. -/
theorem Test.outcome_absent_of_pieceOf
    {p : Pattern}
    (hRegular : p.regex.isRegular = true)
    (hBlind : p.regex.isBlind = true)
    {m : Match}
    (hOutcome : (Test.absent p).outcome s = .ok m)
    (hQuiet : m.fired = false) :
    ∃ more,
      (Test.absent p).outcome t = .ok more ∧
        more.fired = false := by
  rw [outcome_absent] at hOutcome
  cases hOutcome
  have hHere : p.regex.occursIn s.text = true :=
    Regex.occursIn_iff_count_ne_zero.mpr
      (of_decide_eq_false hQuiet)
  have hThere :=
    Regex.occursIn_of_pieceOf hRegular hBlind hPiece hHere
  exact ⟨_, outcome_absent p t,
    decide_eq_false
      (Regex.occursIn_iff_count_ne_zero.mp hThere)⟩

end

end SqlAudit

------------------------------------------------------------
-- Rules About Absence
------------------------------------------------------------

namespace SqlAudit

namespace Catalog

/- The test of such a rule looks for the wording. -/
theorem Worded.exists_absent
    {d : Draft}
    {id : String}
    {wording : Regex.Wording}
    (hWorded : Worded d .absent id wording) :
    ∃ rule p,
      Registry.standard.get (.text id) = .ok rule ∧
        rule.test = .absent p ∧
        p.regex = wording.regex := by
  rcases exists_rule_of_draft hWorded.mem hWorded.id_eq with
    ⟨rule, hGet, _, _, hTest⟩
  unfold Draft.test at hTest
  simp only [hWorded.kind_eq] at hTest
  rcases ok_of_bind_eq_ok hTest with ⟨p, hCompile, hTest⟩
  exact ⟨rule, p, hGet, (Except.ok.inj hTest).symm,
    hWorded.regex_eq hCompile⟩

/- The rules that fire if a table has no key. -/
def keyRules : List String :=
  ["logical_design.primary_key_exists",
    "logical_design.foreign_key_exists"]

/- The rules about the name of the table. -/
def nameRules : List String :=
  ["logical_design.recursive_dependency",
    "logical_design.entity_attribute_value"]

theorem worded_primaryKeyExists :
    Worded LogicalDesign.primaryKeyExists .absent
      "logical_design.primary_key_exists"
      (choiceOf "primary key" []) := {}

theorem worded_foreignKeyExists :
    Worded LogicalDesign.foreignKeyExists .absent
      "logical_design.foreign_key_exists"
      (choiceOf "foreign key" []) := {}

/- The rules about keys look for words without a sigma. -/
theorem exists_worded_of_mem_keyRules
    {id : String}
    (hId : id ∈ keyRules) :
    ∃ d wording,
      Worded d .absent id wording ∧
        wording.regex.isBlind = true := by
  simp only [keyRules, List.mem_cons, List.not_mem_nil,
    or_false] at hId
  rcases hId with rfl | rfl
  · exact ⟨_, _, worded_primaryKeyExists, by decide⟩
  · exact ⟨_, _, worded_foreignKeyExists, by decide⟩

end Catalog

end SqlAudit

------------------------------------------------------------
-- Built-In Rules
------------------------------------------------------------

namespace SqlAudit

/- The rule goes by a text as its identifier. -/
def Rule.isNamed
    (rule : Rule)
    (id : String) : Bool :=
  match rule.id with
  | .text s => s == id
  | _ => false

theorem Rule.id_of_isNamed
    {rule : Rule}
    {id : String}
    (hNamed : rule.isNamed id = true) :
    rule.id = .text id := by
  unfold isNamed at hNamed
  split at hNamed
  · rename_i s hId
    rw [hId, eq_of_beq hNamed]
  · cases hNamed

theorem Registry.mem_of_get
    {registry : Registry}
    {id : Value}
    {rule : Rule}
    (hGet : registry.get id = .ok rule) :
    rule ∈ registry.rules := by
  unfold get at hGet
  cases hKey : id.key? with
  | none =>
      rw [hKey] at hGet
      cases hGet
  | some key =>
      cases hFind : registry.find? key with
      | none =>
          simp only [hKey, hFind] at hGet
          cases hGet
      | some found =>
          simp only [hKey, hFind] at hGet
          cases hGet
          exact List.mem_of_find?_eq_some hFind

theorem Registry.standard_isGrowing
    {rule : Rule}
    (hMem : rule ∈ Registry.standard.rules)
    (hOther :
      ∀ id ∈ Catalog.keyRules ++ Catalog.nameRules,
        rule.id ≠ .text id) :
    rule.isGrowing = true := by
  have hAll :
      (Registry.standard.rules.all fun rule =>
        (Catalog.keyRules ++ Catalog.nameRules).any
            rule.isNamed ||
          rule.isGrowing) = true := by
    decide +kernel
  have hRule := List.all_eq_true.mp hAll rule hMem
  rcases Bool.or_eq_true_iff.mp hRule with hNamed | hGrowing
  · rcases List.any_eq_true.mp hNamed with ⟨id, hIn, hSame⟩
    exact absurd (Rule.id_of_isNamed hSame) (hOther id hIn)
  · exact hGrowing

namespace Catalog

/-
  If a built-in rule fires on a text, it fires on every text
  that holds this one, and counts no less there. That goes
  for all rules but four. Two of these are about the name of
  the table. The other two are about keys: if they find one
  in a text, they find one in every text that holds this one.
-/
theorem gluing_hides_nothing :
    (∀ rule ∈ Registry.standard.rules,
      (∀ id ∈ keyRules ++ nameRules, rule.id ≠ .text id) →
      ∀ before text after m,
        rule.evaluate (.ofText text) = .ok m →
        m.fired = true →
        ∃ more,
          rule.evaluate (.ofText (before ++ text ++ after)) =
              .ok more ∧
            more.fired = true ∧ m.count ≤ more.count) ∧
    ∀ id ∈ keyRules, ∃ rule,
      Registry.standard.get (.text id) = .ok rule ∧
      ∀ before text after m,
        rule.outcome (.ofText text) = .ok m →
        m.fired = false →
        ∃ more,
          rule.outcome (.ofText (before ++ text ++ after)) =
              .ok more ∧
            more.fired = false := by
  have hPiece (before text after : List Char) :
      Text.PieceOf (Statement.ofText text).text
        (Statement.ofText (before ++ text ++ after)).text :=
    Text.pieceOf_lower_append before text after
  constructor
  · intro rule hMem hOther before text after m hEvaluate hFired
    exact Rule.evaluate_of_pieceOf (hPiece before text after)
      (Registry.standard_isGrowing hMem hOther) hEvaluate
      hFired
  · intro id hId
    rcases exists_worded_of_mem_keyRules hId with
      ⟨d, wording, hWorded, hBlind⟩
    rcases hWorded.exists_absent with
      ⟨rule, p, hGet, hTest, hRegex⟩
    refine ⟨rule, hGet, ?_⟩
    intro before text after m hOutcome hQuiet
    unfold Rule.outcome at hOutcome ⊢
    rw [hTest] at hOutcome ⊢
    exact Test.outcome_absent_of_pieceOf
      (hPiece before text after) (hRegex ▸ wording.isRegular)
      (hRegex ▸ hBlind) hOutcome hQuiet

/-
  The sigma that ends the text becomes an ordinary one when a
  letter follows, so that the text in small letters is not a
  piece of the whole in small letters.
-/
theorem gluing_hides_nothing_of_sigma :
    let text := "SELECT DISTINCT a, DISTINCT AΣ".toList
    let whole := "(".toList ++ text ++ "B)".toList
    let column := "Σ PRIMARY KEY".toList
    let table :=
      "CREATE TABLE t (".toList ++ column ++ ")".toList
    ¬Text.lower text <:+: Text.lower whole ∧
      (∃ rule ∈ Registry.standard.rules,
        rule.id = .text "query.distinct_count" ∧
          rule.evaluate (.ofText text) = .ok ⟨true, 2⟩ ∧
          ∃ more,
            rule.evaluate (.ofText whole) = .ok more ∧
              more.fired = true ∧ 2 ≤ more.count) ∧
      ∃ rule,
        Registry.standard.get
            (.text "logical_design.primary_key_exists") =
          .ok rule ∧
          rule.outcome (.ofText column) = .ok ⟨false, 0⟩ ∧
          ∃ more,
            rule.outcome (.ofText table) = .ok more ∧
              more.fired = false := by
  intro text whole column table
  rcases gluing_hides_nothing with ⟨hGrows, hQuiet⟩
  refine ⟨by decide +kernel, ?_, ?_⟩
  · have hTallied :
        Tallied Query.distinctCount "query.distinct_count"
          "distinct" 2 := {}
    rcases exists_rule_of_draft hTallied.mem hTallied.id_eq with
      ⟨rule, hGet, hId, hGuard, hTest⟩
    have hMem := Registry.mem_of_get hGet
    have hOther :
        ∀ id ∈ keyRules ++ nameRules, rule.id ≠ .text id := by
      simp [hId, keyRules, nameRules]
    have hTwice :
        (Text.positions "distinct".toList
          (Text.lower text)).length = 2 := by
      decide +kernel
    have hEvaluate :
        rule.evaluate (.ofText text) = .ok ⟨true, 2⟩ := by
      have hOutcome :=
        hTallied.outcome_of_test hTest (.ofText text)
      rw [Statement.ofText, hTwice] at hOutcome
      rw [Rule.evaluate, Rule.applies, hGuard]
      exact hOutcome
    exact ⟨rule, hMem, hId, hEvaluate,
      hGrows rule hMem hOther "(".toList text "B)".toList _
        hEvaluate rfl⟩
  · rcases hQuiet "logical_design.primary_key_exists"
      (by decide) with ⟨rule, hGet, hKeeps⟩
    rcases worded_primaryKeyExists.exists_absent with
      ⟨other, p, hOther, hTest, hRegex⟩
    have hSame : rule = other :=
      Except.ok.inj (hGet.symm.trans hOther)
    have hFound : p.regex.count (Text.lower column) ≠ 0 := by
      rw [hRegex]
      decide +kernel
    have hOutcome :
        rule.outcome (.ofText column) = .ok ⟨false, 0⟩ := by
      rw [hSame, Rule.outcome, hTest, Test.outcome_absent]
      rw [Statement.ofText, decide_eq_false hFound]
    exact ⟨rule, hGet, hOutcome,
      hKeeps "CREATE TABLE t (".toList column ")".toList _
        hOutcome rfl⟩

end Catalog

end SqlAudit
