import SqlAudit.Proofs.Catalog.FixedTexts
import SqlAudit.Proofs.Regex.Counting
import SqlAudit.Proofs.Text.Lowercase

/-
  The built-in rules that count the occurrences of a word.

  None of their words has a border, so that a scan misses no
  occurrence. A rule fires if there are as many as it asks
  for, and on texts with a space in between, the occurrences
  in both of them are counted.

  Key definitions include:
    * `SqlAudit.Catalog.CountsWord`
    * `SqlAudit.Catalog.Tallied`

  Key theorems include:
    * `SqlAudit.Catalog.exists_rule_of_draft`
    * `SqlAudit.Catalog.Tallied.countsWord`
    * `SqlAudit.Catalog.occurrences_are_counted`
-/

------------------------------------------------------------
-- Rules That Count
------------------------------------------------------------

namespace SqlAudit

namespace Catalog

/- The rule of a built-in draft goes by the draft's id. -/
theorem exists_rule_of_draft
    {d : Draft}
    {id : String}
    (hMem : d ∈ Catalog.drafts)
    (hId : d.id = some (.text id)) :
    ∃ rule,
      Registry.standard.get (.text id) = .ok rule ∧
        rule.id = .text id ∧
        rule.guard = d.guardOrDefault ∧
        d.test rule.id = .ok rule.test := by
  rcases exists_rule_of_mem hMem with ⟨rule, hBuild, hGet⟩
  rcases Draft.build_eq_ok hBuild with
    ⟨_, hRuleId, _, _, _, _, _, _, _, hGuard, hTest⟩
  have hSame : rule.id = .text id :=
    Option.some.inj (hRuleId.symm.trans hId)
  exact ⟨rule, hSame ▸ hGet, hSame, hGuard, hTest⟩

/-
  The built-in rule with an identifier counts the positions
  at which a word starts in a text in small letters, and its
  test fires if there are as many as the threshold. The guard
  decides whether the test is made at all. What is counted in
  two texts is counted in both together, if a space keeps
  them apart.
-/
def CountsWord
    (id word : String)
    (least : Nat)
    (guard : Guard) : Prop :=
  ∃ rule,
    Registry.standard.get (.text id) = .ok rule ∧
      (∀ text,
        rule.outcome (.ofText text) =
          .ok
            { fired := decide (least ≤
                (Text.positions word.toList
                  (Text.lower text)).length)
              count :=
                (Text.positions word.toList
                  (Text.lower text)).length }) ∧
      (∀ text,
        rule.evaluate (.ofText text) =
          if guard.admits (.ofText text) then
            rule.outcome (.ofText text)
          else
            .ok .none) ∧
      ∀ a b, ∃ m n both,
        rule.outcome (.ofText a) = .ok m ∧
          rule.outcome (.ofText b) = .ok n ∧
          rule.outcome (.ofText (a ++ ' ' :: b)) = .ok both ∧
          both.count = m.count + n.count

/-
  A built-in draft with an identifier, with a word for its
  pattern and with a threshold of two or more.
-/
structure Tallied
    (d : Draft)
    (id word : String)
    (least : Nat) : Prop where
  mem : d ∈ Catalog.drafts := by
    simp [Catalog.drafts, LogicalDesign.drafts,
      PhysicalDesign.drafts, Query.drafts, Application.drafts]
  kind_eq : d.kind = .text := by rfl
  id_eq : d.id = some (.text id) := by rfl
  pattern_eq :
    d.pattern =
      some (.text (String.ofList (choiceOf word []).text)) := by
        rfl
  leastOccurrences_eq :
    d.leastOccurrences = some (.integer least) := by rfl
  several : 2 ≤ least := by decide
  unbordered : Text.isUnbordered word.toList = true := by decide
  apart : ' ' ∉ word.toList := by decide
  ne_nil : word.toList ≠ [] := by decide

theorem denotes_choiceOf
    (word : String) :
    (choiceOf word []).regex.Denotes word.toList where
  isRegular := (choiceOf word []).isRegular
  mem_language_iff := by
    intro v
    rw [Regex.Wording.mem_language_iff]
    simp [choiceOf, Regex.Wording.motifs,
      Regex.Motif.mem_language_ofString_iff]

namespace Tallied

variable {d : Draft}
variable {id word : String}
variable {least : Nat}

/- The test of such a draft counts the word. -/
theorem outcome_of_test
    (hTallied : Tallied d id word least)
    {ruleId : Value}
    {test : Test}
    (hTest : d.test ruleId = .ok test)
    (s : Statement) :
    test.outcome s =
      .ok
        { fired := decide (least ≤
            (Text.positions word.toList s.text).length)
          count :=
            (Text.positions word.toList s.text).length } := by
  unfold Draft.test at hTest
  simp only [hTallied.kind_eq, hTallied.leastOccurrences_eq,
    Option.getD_some] at hTest
  rcases ok_of_bind_eq_ok hTest with ⟨n, hLeast, hTest⟩
  rcases ok_of_bind_eq_ok hTest with ⟨p, hCompile, hTest⟩
  have hSeveral := hTallied.several
  have hPositive : (1 : Int) ≤ least := by omega
  have hSame : least = n := by
    simpa [Draft.positive, Value.toInt?, hPositive] using hLeast
  subst hSame
  cases hTest
  rw [hTallied.pattern_eq] at hCompile
  have hParse := Draft.compile_text_eq_ok hCompile
  rw [String.toList_ofList, Regex.Wording.parse_text] at hParse
  have hDenotes : p.regex.Denotes word.toList :=
    Except.ok.inj hParse ▸ denotes_choiceOf word
  have hCount :=
    hDenotes.count_eq hTallied.ne_nil hTallied.unbordered
      s.text
  rw [Test.outcome_occurs, if_neg (by omega), hCount]

/- The rule of such a draft counts the word. -/
theorem countsWord
    (hTallied : Tallied d id word least) :
    CountsWord id word least d.guardOrDefault := by
  rcases exists_rule_of_draft hTallied.mem hTallied.id_eq with
    ⟨rule, hGet, _, hGuard, hTest⟩
  have hOutcome (text : List Char) :=
    hTallied.outcome_of_test hTest (.ofText text)
  refine ⟨rule, hGet, hOutcome, ?_, ?_⟩
  · intro text
    rw [Rule.evaluate, Rule.applies, hGuard]
  · intro a b
    refine ⟨_, _, _, hOutcome a, hOutcome b, hOutcome _, ?_⟩
    have hApart :=
      Text.lower_append_blank (b := ' ') (by decide) a b
    have hSum :=
      Text.length_positions_append_cons hTallied.ne_nil
        hTallied.apart (Text.lower a) (Text.lower b)
    rw [← hApart] at hSum
    exact hSum

end Tallied

/-
  The four rules that count a word miss no occurrence of it.
  One of them is about statements that create a table.
-/
theorem occurrences_are_counted :
    CountsWord "query.join_count" "join" 5 .always ∧
      CountsWord "query.distinct_count" "distinct" 2
        .always ∧
      CountsWord "query.nested_subquery" "select" 2 .always ∧
      CountsWord "physical_design.index_count" "index" 3
        .create := by
  have hJoin :
      Tallied Query.joinCount "query.join_count" "join" 5 := {}
  have hDistinct :
      Tallied Query.distinctCount "query.distinct_count"
        "distinct" 2 := {}
  have hSelect :
      Tallied Query.nestedSubquery "query.nested_subquery"
        "select" 2 := {}
  have hIndex :
      Tallied PhysicalDesign.indexCount
        "physical_design.index_count" "index" 3 := {}
  exact ⟨hJoin.countsWord, hDistinct.countsWord,
    hSelect.countsWord, hIndex.countsWord⟩

end Catalog

end SqlAudit
