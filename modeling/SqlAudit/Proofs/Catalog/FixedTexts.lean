import SqlAudit.Proofs.Catalog.Recognition
import SqlAudit.Proofs.Rule.AboutTable
import SqlAudit.Proofs.Text.Occurrence

/-
  The built-in rules that look for fixed texts.

  The pattern of such a rule is a choice between words. Its
  rule fires on a text exactly if the guard admits the text
  and one of the words is a piece of it, or none of them if
  the rule is about their absence.

  Key definitions include:
    * `SqlAudit.Catalog.HoldsAny`

  Key theorems include:
    * `SqlAudit.Catalog.recognises_words`
    * `SqlAudit.Catalog.fixed_texts_recognised`
-/

------------------------------------------------------------
-- Choices Between Words
------------------------------------------------------------

namespace SqlAudit

namespace Catalog

/- One of the words is a piece of the text. -/
def HoldsAny
    (words : List String)
    (text : List Char) : Prop :=
  ∃ w ∈ words, w.toList <:+: text

/- The choice between words, of which there is one. -/
def choiceOf
    (first : String)
    (others : List String) : Regex.Wording :=
  .choice (.ofString first) (others.map .ofString)

theorem exists_occurs_choiceOf_iff
    {first : String}
    {others : List String}
    {text : List Char} :
    (∃ motif ∈ (choiceOf first others).motifs,
        motif.Occurs text) ↔
      HoldsAny (first :: others) text := by
  have hMotifs :
      (choiceOf first others).motifs =
        (first :: others).map .ofString := rfl
  rw [hMotifs, HoldsAny]
  simp only [List.mem_map, exists_exists_and_eq_and,
    Regex.Motif.occurs_ofString_iff]

section

variable (d : Draft)
variable {id first : String}
variable {others : List String}

/- The guard admits the text, which holds a word. -/
theorem recognises_words
    (hWorded : Worded d .text id (choiceOf first others)) :
    Recognises id fun t =>
      d.guardOrDefault.admits ⟨t⟩ = true ∧
        HoldsAny (first :: others) t := by
  apply hWorded.recognises.congr
  intro t
  rw [exists_occurs_choiceOf_iff]

/- The text holds a word, if the rule is about all texts. -/
theorem recognises_words_of_always
    (hWorded : Worded d .text id (choiceOf first others))
    (hGuard : d.guardOrDefault = .always) :
    Recognises id (HoldsAny (first :: others)) := by
  apply (hWorded.recognises_of_always hGuard).congr
  intro t
  exact exists_occurs_choiceOf_iff

/- The guard admits the text, which does not hold the word. -/
theorem recognises_no_word
    (hWorded : Worded d .absent id (choiceOf first [])) :
    Recognises id fun t =>
      d.guardOrDefault.admits ⟨t⟩ = true ∧
        ¬first.toList <:+: t := by
  apply hWorded.recognises_absence.congr
  intro t
  rw [exists_occurs_choiceOf_iff]
  simp [HoldsAny]

end

end Catalog

end SqlAudit

------------------------------------------------------------
-- Rules About Fixed Texts
------------------------------------------------------------

namespace SqlAudit

namespace Catalog

/- The one pattern of words without parentheses. -/
theorem recognises_concatenation :
    Recognises "query.string_concatenation"
      (HoldsAny ["||"]) := by
  have hWorded :
      Worded Query.stringConcatenation .text
        "query.string_concatenation"
        (.motif (.ofString "||")) := {}
  apply (hWorded.recognises_of_always rfl).congr
  intro t
  simp [Regex.Wording.motifs, HoldsAny,
    Regex.Motif.occurs_ofString_iff]

/-
  A table with `attribute` in its name is found. The pattern
  asks for no more than the guard, since the name of the
  table is a piece of the text.
-/
theorem recognises_attribute_table :
    Recognises "logical_design.entity_attribute_value" fun t =>
      ∃ table, tableName t = some table ∧
        "attribute".toList <:+: table := by
  have hWorded :
      Worded LogicalDesign.entityAttributeValue .text
        "logical_design.entity_attribute_value"
        (choiceOf "attribute" []) := {}
  apply (recognises_words _ hWorded).congr
  intro t
  change
    (tableName t).any (Text.occurs "attribute".toList) =
      true ∧ HoldsAny ["attribute"] t ↔ _
  simp only [Option.any_eq_true, Text.occurs_iff_isInfix]
  constructor
  · rintro ⟨hTable, _⟩
    exact hTable
  · rintro ⟨table, hTable, hPart⟩
    refine ⟨⟨table, hTable, hPart⟩, "attribute", by simp, ?_⟩
    exact hPart.trans (isInfix_of_tableName hTable)

/-
  What the rules about fixed texts fire on: the texts that
  their guard admits and that hold one of some words. The
  two rules about keys fire on a created table without the
  words. The rule about attributes fires on a created table
  with the word in its name, whatever else the text holds.
-/
theorem fixed_texts_recognised :
    Recognises "physical_design.values_in_definition"
      (fun t => isDdl t = true ∧
        HoldsAny ["enum", "in ("] t) ∧
    Recognises "physical_design.index_attribute_order"
      (HoldsAny ["create index"]) ∧
    Recognises "query.null_usage" (HoldsAny ["null"]) ∧
    Recognises "query.not_null_usage"
      (fun t => isCreate t = true ∧
        HoldsAny ["not null"] t) ∧
    Recognises "query.string_concatenation"
      (HoldsAny ["||"]) ∧
    Recognises "query.group_by_usage"
      (HoldsAny ["group by"]) ∧
    Recognises "query.order_by_rand"
      (HoldsAny ["order by rand("]) ∧
    Recognises "query.having_usage" (HoldsAny ["having"]) ∧
    Recognises "query.or_usage" (HoldsAny [" or "]) ∧
    Recognises "query.union_usage" (HoldsAny [" union "]) ∧
    Recognises "application.readable_passwords"
      (HoldsAny ["password varchar", "password text",
        "password =", "pwd varchar", "pwd text", "pwd ="]) ∧
    Recognises "logical_design.primary_key_exists"
      (fun t => isCreate t = true ∧
        ¬"primary key".toList <:+: t) ∧
    Recognises "logical_design.foreign_key_exists"
      (fun t => isCreate t = true ∧
        ¬"foreign key".toList <:+: t) ∧
    Recognises "logical_design.entity_attribute_value"
      (fun t => ∃ table, tableName t = some table ∧
        "attribute".toList <:+: table) := by
  refine ⟨?_, ?_, ?_, ?_, recognises_concatenation, ?_, ?_,
    ?_, ?_, ?_, ?_, ?_, ?_, recognises_attribute_table⟩
  · exact recognises_words PhysicalDesign.valuesInDefinition {}
  · exact recognises_words_of_always
      PhysicalDesign.indexAttributeOrder {} rfl
  · exact recognises_words_of_always Query.nullUsage {} rfl
  · exact recognises_words Query.notNullUsage {}
  · exact recognises_words_of_always Query.groupByUsage {} rfl
  · exact recognises_words_of_always Query.orderByRand {} rfl
  · exact recognises_words_of_always Query.havingUsage {} rfl
  · exact recognises_words_of_always Query.orUsage {} rfl
  · exact recognises_words_of_always Query.unionUsage {} rfl
  · exact recognises_words_of_always
      Application.readablePasswords {} rfl
  · exact recognises_no_word LogicalDesign.primaryKeyExists {}
  · exact recognises_no_word LogicalDesign.foreignKeyExists {}

end Catalog

end SqlAudit
