import SqlAudit.Proofs.Pieces
import SqlAudit.Proofs.Text.Occurrence
import SqlAudit.Statement

/-
  The name of the table that a text creates.

  A text with such a name has the clause in it, and the name
  is the first word after the first clause. The text can be
  divided around the clause and the name in one way only.

  Key definitions include:
    * `SqlAudit.TableClause`
    * `SqlAudit.TableClause.StandsIn`

  Key theorems include:
    * `SqlAudit.TableClause.StandsIn.unique`
    * `SqlAudit.tableName_eq_some_iff`
    * `SqlAudit.tableName_eq_none_iff`
    * `SqlAudit.table_is_named_after_first_clause`
-/

------------------------------------------------------------
-- Clauses That Create A Table
------------------------------------------------------------

namespace SqlAudit

/-
  A clause with the name of its table: what stands before it,
  the gap behind the clause, the name, and the rest.
-/
@[ext] structure TableClause where
  before : List Char
  gap : List Char
  name : List Char
  rest : List Char
  deriving Repr, DecidableEq

namespace TableClause

/-
  The clause is the first one of the text. Its name is not
  empty, holds no blank, and goes on up to a blank or to the
  end; the gap holds nothing but blanks and may be empty.
-/
structure StandsIn
    (clause : TableClause)
    (text : List Char) : Prop where
  split :
    text = clause.before ++ createTable ++ clause.gap ++
      clause.name ++ clause.rest
  first :
    ∀ i < clause.before.length,
      ¬ createTable <+: text.drop i
  gap : ∀ c ∈ clause.gap, Text.isBlank c = true
  ne_nil : clause.name ≠ []
  visible : ∀ c ∈ clause.name, Text.isBlank c = false
  stop :
    ∀ c, clause.rest.head? = some c → Text.isBlank c = true

/- The clause comes first, and the name after it does. -/
theorem standsIn_iff
    {clause : TableClause}
    {text : List Char} :
    clause.StandsIn text ↔
      ∃ tail,
        Text.FirstAt createTable text clause.before tail ∧
          FirstRun Text.isBlank tail clause.gap clause.name
            clause.rest := by
  constructor
  · intro hClause
    refine ⟨_, ⟨?_, hClause.first⟩, ⟨rfl, hClause.gap,
      hClause.ne_nil, hClause.visible, hClause.stop⟩⟩
    simpa only [List.append_assoc] using hClause.split
  · rintro ⟨tail, hFirst, hName⟩
    refine ⟨?_, hFirst.first, hName.cuts, hName.ne_nil,
      hName.free, hName.stop⟩
    rw [hFirst.split, hName.split]
    simp only [List.append_assoc]

/- A text has one such clause at most. -/
theorem StandsIn.unique
    {a b : TableClause}
    {text : List Char}
    (hA : a.StandsIn text)
    (hB : b.StandsIn text) :
    a = b := by
  rcases standsIn_iff.mp hA with ⟨tail, hFirst, hName⟩
  rcases standsIn_iff.mp hB with ⟨tail', hFirst', hName'⟩
  rcases hFirst.unique hFirst' with ⟨hBefore, rfl⟩
  rcases hName.unique hName' with ⟨hGap, hSame, hRest⟩
  exact TableClause.ext hBefore hGap hSame hRest

end TableClause

end SqlAudit

------------------------------------------------------------
-- Names Of Tables
------------------------------------------------------------

namespace SqlAudit

theorem tableName_eq_some_iff
    {text name : List Char} :
    tableName text = some name ↔
      ∃ clause : TableClause,
        clause.StandsIn text ∧ clause.name = name := by
  constructor
  · intro hTable
    unfold tableName at hTable
    cases hAfter : Text.after? createTable text with
    | none => simp [hAfter] at hTable
    | some tail =>
        simp only [hAfter] at hTable
        rcases Text.after?_eq_some_iff.mp hAfter with
          ⟨before, hFirst⟩
        rcases head?_pieces_eq_some_iff.mp hTable with
          ⟨gap, rest, hName⟩
        exact ⟨⟨before, gap, name, rest⟩,
          TableClause.standsIn_iff.mpr ⟨tail, hFirst, hName⟩,
          rfl⟩
  · rintro ⟨clause, hClause, rfl⟩
    rcases TableClause.standsIn_iff.mp hClause with
      ⟨tail, hFirst, hName⟩
    have hAfter :=
      Text.after?_eq_some_iff.mpr ⟨_, hFirst⟩
    have hHead := head?_pieces_eq_some_iff.mpr ⟨_, _, hName⟩
    simp only [tableName, hAfter]
    exact hHead

/- No name: no clause, or nothing to read behind it. -/
theorem tableName_eq_none_iff
    {text : List Char} :
    tableName text = none ↔
      ¬ createTable <:+: text ∨
        ∃ before tail,
          Text.FirstAt createTable text before tail ∧
            ∀ c ∈ tail, Text.isBlank c = true := by
  unfold tableName
  cases hAfter : Text.after? createTable text with
  | none =>
      have hNot := Text.after?_eq_none_iff.mp hAfter
      simp [hNot]
  | some tail =>
      rcases Text.after?_eq_some_iff.mp hAfter with
        ⟨before, hFirst⟩
      have hOccurs : createTable <:+: text :=
        ⟨before, tail, hFirst.split.symm⟩
      simp only [hOccurs, not_true_eq_false, false_or,
        List.head?_eq_none_iff]
      rw [Text.words, pieces_eq_nil_iff]
      constructor
      · intro hBlank
        exact ⟨before, tail, hFirst, hBlank⟩
      · rintro ⟨before', tail', hFirst', hBlank⟩
        rw [(hFirst.unique hFirst').2]
        exact hBlank

/- The name of a table is not empty. -/
theorem Statement.tableName_ne_nil
    {s : Statement}
    {table : List Char}
    (hTable : s.tableName = some table) :
    table ≠ [] := by
  rcases tableName_eq_some_iff.mp hTable with
    ⟨clause, hClause, rfl⟩
  exact hClause.ne_nil

/- The name of a table is a piece of the text. -/
theorem isInfix_of_tableName
    {text table : List Char}
    (hTable : tableName text = some table) :
    table <:+: text := by
  rcases tableName_eq_some_iff.mp hTable with
    ⟨clause, hClause, rfl⟩
  exact ⟨_, clause.rest, hClause.split.symm⟩

/- A text that names a table has the clause in it. -/
theorem isCreate_of_tableName
    {text table : List Char}
    (hTable : tableName text = some table) :
    isCreate text = true := by
  rcases tableName_eq_some_iff.mp hTable with
    ⟨clause, hClause, _⟩
  apply Text.occurs_iff_isInfix.mpr
  refine ⟨clause.before,
    clause.gap ++ clause.name ++ clause.rest, ?_⟩
  rw [hClause.split]
  simp only [List.append_assoc]

/-
  The name of a table is what stands between the first clause
  with the blanks behind it and the next blank, and there is
  one way to find it. There is no name exactly if there is no
  clause, or if nothing but blanks follows the first one. A
  statement with a name creates a table, and one that creates
  a table is a definition.
-/
theorem table_is_named_after_first_clause :
    (∀ text name : List Char,
      tableName text = some name ↔
        ∃ clause : TableClause,
          clause.StandsIn text ∧ clause.name = name) ∧
    (∀ (text : List Char) (a b : TableClause),
      a.StandsIn text → b.StandsIn text → a = b) ∧
    (∀ text : List Char,
      tableName text = none ↔
        ¬ createTable <:+: text ∨
          ∃ before tail,
            text = before ++ createTable ++ tail ∧
              (∀ i < before.length,
                ¬ createTable <+: text.drop i) ∧
              ∀ c ∈ tail, Text.isBlank c = true) ∧
    ∀ s : Statement,
      (s.tableName.isSome = true → s.isCreate = true) ∧
        (s.isCreate = true → s.isDdl = true) := by
  refine ⟨fun _ _ => tableName_eq_some_iff,
    fun _ _ _ => TableClause.StandsIn.unique, ?_, ?_⟩
  · intro text
    rw [tableName_eq_none_iff]
    refine or_congr_right (exists₂_congr fun before tail => ?_)
    constructor
    · rintro ⟨hFirst, hBlank⟩
      exact ⟨hFirst.split, hFirst.first, hBlank⟩
    · rintro ⟨hSplit, hFirst, hBlank⟩
      exact ⟨⟨hSplit, hFirst⟩, hBlank⟩
  · intro s
    constructor
    · intro hSome
      rcases Option.isSome_iff_exists.mp hSome with
        ⟨table, hTable⟩
      exact isCreate_of_tableName hTable
    · intro hCreate
      exact Bool.or_eq_true_iff.mpr (.inl hCreate)

/-
  The first name is glued to its clause and ends at a wide
  blank; a second clause follows.
-/
theorem table_is_named_after_first_clause_glued :
    let text :=
      "x; create tablefoo(id\u3000int) create table b".toList
    tableName text = some "foo(id".toList ∧
      (Statement.mk text).isDdl = true := by
  intro text
  have hNamed := table_is_named_after_first_clause
  have hVisible :
      "foo(id".toList.all (fun c => !Text.isBlank c) =
        true := by
    decide
  have hTable : tableName text = some "foo(id".toList := by
    apply (hNamed.1 text _).mpr
    refine ⟨⟨"x; ".toList, [], "foo(id".toList,
      "\u3000int) create table b".toList⟩, ?_, rfl⟩
    refine ⟨by decide, by decide, by simp, by decide, ?_, ?_⟩
    · intro c hMem
      simpa using List.all_eq_true.mp hVisible c hMem
    · rintro c ⟨⟩
      decide
  have hFacts := hNamed.2.2.2 ⟨text⟩
  refine ⟨hTable, hFacts.2 (hFacts.1 ?_)⟩
  exact Option.isSome_iff_exists.mpr ⟨_, hTable⟩

end SqlAudit
