import SqlAudit.Category
import SqlAudit.Regex.Literal
import SqlAudit.Regex.Match
import SqlAudit.Regex.Parser
import SqlAudit.Risk
import SqlAudit.Statement
import SqlAudit.Template.Fill

/-
  Rules that recognise an anti-pattern in a statement.

  A rule has a guard, which says whether it has anything to
  say about a statement, and a test. There are four tests: a
  pattern occurs often enough, a pattern does not occur, the
  statement is long enough, or a pattern about the table that
  the statement creates occurs.

  Key definitions include:
    * `SqlAudit.Guard`
    * `SqlAudit.Test`
    * `SqlAudit.Rule`
    * `SqlAudit.Rule.outcome`
    * `SqlAudit.Rule.evaluate`
-/

------------------------------------------------------------
-- Guards
------------------------------------------------------------

namespace SqlAudit

/-
  Which statements a rule looks at: all of them, those that
  create or alter a table, those that create one, those that
  name the table they create, and those that name it with
  the given text in it.
-/
inductive Guard where
| always
| ddl
| create
| table
| tableHolding (part : List Char)
  deriving Repr, DecidableEq

/- The guard lets the statement through. -/
def Guard.admits : Guard → Statement → Bool
| .always, _ => true
| .ddl, s => s.isDdl
| .create, s => s.isCreate
| .table, s => s.tableName.isSome
| .tableHolding part, s => s.tableName.any (Text.occurs part)

end SqlAudit

------------------------------------------------------------
-- Tests And Rules
------------------------------------------------------------

namespace SqlAudit

/- A regular expression together with its text. -/
structure Pattern where
  source : List Char
  regex : Regex
  deriving Repr, DecidableEq

/- The four ways to test a statement. -/
inductive Test where
| occurs (pattern : Pattern) (least : Nat)
| absent (pattern : Pattern)
| long (least : Nat)
| aboutTable (template : List Char)
  deriving Repr, DecidableEq

/-
  A rule. Its identifier, title and message are data that it
  hands on; `className` is what the definition is called.
-/
structure Rule where
  className : String
  id : Value
  title : Value
  category : Category
  risk : Risk
  message : Value
  guard : Guard
  test : Test
  deriving Repr

/- Whether a test fired, and how many matches it counted. -/
structure Match where
  fired : Bool
  count : Nat
  deriving Repr, DecidableEq

/- The test did not fire. -/
def Match.none : Match where
  fired := false
  count := 0

end SqlAudit

------------------------------------------------------------
-- Evaluation
------------------------------------------------------------

namespace SqlAudit

/- Why a pattern about a table could not be formed. -/
inductive Fault where
| template (e : Template.Error)
| pattern (source : List Char) (e : Regex.Error)
  deriving Repr, DecidableEq

/- The wording of a fault. -/
def Fault.message : Fault → List Char
| .template e => e.message
| .pattern source e => e.message source

/-
  How often a pattern occurs, as far as the threshold asks:
  for a threshold of one, presence is all that counts.
-/
def Pattern.tally
    (p : Pattern)
    (least : Nat)
    (text : List Char) : Nat :=
  if least == 1 then
    if p.regex.occursIn text then 1 else 0
  else
    p.regex.count text

/- The expression of a template about the given table. -/
def tablePattern
    (template table : List Char) : Except Fault Regex :=
  match Template.fill template (Regex.escape table) with
  | .error e => .error (.template e)
  | .ok source =>
      match Regex.parse source with
      | .error e => .error (.pattern source e)
      | .ok r => .ok r

/- The outcome of a test on a statement. -/
def Test.outcome : Test → Statement → Except Fault Match
| .occurs p least, s =>
    let count := p.tally least s.text
    .ok ⟨decide (least ≤ count), count⟩
| .absent p, s =>
    .ok (if p.regex.occursIn s.text then .none
      else ⟨true, 0⟩)
| .long least, s =>
    .ok (if least ≤ s.text.length then ⟨true, 1⟩
      else .none)
| .aboutTable template, s =>
    match s.tableName with
    | none => .ok .none
    | some table => do
        let r ← tablePattern template table
        return if r.occursIn s.text then ⟨true, 1⟩
          else .none

namespace Rule

/- The rule has something to say about the statement. -/
def applies
    (rule : Rule)
    (s : Statement) : Bool :=
  rule.guard.admits s

/- The outcome of the rule's test, guard or no guard. -/
def outcome
    (rule : Rule)
    (s : Statement) : Except Fault Match :=
  rule.test.outcome s

/- The outcome of the rule's test behind its guard. -/
def evaluate
    (rule : Rule)
    (s : Statement) : Except Fault Match :=
  if rule.applies s then rule.outcome s else .ok .none

/- The rule as a listing shows it. -/
def render (rule : Rule) : List Char :=
  '<' :: rule.className.toList ++ ' ' :: rule.id.display ++
    ['>']

end Rule

end SqlAudit
