import SqlAudit.Rule.Draft

/-
  The ordered collection of registered rules, and how the
  rules of a run are chosen from it.

  The order of registration is also the order in which rules
  are run. No two rules have the same key.

  Key definitions include:
    * `SqlAudit.Registry`
    * `SqlAudit.Registry.register`
    * `SqlAudit.Registry.get`
    * `SqlAudit.Registry.select`
-/

------------------------------------------------------------
-- Registries
------------------------------------------------------------

namespace SqlAudit

/- The registered rules, in order. -/
structure Registry where
  rules : List Rule
  deriving Repr

namespace Registry

/- No rules. -/
def empty : Registry where
  rules := []

/- The identifiers of the rules, in order. -/
def ids (registry : Registry) : List Value :=
  registry.rules.map Rule.id

/- The rule with the given key. -/
def find?
    (registry : Registry)
    (key : Key) : Option Rule :=
  registry.rules.find? fun rule => rule.id.key? == some key

end Registry

end SqlAudit

------------------------------------------------------------
-- Registration
------------------------------------------------------------

namespace SqlAudit

namespace Registry

/- The key of an identifier that no rule has yet. -/
def freshKey
    (registry : Registry)
    (id : Value) : Except Draft.Error Key :=
  match id.key? with
  | none => .error (.idNotAKey id)
  | some key =>
      if (registry.find? key).isSome then
        .error (.duplicate id)
      else
        .ok key

/-
  Make the rule that a draft describes and put it last. The
  identifier is looked at before the rest of the draft.
-/
def register
    (registry : Registry)
    (d : Draft) : Except Draft.Error Registry := do
  let id ← Draft.present d.id (.noIdToRegister d.className)
  let _ ← registry.freshKey id
  let rule ← d.build
  return ⟨registry.rules ++ [rule]⟩

/- Put a rule last that has already been made. -/
def insert
    (registry : Registry)
    (rule : Rule) : Except Draft.Error Registry := do
  let _ ← registry.freshKey rule.id
  return ⟨registry.rules ++ [rule]⟩

/- The registry of the given drafts. -/
def ofDrafts
    (drafts : List Draft) : Except Draft.Error Registry :=
  drafts.foldlM register empty

end Registry

end SqlAudit

------------------------------------------------------------
-- Selection
------------------------------------------------------------

namespace SqlAudit

/- Why a rule or a category cannot be selected. -/
inductive Selection.Error where
| unknownRule (id : Value) (available : List Value)
| notAKey (id : Value)
| unknownCategory (category : Value)
  deriving Repr

/- The wording of an error. -/
def Selection.Error.message : Selection.Error → List Char
| .unknownRule id available =>
    Text.quoted <|
      "Rule '".toList ++ id.display ++
        "' not found. Available: ".toList ++
        (Value.list available).literal
| .notAKey id => Draft.Error.notAKey id
| .unknownCategory category =>
    category.literal ++ " is not a valid Category".toList

namespace Registry

/- The rule with the given identifier. -/
def get
    (registry : Registry)
    (id : Value) : Except Selection.Error Rule :=
  match id.key? with
  | none => .error (.notAKey id)
  | some key =>
      match registry.find? key with
      | some rule => .ok rule
      | none => .error (.unknownRule id registry.ids)

/- The category that a value names. -/
def category
    (v : Value) : Except Selection.Error Category :=
  match Category.ofValue? v with
  | some c => .ok c
  | none => .error (.unknownCategory v)

/- The rules of one category, in order. -/
def byCategory
    (registry : Registry)
    (v : Value) : Except Selection.Error (List Rule) := do
  let wanted ← category v
  return registry.rules.filter fun rule =>
    rule.category == wanted

/-
  The rules of a run, in order: those with the given
  identifiers, or if there are none those of the given
  categories, or if there are none of these either, all.
-/
def select
    (registry : Registry)
    (ids categories : List Value) :
    Except Selection.Error (List Rule) := do
  if !ids.isEmpty then
    let wanted ← ids.mapM registry.get
    let keys := wanted.map fun rule => rule.id.key?
    return registry.rules.filter fun rule =>
      keys.contains rule.id.key?
  else if !categories.isEmpty then
    let wanted ← categories.mapM category
    return registry.rules.filter fun rule =>
      wanted.contains rule.category
  else
    return registry.rules

end Registry

end SqlAudit
