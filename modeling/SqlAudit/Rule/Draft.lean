import SqlAudit.Rule.Basic

/-
  Drafts of rules, and how a rule is made from one.

  A draft gives any values for the settings of a rule, or
  leaves them out. Making the rule checks the settings in a
  fixed order, and the first one that is wrong is reported.

  Key definitions include:
    * `SqlAudit.Draft`
    * `SqlAudit.Draft.Error`
    * `SqlAudit.Draft.Error.message`
    * `SqlAudit.Draft.build`
-/

------------------------------------------------------------
-- Drafts
------------------------------------------------------------

namespace SqlAudit

/-
  Which test a draft describes. A bare draft describes none,
  so no rule can be made from it.
-/
inductive Draft.Kind where
| bare
| text
| absent
| length
| template
  deriving Repr, DecidableEq

/-
  A rule that has not been checked yet. A draft without a
  guard takes the one that goes with its kind.
-/
structure Draft where
  className : String
  kind : Draft.Kind
  guard : Option Guard := none
  id : Option Value := none
  title : Option Value := none
  category : Option Value := none
  risk : Option Value := none
  message : Option Value := none
  pattern : Option Value := none
  leastOccurrences : Option Value := none
  leastLength : Option Value := none
  template : Option Value := none
  deriving Repr

end SqlAudit

------------------------------------------------------------
-- Errors
------------------------------------------------------------

namespace SqlAudit

/- Why no rule can be made or registered from a draft. -/
inductive Draft.Error where
| bare (className : String)
| noId (className : String)
| noIdToRegister (className : String)
| idNotAKey (id : Value)
| duplicate (id : Value)
| noTitle (id : Value)
| noCategory (id : Value)
| noRisk (id : Value)
| noMessage (id : Value)
| badOccurrences (id got : Value)
| badLength (id got : Value)
| noPattern (id : Value)
| patternNotText
| patternNotAKey (pattern : Value)
| badPattern
    (id : Value)
    (source : List Char)
    (e : Regex.Error)
| wrongPattern (source : List Char) (e : Regex.Error)
| noPlaceholder (id : Value)
| templateNotSearchable (template : Value)
| templateNotText (template : Value)
| badTemplate
    (id : Value)
    (source : List Char)
    (e : Template.Error)
| wrongUse (e : Template.Error)
  deriving Repr

namespace Draft

/- The start of a message about the rule with an id. -/
def Error.about (id : Value) : List Char :=
  "Rule '".toList ++ id.display ++ "' ".toList

/- A message about a value that cannot be a key. -/
def Error.notAKey (v : Value) : List Char :=
  "unhashable type: '".toList ++ v.typeName.toList ++
    ['\x27']

/- The wording of an error. -/
def Error.message : Error → List Char
| .bare className =>
    "Can't instantiate abstract class ".toList ++
      className.toList ++
      " with abstract method match".toList
| .noId className =>
    "Rule class ".toList ++ className.toList ++
      " must define 'rule_id'".toList
| .noIdToRegister className =>
    "Rule class ".toList ++ className.toList ++
      " must define 'rule_id' attribute".toList
| .idNotAKey id => notAKey id
| .duplicate id =>
    about id ++ "is already registered".toList
| .noTitle id => about id ++ "must define 'title'".toList
| .noCategory id =>
    about id ++ "must define a Category".toList
| .noRisk id => about id ++ "must define a Risk".toList
| .noMessage id =>
    about id ++ "must define 'message'".toList
| .badOccurrences id got =>
    about id ++ "needs min_occurrences >= 1, got ".toList ++
      got.literal
| .badLength id got =>
    about id ++ "needs min_length >= 1, got ".toList ++
      got.literal
| .noPattern id =>
    about id ++ "must define a non-empty 'pattern'".toList
| .patternNotText =>
    "first argument must be string or compiled ".toList ++
      "pattern".toList
| .patternNotAKey pattern => notAKey pattern
| .badPattern id source e =>
    about id ++ "has an invalid pattern ".toList ++
      Text.quoted source ++ ':' :: ' ' :: e.message source
| .wrongPattern source e => e.message source
| .noPlaceholder id =>
    about id ++ "template must contain '".toList ++
      Template.placeholder ++ ['\x27']
| .templateNotSearchable template =>
    "argument of type '".toList ++
      template.typeName.toList ++
      "' is not iterable".toList
| .templateNotText template =>
    '\x27' :: template.typeName.toList ++
      "' object has no attribute 'format'".toList
| .badTemplate id source e =>
    about id ++ "has an invalid template ".toList ++
      Text.quoted source ++ ':' :: ' ' :: e.message
| .wrongUse e => e.message

end Draft

end SqlAudit

------------------------------------------------------------
-- Settings
------------------------------------------------------------

namespace SqlAudit

namespace Draft

/- A setting that is given and counts. -/
def present
    (setting : Option Value)
    (e : Error) : Except Error Value :=
  match setting with
  | some v => if v.isTruthy then .ok v else .error e
  | none => .error e

/- A setting that is an integer of one or more. -/
def positive
    (setting : Value)
    (e : Error) : Except Error Nat :=
  match setting.toInt? with
  | some n => if 1 ≤ n then .ok n.toNat else .error e
  | none => .error e

/- The pattern with the given text. -/
def compileText
    (id : Value)
    (source : List Char) : Except Error Pattern :=
  if source.isEmpty then
    .error (.noPattern id)
  else
    match Regex.parse source with
    | .ok r => .ok ⟨source, r⟩
    | .error e =>
        if e.isMalformed then .error (.badPattern id source e)
        else .error (.wrongPattern source e)

/- The pattern that a setting gives. -/
def compile
    (id : Value)
    (setting : Option Value) : Except Error Pattern :=
  let v := setting.getD (.text "")
  if !v.isTruthy then
    .error (.noPattern id)
  else
    match v with
    | .text s => compileText id s.toList
    | v =>
        if v.key?.isSome then .error .patternNotText
        else .error (.patternNotAKey v)

/- The table that a template is tried on. -/
def sampleTable : List Char := ['t']

/-
  A template can be filled in, and gives a pattern, for the
  sample table.
-/
def tryTemplate
    (id : Value)
    (source : List Char) : Except Error Unit := do
  if !Text.occurs Template.placeholder source then
    .error (.noPlaceholder id)
  match Template.fill source sampleTable with
  | .ok sample =>
      let _ ← compileText id sample
      return ()
  | .error e =>
      if e.isMisuse then .error (.wrongUse e)
      else .error (.badTemplate id source e)

/- The value is the text of the placeholder. -/
def isPlaceholder : Value → Bool
| .text s => s.toList == Template.placeholder
| _ => false

/- The template that a setting gives. -/
def checkTemplate
    (id : Value)
    (setting : Option Value) : Except Error (List Char) :=
  match setting.getD (.text "") with
  | .text s => do
      tryTemplate id s.toList
      return s.toList
  | .list items =>
      if items.any isPlaceholder then
        .error (.templateNotText (.list items))
      else
        .error (.noPlaceholder id)
  | .record fields =>
      if fields.any fun f =>
          isPlaceholder (.text f.1) then
        .error (.templateNotText (.record fields))
      else
        .error (.noPlaceholder id)
  | v => .error (.templateNotSearchable v)

end Draft

end SqlAudit

------------------------------------------------------------
-- Making A Rule
------------------------------------------------------------

namespace SqlAudit

namespace Draft

/- The test of a draft, for the rule with the given id. -/
def test
    (d : Draft)
    (id : Value) : Except Error Test :=
  match d.kind with
  | .bare => .error (.bare d.className)
  | .text => do
      let given := d.leastOccurrences.getD (.integer 1)
      let least ← positive given (.badOccurrences id given)
      let pattern ← compile id d.pattern
      return .occurs pattern least
  | .absent => do
      let pattern ← compile id d.pattern
      return .absent pattern
  | .length => do
      let given := d.leastLength.getD .null
      let least ← positive given (.badLength id given)
      return .long least
  | .template => do
      let template ← checkTemplate id d.template
      return .aboutTable template

/- The guard of a draft: its own, or that of its kind. -/
def guardOrDefault (d : Draft) : Guard :=
  match d.guard, d.kind with
  | some g, _ => g
  | none, .template => .table
  | none, _ => .always

/- The rule that a draft describes. -/
def build (d : Draft) : Except Error Rule := do
  if d.kind == .bare then
    .error (.bare d.className)
  let id ← present d.id (.noId d.className)
  let title ← present d.title (.noTitle id)
  let category ←
    match d.category.bind Category.ofValue? with
    | some c => pure c
    | none => .error (.noCategory id)
  let risk ←
    match d.risk.bind Risk.ofValue? with
    | some r => pure r
    | none => .error (.noRisk id)
  let message ← present d.message (.noMessage id)
  let test ← d.test id
  return {
    className := d.className
    id := id
    title := title
    category := category
    risk := risk
    message := message
    guard := d.guardOrDefault
    test := test }

end Draft

end SqlAudit
