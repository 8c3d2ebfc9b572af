import SqlAudit.Proofs.Registry.Reachable
import SqlAudit.Proofs.Text.Occurrence

/-
  Rules that are well formed.

  A rule is well formed if its identifier, title and message
  count, and its test makes sense: thresholds are at least
  one, patterns are not empty and have been read, and a
  template holds the table and gives a pattern for a sample.
  Every rule that is made from a draft is well formed.

  Key definitions include:
    * `SqlAudit.Pattern.WellFormed`
    * `SqlAudit.Test.WellFormed`
    * `SqlAudit.Rule.WellFormed`

  Key theorems include:
    * `SqlAudit.Draft.tryTemplate_eq_ok`
    * `SqlAudit.Draft.test_wellFormed`
    * `SqlAudit.Draft.build_wellFormed`
    * `SqlAudit.Registry.builds_of_foldlM`
-/

------------------------------------------------------------
-- Well-Formed Rules
------------------------------------------------------------

namespace SqlAudit

/-
  The text of the pattern is not empty, and it stands for
  the expression of the pattern.
-/
structure Pattern.WellFormed (p : Pattern) : Prop where
  source_ne_nil : p.source ≠ []
  parse_source : Regex.parse p.source = .ok p.regex

/-
  The template holds the table, can be filled in for the
  sample table, and the result is a pattern.
-/
structure Template.WellFormed
    (template : List Char) : Prop where
  holds_table : Template.placeholder <:+: template
  gives_pattern :
    ∃ sample r,
      Template.fill template Draft.sampleTable =
          .ok sample ∧
        sample ≠ [] ∧ Regex.parse sample = .ok r

/- What has to be true of a test of each kind. -/
def Test.WellFormed : Test → Prop
| .occurs p least => p.WellFormed ∧ 1 ≤ least
| .absent p => p.WellFormed
| .long least => 1 ≤ least
| .aboutTable template => Template.WellFormed template

/-
  The texts of the rule count, and its test is well formed.
  That it has a category and a risk is a matter of its type.
-/
structure Rule.WellFormed (rule : Rule) : Prop where
  id : rule.id.isTruthy = true
  title : rule.title.isTruthy = true
  message : rule.message.isTruthy = true
  test : rule.test.WellFormed

end SqlAudit

------------------------------------------------------------
-- Settings Of A Draft
------------------------------------------------------------

namespace SqlAudit

namespace Draft

theorem positive_eq_ok
    {setting : Value}
    {e : Error}
    {least : Nat}
    (hPositive : positive setting e = .ok least) :
    1 ≤ least := by
  unfold positive at hPositive
  cases hInt : setting.toInt? with
  | none => simp [hInt] at hPositive
  | some n =>
      by_cases hLeast : 1 ≤ n
      · simp only [hInt, hLeast, if_true, Except.ok.injEq]
          at hPositive
        omega
      · simp [hInt, hLeast] at hPositive

theorem compileText_eq_ok
    {id : Value}
    {source : List Char}
    {p : Pattern}
    (hCompile : compileText id source = .ok p) :
    p.source = source ∧ p.WellFormed := by
  unfold compileText at hCompile
  by_cases hEmpty : source = []
  · simp [hEmpty] at hCompile
  · cases hParse : Regex.parse source with
    | error e =>
        by_cases hMalformed : e.isMalformed = true
        · simp [hEmpty, hParse, hMalformed] at hCompile
        · simp [hEmpty, hParse, hMalformed] at hCompile
    | ok r =>
        have hPattern : p = ⟨source, r⟩ := by
          simpa [hEmpty, hParse] using hCompile.symm
        subst hPattern
        exact ⟨rfl, hEmpty, hParse⟩

theorem compile_wellFormed
    {id : Value}
    {setting : Option Value}
    {p : Pattern}
    (hCompile : compile id setting = .ok p) :
    p.WellFormed := by
  unfold compile at hCompile
  simp only at hCompile
  split at hCompile
  · cases hCompile
  · split at hCompile
    · exact (compileText_eq_ok hCompile).2
    · split at hCompile
      · cases hCompile
      · cases hCompile

/- A template that is accepted works for the sample. -/
theorem tryTemplate_eq_ok
    {id : Value}
    {source : List Char}
    (hTry : tryTemplate id source = .ok ()) :
    Template.WellFormed source := by
  unfold tryTemplate at hTry
  by_cases hHolds :
      Text.occurs Template.placeholder source = true
  · simp only [hHolds, Bool.not_true, Bool.false_eq_true,
      if_false] at hTry
    cases hFill : Template.fill source sampleTable with
    | error e =>
        by_cases hMisuse : e.isMisuse = true
        · simp [hFill, hMisuse] at hTry
        · simp [hFill, hMisuse] at hTry
    | ok sample =>
        simp only [hFill] at hTry
        rcases ok_of_bind_eq_ok hTry with ⟨p, hCompile, _⟩
        rcases compileText_eq_ok hCompile with
          ⟨rfl, hWellFormed⟩
        exact ⟨Text.occurs_iff_isInfix.mp hHolds,
          p.source, p.regex, hFill,
          hWellFormed.source_ne_nil,
          hWellFormed.parse_source⟩
  · simp [hHolds, bind, Except.bind] at hTry

theorem checkTemplate_eq_ok
    {id : Value}
    {setting : Option Value}
    {template : List Char}
    (hCheck : checkTemplate id setting = .ok template) :
    (∃ s : String,
      setting = some (.text s) ∧ template = s.toList) ∧
      tryTemplate id template = .ok () := by
  unfold checkTemplate at hCheck
  cases setting with
  | none =>
      simp only [Option.getD_none] at hCheck
      rcases ok_of_bind_eq_ok hCheck with ⟨_, hTry, _⟩
      exact absurd hTry (by rintro ⟨⟩)
  | some v =>
      simp only [Option.getD_some] at hCheck
      cases v with
      | text s =>
          rcases ok_of_bind_eq_ok hCheck with
            ⟨_, hTry, hTemplate⟩
          have hSame := Except.ok.inj hTemplate
          subst hSame
          exact ⟨⟨s, rfl, rfl⟩, hTry⟩
      | list items =>
          simp only at hCheck
          split at hCheck
          · cases hCheck
          · cases hCheck
      | record fields =>
          simp only at hCheck
          split at hCheck
          · cases hCheck
          · cases hCheck
      | null => cases hCheck
      | flag b => cases hCheck
      | integer n => cases hCheck
      | real x => cases hCheck

end Draft

end SqlAudit

------------------------------------------------------------
-- Rules Made From Drafts
------------------------------------------------------------

namespace SqlAudit

namespace Draft

theorem test_wellFormed
    {d : Draft}
    {id : Value}
    {test : Test}
    (hTest : d.test id = .ok test) :
    test.WellFormed := by
  unfold Draft.test at hTest
  cases hKind : d.kind with
  | bare => simp [hKind] at hTest
  | text =>
      simp only [hKind] at hTest
      rcases ok_of_bind_eq_ok hTest with
        ⟨least, hLeast, hTest⟩
      rcases ok_of_bind_eq_ok hTest with
        ⟨p, hCompile, hTest⟩
      have hSame := Except.ok.inj hTest
      subst hSame
      exact ⟨compile_wellFormed hCompile,
        positive_eq_ok hLeast⟩
  | absent =>
      simp only [hKind] at hTest
      rcases ok_of_bind_eq_ok hTest with
        ⟨p, hCompile, hTest⟩
      have hSame := Except.ok.inj hTest
      subst hSame
      exact compile_wellFormed hCompile
  | length =>
      simp only [hKind] at hTest
      rcases ok_of_bind_eq_ok hTest with
        ⟨least, hLeast, hTest⟩
      have hSame := Except.ok.inj hTest
      subst hSame
      exact positive_eq_ok hLeast
  | template =>
      simp only [hKind] at hTest
      rcases ok_of_bind_eq_ok hTest with
        ⟨template, hCheck, hTest⟩
      have hSame := Except.ok.inj hTest
      subst hSame
      exact tryTemplate_eq_ok (checkTemplate_eq_ok hCheck).2

/- A rule that is made from a draft is well formed. -/
theorem build_wellFormed
    {d : Draft}
    {rule : Rule}
    (hBuild : d.build = .ok rule) :
    rule.WellFormed := by
  rcases build_eq_ok hBuild with
    ⟨_, _, hId, _, hTitle, _, _, _, hMessage, _, hTest⟩
  exact ⟨hId, hTitle, hMessage, test_wellFormed hTest⟩

/- A test about the table is the template of its draft. -/
theorem template_of_build
    {d : Draft}
    {rule : Rule}
    {template : List Char}
    (hBuild : d.build = .ok rule)
    (hTest : rule.test = .aboutTable template) :
    ∃ s : String,
      d.template = some (.text s) ∧ template = s.toList := by
  rcases build_eq_ok hBuild with
    ⟨_, _, _, _, _, _, _, _, _, _, hOf⟩
  rw [hTest] at hOf
  unfold Draft.test at hOf
  cases hKind : d.kind with
  | bare => simp [hKind] at hOf
  | text =>
      simp only [hKind] at hOf
      rcases ok_of_bind_eq_ok hOf with ⟨_, _, hOf⟩
      rcases ok_of_bind_eq_ok hOf with ⟨_, _, hOf⟩
      cases hOf
  | absent =>
      simp only [hKind] at hOf
      rcases ok_of_bind_eq_ok hOf with ⟨_, _, hOf⟩
      cases hOf
  | length =>
      simp only [hKind] at hOf
      rcases ok_of_bind_eq_ok hOf with ⟨_, _, hOf⟩
      cases hOf
  | template =>
      simp only [hKind] at hOf
      rcases ok_of_bind_eq_ok hOf with
        ⟨given, hCheck, hOf⟩
      have hSame : given = template := by
        simpa using Except.ok.inj hOf
      exact hSame ▸ (checkTemplate_eq_ok hCheck).1

end Draft

namespace Registry

/- Registering drafts in order adds their rules in order. -/
theorem builds_of_foldlM
    {drafts : List Draft}
    {registry result : Registry}
    (hFold : drafts.foldlM Registry.register registry =
      .ok result) :
    ∃ made,
      List.Forall₂ (fun d rule => d.build = .ok rule)
        drafts made ∧
      result.rules = registry.rules ++ made := by
  induction drafts generalizing registry with
  | nil =>
      have hSame := Except.ok.inj hFold
      exact ⟨[], .nil, by simp [hSame]⟩
  | cons d drafts ih =>
      rw [List.foldlM_cons] at hFold
      rcases ok_of_bind_eq_ok hFold with
        ⟨next, hRegister, hRest⟩
      rcases register_eq_ok hRegister with
        ⟨rule, _, hBuild, _, _, hRules⟩
      rcases ih hRest with ⟨made, hMade, hResult⟩
      exact ⟨rule :: made, .cons hBuild hMade,
        by simp [hResult, hRules]⟩

/- Of two lists related in order, each has its partners. -/
theorem exists_partner_of_mem
    {α β : Type}
    {R : α → β → Prop}
    {xs : List α}
    {ys : List β}
    {x : α}
    (hRelated : List.Forall₂ R xs ys)
    (hMem : x ∈ xs) :
    ∃ y ∈ ys, R x y := by
  induction hRelated with
  | nil => cases hMem
  | cons hHead _ ih =>
      rcases List.mem_cons.mp hMem with rfl | hTail
      · exact ⟨_, List.mem_cons_self, hHead⟩
      · rcases ih hTail with ⟨y, hPartner, hOf⟩
        exact ⟨y, List.mem_cons_of_mem _ hPartner, hOf⟩

/- Every rule of a registry of drafts is made from one. -/
theorem exists_draft_of_mem_toOption_getD
    {drafts : List Draft}
    {rule : Rule}
    (hMem :
      rule ∈ ((ofDrafts drafts).toOption.getD empty).rules) :
    ∃ d ∈ drafts, d.build = .ok rule := by
  cases hDrafts : ofDrafts drafts with
  | error e =>
      simp [hDrafts, Except.toOption, empty] at hMem
  | ok registry =>
      rcases builds_of_foldlM hDrafts with
        ⟨made, hMade, hRules⟩
      refine exists_partner_of_mem hMade.flip ?_
      simpa [hDrafts, Except.toOption, hRules, empty]
        using hMem

/- In a registry with rules, every draft made one of them. -/
theorem exists_rule_of_mem_toOption_getD
    {drafts : List Draft}
    {d : Draft}
    (hRules :
      ((ofDrafts drafts).toOption.getD empty).rules ≠ [])
    (hMem : d ∈ drafts) :
    ∃ rule ∈ ((ofDrafts drafts).toOption.getD empty).rules,
      d.build = .ok rule := by
  cases hDrafts : ofDrafts drafts with
  | error e =>
      simp [hDrafts, Except.toOption, empty] at hRules
  | ok registry =>
      rcases builds_of_foldlM hDrafts with
        ⟨made, hMade, hSame⟩
      rcases exists_partner_of_mem hMade hMem with
        ⟨rule, hRule, hBuild⟩
      refine ⟨rule, ?_, hBuild⟩
      simpa [Except.toOption, hSame, empty] using hRule

/- Every built-in rule is made from a built-in draft. -/
theorem exists_draft_of_mem_standard
    {rule : Rule}
    (hMem : rule ∈ Registry.standard.rules) :
    ∃ d ∈ Catalog.drafts, d.build = .ok rule :=
  exists_draft_of_mem_toOption_getD hMem

end Registry

end SqlAudit
