import SqlAudit.Proofs.Check.Restriction
import SqlAudit.Proofs.Check.Totals
import SqlAudit.Proofs.Registry.Selection

/-
  Rules do not depend on each other.

  A catalog that is selected from a registry reports what the
  whole registry reports of the selected rules.  Two catalogs
  one after the other say of a statement what the first says
  and then what the second says.

  Key definitions include:
    * `SqlAudit.Finding.isOfRules`
    * `SqlAudit.Finding.isOfCategories`

  Key theorems include:
    * `SqlAudit.answeredReport_keeps_of_filter`
    * `SqlAudit.inspect_append`
    * `SqlAudit.selection_commutes_with_check`
-/

------------------------------------------------------------
-- Reports Of A Selection
------------------------------------------------------------

namespace SqlAudit

/- The finding is one of a rule with such an identifier. -/
def Finding.isOfRules
    (ids : List Value)
    (f : Finding) : Bool :=
  (ids.map Value.key?).contains f.ruleId.key?

/- The finding is one of a rule of such a category. -/
def Finding.isOfCategories
    (categories : List Value)
    (f : Finding) : Bool :=
  (categories.map Category.ofValue?).contains
    (some f.category)

theorem Finding.isOfRules_finding
    (ids : List Value)
    (rule : Rule)
    (index : Int)
    (count : Nat) :
    (rule.finding index count).isOfRules ids =
      (ids.map Value.key?).contains rule.id.key? := rfl

theorem Finding.isOfCategories_finding
    (categories : List Value)
    (rule : Rule)
    (index : Int)
    (count : Nat) :
    (rule.finding index count).isOfCategories categories =
      (categories.map Category.ofValue?).contains
        (some rule.category) := rfl

theorem Rule.filter_reported?
    {keep : Finding → Bool}
    {chosen : Rule → Bool}
    (hKeep :
      ∀ rule index count,
        keep (Rule.finding rule index count) = chosen rule)
    (config : Configuration)
    (index : Nat)
    (s : Statement)
    (rule : Rule) :
    (rule.reported? config index s).filter keep =
      if chosen rule then rule.reported? config index s
      else none := by
  rw [reported?_eq]
  by_cases hRisk : config.minRisk ≤ rule.risk
  · rw [if_pos hRisk]
    cases rule.firing? s with
    | none => simp
    | some count =>
        cases hChosen : chosen rule with
        | true => simp [Option.filter, hKeep, hChosen]
        | false => simp [Option.filter, hKeep, hChosen]
  · simp [if_neg hRisk]

/-
  Choosing rules before a check is choosing among the
  findings after it.
-/
theorem answeredReport_keeps_of_filter
    {keep : Finding → Bool}
    {chosen : Rule → Bool}
    (hKeep :
      ∀ rule index count,
        keep (Rule.finding rule index count) = chosen rule)
    (config : Configuration)
    (catalog : List Rule)
    (texts : List (List Char)) :
    (answeredReport config (catalog.filter chosen)
      texts).Keeps keep
        (answeredReport config catalog texts) := by
  refine answeredReport_keeps texts ?_
  intro index s
  rw [List.filter_filterMap, List.filterMap_filter]
  refine List.filterMap_congr ?_
  intro rule _
  exact (Rule.filter_reported? hKeep config index s
    rule).symm

theorem AllAnswer.filter
    {catalog : List Rule}
    {texts : List (List Char)}
    (hAnswer : AllAnswer catalog texts)
    (chosen : Rule → Bool) :
    AllAnswer (catalog.filter chosen) texts := by
  intro text hText rule hRule
  exact hAnswer text hText rule (List.mem_of_mem_filter hRule)

/- A run of chosen rules has a report if the whole run has. -/
theorem exists_report_keeps_of_filter
    {keep : Finding → Bool}
    {chosen : Rule → Bool}
    (hKeep :
      ∀ rule index count,
        keep (Rule.finding rule index count) = chosen rule)
    {config : Configuration}
    {catalog : List Rule}
    {texts : List (List Char)}
    {full : Report}
    (hFull :
      (check config catalog texts).report = .ok full) :
    ∃ report,
      (check config (catalog.filter chosen) texts).report =
          .ok report ∧
        report.Keeps keep full := by
  rcases (Run.report_eq_ok_iff _ _ _ _).mp hFull with
    ⟨hAnswer, rfl⟩
  exact ⟨_, (Run.report_eq_ok_iff _ _ _ _).mpr
      ⟨hAnswer.filter chosen, rfl⟩,
    answeredReport_keeps_of_filter hKeep config catalog
      texts⟩

end SqlAudit

------------------------------------------------------------
-- Catalogs One After The Other
------------------------------------------------------------

namespace SqlAudit

theorem verdicts_append
    (config : Configuration)
    (index : Int)
    {s : Statement}
    {first : List Rule}
    (second : List Rule)
    (hAnswers : ∀ rule ∈ first, rule.Answers s) :
    verdicts config index s (first ++ second) =
      ((verdicts config index s first).1 ++
          (verdicts config index s second).1,
        (verdicts config index s second).2) := by
  induction first with
  | nil => rfl
  | cons rule rules ih =>
      have hRule := Rule.verdict_of_answers config index
        (hAnswers rule List.mem_cons_self)
      have hRules := ih fun r hr =>
        hAnswers r (List.mem_cons_of_mem rule hr)
      simp [verdicts, hRule, hRules]

/- If the first rules have no fault, the second go on. -/
theorem inspect_append
    (config : Configuration)
    (index : Int)
    {s : Statement}
    {first : List Rule}
    (second : List Rule)
    (hFault : faultOn first s = none) :
    inspect config (first ++ second) index s =
      { index := index
        statement := s
        verdicts :=
          (inspect config first index s).verdicts ++
            (inspect config second index s).verdicts
        fault := faultOn second s } := by
  have hVerdicts := verdicts_append config index second
    (faultOn_eq_none_iff.mp hFault)
  simp [inspect, hVerdicts, verdicts_fault]

/-
  The totals of two catalogs one after the other: the counts
  of both are added, and the statement is counted once.
-/
theorem totals_inspect_append
    (config : Configuration)
    (index : Int)
    {s : Statement}
    {first second : List Rule}
    (hFirst : faultOn first s = none)
    (hSecond : faultOn second s = none) :
    (inspect config (first ++ second) index
        s).totals.countStatement =
      (inspect config first index s).totals +
        (inspect config second index s).totals := by
  have hBoth : faultOn (first ++ second) s = none := by
    rw [faultOn_append, hFirst, hSecond]
    rfl
  rw [Inspection.totals_of_fault_eq_none
      ((inspect_fault _ _ _ _).trans hBoth),
    Inspection.totals_of_fault_eq_none
      ((inspect_fault _ _ _ _).trans hFirst),
    Inspection.totals_of_fault_eq_none
      ((inspect_fault _ _ _ _).trans hSecond),
    inspect_append config index second hFirst]
  simp only [List.map_append, List.sum_append]
  refine Tally.ext rfl rfl rfl ?_
  simp only [Tally.countStatement, Tally.statements_add]
  omega

/- So it is for the totals that a check starts from. -/
theorem addTo_inspect_append
    (config : Configuration)
    (index : Int)
    {s : Statement}
    {first second : List Rule}
    (hFirst : faultOn first s = none)
    (hSecond : faultOn second s = none)
    (t : Tally) :
    ((inspect config (first ++ second) index s).addTo t +
        t).countStatement =
      (inspect config first index s).addTo t +
        (inspect config second index s).addTo t := by
  rw [Inspection.addTo_eq, Inspection.addTo_eq,
    Inspection.addTo_eq, add_right_comm,
    Tally.countStatement_add,
    totals_inspect_append config index hFirst hSecond,
    add_add_add_comm]

end SqlAudit

------------------------------------------------------------
-- Selecting And Checking
------------------------------------------------------------

namespace SqlAudit

/-
  If a check against all rules of a registry has a report, so
  has every selection, and it keeps the findings of the rules
  that were selected, by identifier or by category.  Of two
  catalogs one after the other, a statement is reported what
  the first reports and then what the second reports; their
  counts are added to the totals at the start, and the
  statement is counted once.
-/
theorem selection_commutes_with_check
    (config : Configuration) :
    (∀ (registry : Registry)
        (all : List Rule)
        (texts : List (List Char))
        (full : Report),
      registry.select [] [] = .ok all →
      (check config all texts).report = .ok full →
      (∀ ids categories : List Value,
        ids ≠ [] →
        (∀ id ∈ ids, registry.Registers id) →
        ∃ catalog report,
          registry.select ids categories = .ok catalog ∧
          (check config catalog texts).report = .ok report ∧
          report.Keeps (Finding.isOfRules ids) full) ∧
      (∀ categories : List Value,
        categories ≠ [] →
        (∀ v ∈ categories, (Category.ofValue? v).isSome) →
        ∃ catalog report,
          registry.select [] categories = .ok catalog ∧
          (check config catalog texts).report = .ok report ∧
          report.Keeps
            (Finding.isOfCategories categories) full)) ∧
    (∀ (first second : List Rule)
        (index : Int)
        (s : Statement),
      let both := inspect config (first ++ second) index s
      let one := inspect config first index s
      let two := inspect config second index s
      (∀ e, both.report = .error e ↔
        one.report = .error e ∨
          (∃ a, one.report = .ok a) ∧
          two.report = .error e) ∧
      (∀ a b,
        one.report = .ok a → two.report = .ok b →
        both.report =
          .ok ⟨index, s, a.findings ++ b.findings⟩ ∧
        ∀ t : Tally,
          (∀ r, (both.addTo t).byRisk.get r +
              t.byRisk.get r =
            (one.addTo t).byRisk.get r +
              (two.addTo t).byRisk.get r) ∧
          (∀ c, (both.addTo t).byCategory.get c +
              t.byCategory.get c =
            (one.addTo t).byCategory.get c +
              (two.addTo t).byCategory.get c) ∧
          (both.addTo t).suppressed + t.suppressed =
            (one.addTo t).suppressed +
              (two.addTo t).suppressed ∧
          (both.addTo t).statements =
            t.statements + 1)) := by
  refine ⟨?_, ?_⟩
  · intro registry all texts full hAll hFull
    have hRules : registry.rules = all :=
      Except.ok.inj hAll
    subst hRules
    refine ⟨?_, ?_⟩
    · intro ids categories hNe hIds
      rcases exists_report_keeps_of_filter
        (Finding.isOfRules_finding ids) hFull with
        ⟨report, hReport, hKeeps⟩
      exact ⟨_, report,
        Registry.select_ids categories hNe hIds, hReport,
        hKeeps⟩
    · intro categories hNe hNames
      rcases exists_report_keeps_of_filter
        (Finding.isOfCategories_finding categories)
        hFull with
        ⟨report, hReport, hKeeps⟩
      exact ⟨_, report,
        Registry.select_categories hNe hNames, hReport,
        hKeeps⟩
  · intro first second index s both one two
    refine ⟨?_, ?_⟩
    · intro e
      simp only [both, one, two,
        inspect_report_eq_error_iff,
        inspect_report_eq_ok_iff, faultOn_append,
        Option.or_eq_some_iff, exists_and_left,
        exists_eq, and_true]
    · intro a b hOne hTwo
      rcases (inspect_report_eq_ok_iff _ _ _ _ _).mp hOne
        with ⟨hFirst, rfl⟩
      rcases (inspect_report_eq_ok_iff _ _ _ _ _).mp hTwo
        with ⟨hSecond, rfl⟩
      have hInspect :=
        inspect_append config index second hFirst
      have hFault : both.fault = none := by
        simp only [both, hInspect, hSecond]
      refine ⟨?_, ?_⟩
      · simp only [both, hInspect, hSecond,
          Inspection.report, Inspection.findings,
          List.filterMap_append]
      · intro t
        have hTotals := addTo_inspect_append config index
          hFirst hSecond t
        refine ⟨?_, ?_, ?_,
          Inspection.statements_addTo hFault t⟩
        · intro r
          have hRisk := congrArg
            (fun u => u.byRisk.get r) hTotals
          simpa [Tally.countStatement] using hRisk
        · intro c
          have hCategory := congrArg
            (fun u => u.byCategory.get c) hTotals
          simpa [Tally.countStatement] using hCategory
        · have hSuppressed := congrArg Tally.suppressed
            hTotals
          simpa [Tally.countStatement] using hSuppressed

/-
  Two rules fire on the one statement that is long.  The one
  that is selected, by an identifier that is given twice or
  by its category, is the only one that is reported.
-/
theorem selection_commutes_with_check_of_long_rules :
    let rule : Rule := .longSample
    let registry : Registry :=
      ⟨[{ rule with id := .text "b", category := .application },
        rule]⟩
    let config : Configuration :=
      ⟨.info, .flag false, .flag false, .text "mysql"⟩
    let texts := ["x".toList, "SELECT 1".toList]
    let ids := [.text "a", .text "a"]
    ∃ full byId byCategory catalog others,
      (check config registry.rules texts).report = .ok full ∧
        full.findings.length = 2 ∧
        registry.select ids [] = .ok catalog ∧
        (check config catalog texts).report = .ok byId ∧
        byId.findings =
          full.findings.filter (Finding.isOfRules ids) ∧
        byId.findings.length = 1 ∧
        registry.select [] [.text "query"] = .ok others ∧
        (check config others texts).report =
          .ok byCategory ∧
        byCategory.findings =
          full.findings.filter
            (Finding.isOfCategories [.text "query"]) ∧
        (inspect config (registry.rules ++ catalog) 0
          (.ofText "SELECT 1".toList)).findings.length =
            3 := by
  intro rule registry config texts ids
  have hSelection := selection_commutes_with_check config
  have hIds : ∀ id ∈ ids, registry.Registers id := by
    intro id hMem
    have hSame : id = .text "a" := by
      simpa [ids] using hMem
    subst hSame
    exact ⟨.text "a", rfl, rule, by simp [registry], rfl⟩
  rcases hSelection.1 registry _ texts _ rfl rfl with
    ⟨hById, hByCategory⟩
  rcases hById ids [] (by simp [ids]) hIds with
    ⟨catalog, byId, hCatalog, hReport, hKeeps⟩
  rcases hByCategory [.text "query"] (by simp)
    (by simp; rfl) with
    ⟨others, byCategory, hOthers, hOther, hKept⟩
  have hRule : catalog = [rule] :=
    (Except.ok.inj hCatalog).symm
  refine ⟨_, byId, byCategory, catalog, others, rfl, rfl,
    hCatalog, hReport, hKeeps.findings, ?_, hOthers, hOther,
    hKept.findings, ?_⟩
  · rw [hKeeps.findings]
    rfl
  · have hBoth := (hSelection.2 registry.rules catalog 0
      (.ofText "SELECT 1".toList)).2
    rw [hRule] at hBoth ⊢
    have hFindings := (hBoth _ _ rfl rfl).1
    exact congrArg List.length (StatementReport.mk.inj
      (Except.ok.inj hFindings)).2.2

end SqlAudit
