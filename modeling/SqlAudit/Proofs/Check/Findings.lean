import SqlAudit.Proofs.Check.Places
import SqlAudit.Proofs.Registry.Reachable
import SqlAudit.Proofs.Rule.Sample

/-
  Which findings a report holds, and in what order.

  A finding is made at every place where the rule fires on
  the statement and matters enough, and nowhere else.  The
  findings stand in the order of their places, so they are
  told apart by statement and rule as soon as the rules are.

  Key definitions include:
    * `SqlAudit.Test.CountsAs`
    * `SqlAudit.FiresAt`
    * `SqlAudit.AdmittedAt`
    * `SqlAudit.FoundAt`

  Key theorems include:
    * `SqlAudit.Rule.countsAs_of_fired`
    * `SqlAudit.Rule.reported?_eq`
    * `SqlAudit.answeredReport_findings`
    * `SqlAudit.report_lists_admitted_firings`
-/

------------------------------------------------------------
-- Counts Of Matches
------------------------------------------------------------

namespace SqlAudit

/-
  The counts with which a test can fire.  Presence of a
  pattern counts once, its absence not at all.
-/
def Test.CountsAs : Test → Nat → Prop
| .occurs _ least, count =>
    least ≤ count ∧ (least = 1 → count = 1)
| .absent _, count => count = 0
| .long _, count => count = 1
| .aboutTable _, count => count = 1

theorem Test.countsAs_of_fired
    {test : Test}
    {s : Statement}
    {m : Match}
    (hOutcome : test.outcome s = .ok m)
    (hFired : m.fired = true) :
    test.CountsAs m.count := by
  cases test with
  | occurs p least =>
      have hMatch := Except.ok.inj hOutcome
      subst hMatch
      have hLeast : least ≤ p.tally least s.text := by
        simpa using hFired
      refine ⟨hLeast, ?_⟩
      intro hOne
      subst hOne
      simp only [Pattern.tally] at hLeast ⊢
      by_cases hOccurs : p.regex.occursIn s.text = true
      · simp [hOccurs]
      · simp [hOccurs] at hLeast
  | absent p =>
      have hMatch := Except.ok.inj hOutcome
      subst hMatch
      by_cases hOccurs : p.regex.occursIn s.text = true
      · simp [hOccurs, Match.none] at hFired
      · simp [hOccurs, CountsAs]
  | long least =>
      have hMatch := Except.ok.inj hOutcome
      subst hMatch
      by_cases hLong : least ≤ s.text.length
      · simp [hLong, CountsAs]
      · simp [hLong, Match.none] at hFired
  | aboutTable template =>
      cases hTable : s.tableName with
      | none =>
          simp only [outcome, hTable, Except.ok.injEq]
            at hOutcome
          subst hOutcome
          simp [Match.none] at hFired
      | some table =>
          simp only [outcome, hTable] at hOutcome
          rcases ok_of_bind_eq_ok hOutcome with
            ⟨r, _, hMatch⟩
          have hMatch := Except.ok.inj hMatch
          subst hMatch
          by_cases hOccurs : r.occursIn s.text = true
          · simp [hOccurs, CountsAs]
          · simp [hOccurs, Match.none] at hFired

theorem Rule.countsAs_of_fired
    {rule : Rule}
    {s : Statement}
    {m : Match}
    (hEval : rule.evaluate s = .ok m)
    (hFired : m.fired = true) :
    rule.test.CountsAs m.count := by
  unfold evaluate at hEval
  split at hEval
  · exact Test.countsAs_of_fired hEval hFired
  · have hMatch := Except.ok.inj hEval
    subst hMatch
    simp [Match.none] at hFired

end SqlAudit

------------------------------------------------------------
-- Firings And Findings At Places
------------------------------------------------------------

namespace SqlAudit

/- The rule at a place fires on the statement there. -/
def FiresAt
    (catalog : List Rule)
    (texts : List (List Char))
    (i k : Nat) : Prop :=
  ∃ text rule m,
    texts[i]? = some text ∧ catalog[k]? = some rule ∧
      rule.evaluate (.ofText text) = .ok m ∧ m.fired = true

/- It does, and its risk is not below the configured one. -/
def AdmittedAt
    (config : Configuration)
    (catalog : List Rule)
    (texts : List (List Char))
    (i k : Nat) : Prop :=
  FiresAt catalog texts i k ∧
    ∃ rule, catalog[k]? = some rule ∧
      config.minRisk ≤ rule.risk

/-
  The finding says that the rule at a place fired on the
  statement there, with the rule's own texts and the count
  of the match.
-/
def FoundAt
    (catalog : List Rule)
    (texts : List (List Char))
    (place : Nat × Nat)
    (f : Finding) : Prop :=
  ∃ text rule m,
    texts[place.1]? = some text ∧
      catalog[place.2]? = some rule ∧
      rule.evaluate (.ofText text) = .ok m ∧
      m.fired = true ∧
      f.index = place.1 ∧
      f.ruleId = rule.id ∧
      f.title = rule.title ∧
      f.category = rule.category ∧
      f.risk = rule.risk ∧
      f.message = rule.message ∧
      f.count = m.count ∧
      rule.test.CountsAs f.count

/- The rule fires on the statement. -/
def Rule.fires
    (rule : Rule)
    (s : Statement) : Bool :=
  (rule.firing? s).isSome

theorem Rule.fires_iff
    {rule : Rule}
    {s : Statement} :
    rule.fires s = true ↔
      ∃ m, rule.evaluate s = .ok m ∧ m.fired = true := by
  unfold fires
  rw [Option.isSome_iff_exists]
  constructor
  · rintro ⟨count, hCount⟩
    rcases firing?_eq_some_iff.mp hCount with
      ⟨m, hEval, hFired, _⟩
    exact ⟨m, hEval, hFired⟩
  · rintro ⟨m, hEval, hFired⟩
    exact ⟨m.count,
      firing?_eq_some_iff.mpr ⟨m, hEval, hFired, rfl⟩⟩

/- The rule fires on the statement and is reported. -/
def Rule.isReported
    (config : Configuration)
    (rule : Rule)
    (s : Statement) : Bool :=
  rule.fires s && decide (config.minRisk ≤ rule.risk)

theorem mem_places_fires_iff
    {catalog : List Rule}
    {texts : List (List Char)}
    {i k : Nat} :
    (i, k) ∈ places Rule.fires catalog texts ↔
      FiresAt catalog texts i k := by
  rw [mem_places_iff]
  constructor
  · rintro ⟨text, rule, hText, hRule, hFires⟩
    rcases Rule.fires_iff.mp hFires with ⟨m, hEval, hFired⟩
    exact ⟨text, rule, m, hText, hRule, hEval, hFired⟩
  · rintro ⟨text, rule, m, hText, hRule, hEval, hFired⟩
    exact ⟨text, rule, hText, hRule,
      Rule.fires_iff.mpr ⟨m, hEval, hFired⟩⟩

theorem mem_places_isReported_iff
    {config : Configuration}
    {catalog : List Rule}
    {texts : List (List Char)}
    {i k : Nat} :
    (i, k) ∈
        places (Rule.isReported config) catalog texts ↔
      AdmittedAt config catalog texts i k := by
  rw [mem_places_iff]
  unfold AdmittedAt
  rw [← mem_places_fires_iff, mem_places_iff]
  simp only [Rule.isReported, Bool.and_eq_true,
    decide_eq_true_eq]
  constructor
  · rintro ⟨text, rule, hText, hRule, hFires, hRisk⟩
    exact ⟨⟨text, rule, hText, hRule, hFires⟩,
      rule, hRule, hRisk⟩
  · rintro ⟨⟨text, rule, hText, hRule, hFires⟩,
      rule', hRule', hRisk⟩
    have hSame : rule = rule' :=
      Option.some.inj (hRule ▸ hRule')
    exact ⟨text, rule, hText, hRule, hFires, hSame ▸ hRisk⟩

end SqlAudit

------------------------------------------------------------
-- Findings Of A Report
------------------------------------------------------------

namespace SqlAudit

/- The finding of a rule on the statement with an index. -/
def Rule.reported?
    (config : Configuration)
    (index : Nat)
    (s : Statement)
    (rule : Rule) : Option Finding :=
  (rule.answer config index s).finding?

/- A rule that matters enough reports its firing. -/
theorem Rule.reported?_eq
    (config : Configuration)
    (index : Nat)
    (s : Statement)
    (rule : Rule) :
    rule.reported? config index s =
      if config.minRisk ≤ rule.risk then
        (rule.firing? s).map (rule.finding index)
      else
        none := by
  unfold reported? answer
  cases rule.firing? s with
  | none => simp [Verdict.finding?]
  | some count =>
      by_cases hRisk : config.minRisk ≤ rule.risk
      · simp [hRisk, Verdict.finding?]
      · simp [hRisk, Verdict.finding?]

theorem Rule.reported?_of_fires
    {config : Configuration}
    {rule : Rule}
    {s : Statement}
    {m : Match}
    (index : Nat)
    (hEval : rule.evaluate s = .ok m)
    (hFired : m.fired = true)
    (hRisk : config.minRisk ≤ rule.risk) :
    rule.reported? config index s =
      some (rule.finding index m.count) := by
  have hFiring : rule.firing? s = some m.count :=
    firing?_eq_some_iff.mpr ⟨m, hEval, hFired, rfl⟩
  rw [reported?_eq, if_pos hRisk, hFiring]
  rfl

theorem Rule.reported?_of_not_isReported
    {config : Configuration}
    {rule : Rule}
    {s : Statement}
    (index : Nat)
    (hNot : rule.isReported config s = false) :
    rule.reported? config index s = none := by
  rw [reported?_eq]
  by_cases hRisk : config.minRisk ≤ rule.risk
  · have hFiring : rule.firing? s = none := by
      simpa [isReported, fires, hRisk] using hNot
    rw [if_pos hRisk, hFiring]
    rfl
  · rw [if_neg hRisk]

/- The entries of a report, statement by statement. -/
theorem answeredReport_statements
    (config : Configuration)
    (catalog : List Rule)
    (texts : List (List Char)) :
    (answeredReport config catalog texts).statements =
      texts.zipIdx.map fun t =>
        { index := t.2
          statement := .ofText t.1
          findings :=
            catalog.filterMap
              (Rule.reported? config t.2 (.ofText t.1)) } := by
  simp only [answeredReport, answeredFrom, List.map_map]
  refine List.map_congr_left ?_
  intro t _
  simp only [Function.comp, answered, Inspection.findings,
    List.filterMap_map, StatementReport.mk.injEq,
    true_and]
  rfl

theorem answeredReport_findings
    (config : Configuration)
    (catalog : List Rule)
    (texts : List (List Char)) :
    (answeredReport config catalog texts).findings =
      texts.zipIdx.flatMap fun t =>
        catalog.filterMap
          (Rule.reported? config t.2 (.ofText t.1)) := by
  rw [Report.findings, answeredReport_statements,
    List.flatMap_map]

section AtPlaces

variable {config : Configuration}
variable {catalog : List Rule}
variable {texts : List (List Char)}
variable {i k : Nat}
variable {text : List Char}
variable {rule : Rule}
variable {m : Match}

theorem foundAt_of_fires
    (hText : texts[i]? = some text)
    (hRule : catalog[k]? = some rule)
    (hEval : rule.evaluate (.ofText text) = .ok m)
    (hFired : m.fired = true) :
    FoundAt catalog texts (i, k) (rule.finding i m.count) :=
  ⟨text, rule, m, hText, hRule, hEval, hFired, rfl, rfl, rfl,
    rfl, rfl, rfl, rfl, Rule.countsAs_of_fired hEval hFired⟩

theorem mem_findings_of_fires
    (hText : texts[i]? = some text)
    (hRule : catalog[k]? = some rule)
    (hEval : rule.evaluate (.ofText text) = .ok m)
    (hFired : m.fired = true)
    (hRisk : config.minRisk ≤ rule.risk) :
    rule.finding i m.count ∈
      (answeredReport config catalog texts).findings := by
  rw [answeredReport_findings, List.mem_flatMap]
  refine ⟨(text, i),
    List.mk_mem_zipIdx_iff_getElem?.mpr hText, ?_⟩
  apply List.mem_filterMap.mpr
  exact ⟨rule, List.mem_of_getElem? hRule,
    Rule.reported?_of_fires i hEval hFired hRisk⟩

end AtPlaces

/- The findings go with the places of admitted firings. -/
theorem findings_foundAt
    (config : Configuration)
    (catalog : List Rule)
    (texts : List (List Char)) :
    List.Forall₂ (FoundAt catalog texts)
      (places (Rule.isReported config) catalog texts)
      (answeredReport config catalog texts).findings := by
  rw [answeredReport_findings]
  refine forall₂_places ?_ ?_
  · intro i k text rule hText hRule hReported
    simp only [Rule.isReported, Bool.and_eq_true,
      decide_eq_true_eq] at hReported
    rcases Rule.fires_iff.mp hReported.1 with
      ⟨m, hEval, hFired⟩
    refine ⟨rule.finding i m.count, ?_, ?_⟩
    · exact Rule.reported?_of_fires i hEval hFired
        hReported.2
    · exact foundAt_of_fires hText hRule hEval hFired
  · intro i s rule hNot
    exact Rule.reported?_of_not_isReported i hNot

/- A finding carries the identifier of its rule. -/
theorem Rule.reported?_eq_some
    {config : Configuration}
    {index : Nat}
    {s : Statement}
    {rule : Rule}
    {f : Finding}
    (hReported : rule.reported? config index s = some f) :
    f.index = index ∧ f.ruleId = rule.id := by
  rw [reported?_eq] at hReported
  by_cases hRisk : config.minRisk ≤ rule.risk
  · rw [if_pos hRisk, Option.map_eq_some_iff] at hReported
    rcases hReported with ⟨count, _, rfl⟩
    exact ⟨rfl, rfl⟩
  · rw [if_neg hRisk] at hReported
    cases hReported

/-
  Rules with different keys make findings that differ by
  statement or by key.
-/
theorem findings_nodup
    (config : Configuration)
    {catalog : List Rule}
    (texts : List (List Char))
    (hKeys :
      (catalog.map fun rule => rule.id.key?).Nodup) :
    ((answeredReport config catalog texts).findings.map
      fun f => (f.index, f.ruleId.key?)).Nodup := by
  have hRules :
      catalog.Pairwise fun a b => a.id.key? ≠ b.id.key? :=
    List.pairwise_map.mp hKeys
  rw [answeredReport_findings]
  refine List.pairwise_map.mpr ?_
  rw [List.pairwise_flatMap]
  constructor
  · intro t _
    rw [List.pairwise_filterMap]
    refine hRules.imp ?_
    intro a b hNe f hf g hg hEq
    apply hNe
    rw [← (Rule.reported?_eq_some hf).2,
      ← (Rule.reported?_eq_some hg).2]
    exact (Prod.mk.inj hEq).2
  · refine (zipIdx_pairwise_snd texts).imp ?_
    intro t t' hLt f hf g hg hEq
    rcases List.mem_filterMap.mp hf with ⟨a, _, ha⟩
    rcases List.mem_filterMap.mp hg with ⟨b, _, hb⟩
    have hIndex : f.index = g.index := (Prod.mk.inj hEq).1
    rw [(Rule.reported?_eq_some ha).1,
      (Rule.reported?_eq_some hb).1] at hIndex
    omega

end SqlAudit

------------------------------------------------------------
-- Entries Of A Report
------------------------------------------------------------

namespace SqlAudit

/- The entry of a report at a position. -/
theorem answeredReport_statements_getElem?
    (config : Configuration)
    (catalog : List Rule)
    (texts : List (List Char))
    (i : Nat) :
    (answeredReport config catalog texts).statements[i]? =
      texts[i]?.map fun text =>
        { index := i
          statement := .ofText text
          findings :=
            catalog.filterMap
              (Rule.reported? config i (.ofText text)) } := by
  rw [answeredReport_statements, List.getElem?_map,
    List.getElem?_zipIdx, Option.map_map]
  simp [Function.comp_def]

/-
  A report has one finding for every admitted firing and no
  other, in the order of the places, and one entry for every
  statement.  If the rules were selected from a registry, no
  two findings agree in statement and rule.
-/
theorem report_lists_admitted_firings
    (config : Configuration)
    (catalog : List Rule)
    (texts : List (List Char))
    (report : Report)
    (hReport :
      (check config catalog texts).report = .ok report) :
    (∃ admitted : List (Nat × Nat),
      admitted.Pairwise (Prod.Lex (· < ·) (· < ·)) ∧
        (∀ i k, (i, k) ∈ admitted ↔
          AdmittedAt config catalog texts i k) ∧
        List.Forall₂ (FoundAt catalog texts) admitted
          report.findings) ∧
      report.statements.length = texts.length ∧
      (∀ (i : Nat) (text : List Char),
        texts[i]? = some text →
        ∃ entry : StatementReport,
          report.statements[i]? = some entry ∧
          entry.index = i ∧
          entry.statement = .ofText text ∧
          ∀ f ∈ entry.findings, f.index = i) ∧
      (∀ (registry : Registry) (ids categories : List Value),
        registry.Reachable →
        registry.select ids categories = .ok catalog →
        (report.findings.map fun f =>
          (f.index, f.ruleId.key?)).Nodup) := by
  rcases (Run.report_eq_ok_iff config catalog texts
    report).mp hReport with ⟨_, hEq⟩
  subst hEq
  refine ⟨⟨places (Rule.isReported config) catalog texts,
    ?_, ?_, ?_⟩, ?_, ?_, ?_⟩
  · exact places_pairwise _ catalog texts
  · intro i k
    exact mem_places_isReported_iff
  · exact findings_foundAt config catalog texts
  · simp [answeredReport, answeredFrom]
  · intro i text hText
    refine ⟨_, by
      rw [answeredReport_statements_getElem?, hText]
      rfl, rfl, rfl, ?_⟩
    intro f hf
    rcases List.mem_filterMap.mp hf with ⟨rule, _, hRule⟩
    exact (Rule.reported?_eq_some hRule).1
  · intro registry ids categories hReachable hSelect
    have hKeys := hReachable.distinctKeys
    have hSublist := Registry.sublist_of_select hSelect
    apply findings_nodup
    exact hKeys.sublist (hSublist.map _)

/-
  Of two rules about long statements, the one that matters
  enough is reported on the one statement that is long.
-/
theorem report_lists_admitted_firings_of_long_rules :
    let rule : Rule := .longSample
    let config : Configuration :=
      ⟨.warning, .flag false, .flag false, .text "mysql"⟩
    let catalog : List Rule :=
      [{ rule with id := .text "b", risk := .info }, rule]
    let texts := ["x".toList, "SELECT 1".toList]
    ∃ report,
      (check config catalog texts).report = .ok report ∧
        report.findings.map Finding.index = [1] ∧
        ∃ admitted : List (Nat × Nat),
          admitted.Pairwise (Prod.Lex (· < ·) (· < ·)) ∧
            (∀ i k, (i, k) ∈ admitted ↔
              AdmittedAt config catalog texts i k) ∧
            List.Forall₂ (FoundAt catalog texts) admitted
              report.findings := by
  intro rule config catalog texts
  refine ⟨_, rfl, rfl, ?_⟩
  have hListed :=
    report_lists_admitted_firings config catalog texts _ rfl
  exact hListed.1

end SqlAudit
