import SqlAudit.Proofs.Check.Restriction
import SqlAudit.Proofs.Check.Totals

/-
  Checks of statements that come one after the other.

  What is said of a statement depends on the statement and on
  the rules; its index is only written down.  So the report
  on two lists of statements is the report on the first and,
  with later indexes, the report on the second, and the
  totals are the sums of both.

  Key definitions include:
    * `SqlAudit.Finding.shift`
    * `SqlAudit.StatementReport.shift`

  Key theorems include:
    * `SqlAudit.answeredReport_statements_append`
    * `SqlAudit.answeredReport_summary_append`
    * `SqlAudit.answeredReport_summary_perm`
    * `SqlAudit.report_of_append`
-/

------------------------------------------------------------
-- Later Indexes
------------------------------------------------------------

namespace SqlAudit

/- The finding on a statement that stands `n` places later. -/
def Finding.shift
    (n : Nat)
    (f : Finding) : Finding :=
  { f with index := f.index + n }

/- The entry of a statement that stands `n` places later. -/
def StatementReport.shift
    (n : Nat)
    (entry : StatementReport) : StatementReport :=
  { index := entry.index + n
    statement := entry.statement
    findings := entry.findings.map (Finding.shift n) }

theorem Rule.finding_shift
    (rule : Rule)
    (index n : Nat)
    (count : Nat) :
    rule.finding ((index + n : Nat) : Int) count =
      (rule.finding index count).shift n := by
  simp [finding, Finding.shift]

theorem Rule.reported?_shift
    (config : Configuration)
    (index n : Nat)
    (s : Statement)
    (rule : Rule) :
    rule.reported? config (index + n) s =
      (rule.reported? config index s).map
        (Finding.shift n) := by
  rw [reported?_eq, reported?_eq]
  by_cases hRisk : config.minRisk ≤ rule.risk
  · rw [if_pos hRisk, if_pos hRisk, Option.map_map]
    refine congrArg (Option.map · (rule.firing? s)) ?_
    funext count
    exact rule.finding_shift index n count
  · rw [if_neg hRisk, if_neg hRisk]
    rfl

/- The findings of a catalog move with their statement. -/
theorem filterMap_reported?_shift
    (config : Configuration)
    (catalog : List Rule)
    (index n : Nat)
    (s : Statement) :
    catalog.filterMap
        (Rule.reported? config (index + n) s) =
      (catalog.filterMap
        (Rule.reported? config index s)).map
          (Finding.shift n) := by
  rw [List.map_filterMap]
  refine List.filterMap_congr ?_
  intro rule _
  exact rule.reported?_shift config index n s

end SqlAudit

------------------------------------------------------------
-- Reports One After The Other
------------------------------------------------------------

namespace SqlAudit

theorem answeredReport_statements_append
    (config : Configuration)
    (catalog : List Rule)
    (xs ys : List (List Char)) :
    (answeredReport config catalog (xs ++ ys)).statements =
      (answeredReport config catalog xs).statements ++
        (answeredReport config catalog ys).statements.map
          (StatementReport.shift xs.length) := by
  have hLater :
      ys.zipIdx (0 + xs.length) =
        ys.zipIdx.map (Prod.map id (· + xs.length)) := by
    rw [List.map_snd_add_zipIdx_eq_zipIdx, Nat.add_comm]
  rw [answeredReport_statements, answeredReport_statements,
    answeredReport_statements, List.zipIdx_append,
    List.map_append, hLater, List.map_map, List.map_map]
  refine congrArg (_ ++ ·) (List.map_congr_left ?_)
  intro t _
  simp [StatementReport.shift, filterMap_reported?_shift]

theorem answeredReport_summary_append
    (config : Configuration)
    (catalog : List Rule)
    (xs ys : List (List Char)) :
    (answeredReport config catalog (xs ++ ys)).summary =
      (answeredReport config catalog xs).summary +
        (answeredReport config catalog ys).summary := by
  rw [answeredReport_summary, answeredReport_summary,
    answeredReport_summary, List.map_append,
    List.sum_append]

/- The order of the statements is not seen in the totals. -/
theorem answeredReport_summary_perm
    (config : Configuration)
    (catalog : List Rule)
    {xs ys : List (List Char)}
    (hPerm : xs.Perm ys) :
    (answeredReport config catalog xs).summary =
      (answeredReport config catalog ys).summary := by
  rw [answeredReport_summary, answeredReport_summary]
  exact (hPerm.map _).sum_eq

theorem AllAnswer.perm
    {catalog : List Rule}
    {xs ys : List (List Char)}
    (hAnswer : AllAnswer catalog xs)
    (hPerm : xs.Perm ys) :
    AllAnswer catalog ys := by
  intro text hMem
  exact hAnswer text (hPerm.mem_iff.mpr hMem)

theorem allAnswer_append_iff
    {catalog : List Rule}
    {xs ys : List (List Char)} :
    AllAnswer catalog (xs ++ ys) ↔
      AllAnswer catalog xs ∧ AllAnswer catalog ys :=
  List.forall_mem_append

/-
  A check of two lists of statements fails with the fault of
  the first, or else with that of the second.  If neither has
  a fault, the report is that on the first followed by that
  on the second with later indexes, and every count of the
  summary is the sum of both.  Statements in another order
  have the same summary.
-/
theorem report_of_append
    (config : Configuration)
    (catalog : List Rule)
    (xs ys : List (List Char)) :
    (∀ e, (check config catalog (xs ++ ys)).report =
        .error e ↔
      (check config catalog xs).report = .error e ∨
        (∃ first,
          (check config catalog xs).report = .ok first) ∧
        (check config catalog ys).report = .error e) ∧
    (∀ first second,
      (check config catalog xs).report = .ok first →
      (check config catalog ys).report = .ok second →
      ∃ whole,
        (check config catalog (xs ++ ys)).report =
            .ok whole ∧
        whole.statements =
          first.statements ++
            second.statements.map
              (StatementReport.shift xs.length) ∧
        whole.summary.total =
          first.summary.total + second.summary.total ∧
        (∀ r, whole.summary.byRisk.get r =
          first.summary.byRisk.get r +
            second.summary.byRisk.get r) ∧
        (∀ c, whole.summary.byCategory.get c =
          first.summary.byCategory.get c +
            second.summary.byCategory.get c) ∧
        whole.summary.suppressed =
          first.summary.suppressed +
            second.summary.suppressed ∧
        whole.summary.statements =
          first.summary.statements +
            second.summary.statements) ∧
    (∀ zs, xs.Perm zs → ∀ first,
      (check config catalog xs).report = .ok first →
      ∃ other,
        (check config catalog zs).report = .ok other ∧
        other.summary = first.summary) := by
  refine ⟨?_, ?_, ?_⟩
  · intro e
    rw [Run.report_eq_error_iff, Run.report_eq_error_iff,
      Run.report_eq_error_iff, Run.exists_report_iff,
      firstFault_append, Option.or_eq_some_iff,
      firstFault_eq_none_iff]
  · intro first second hFirst hSecond
    rcases (Run.report_eq_ok_iff _ _ _ _).mp hFirst with
      ⟨hXs, rfl⟩
    rcases (Run.report_eq_ok_iff _ _ _ _).mp hSecond with
      ⟨hYs, rfl⟩
    refine ⟨answeredReport config catalog (xs ++ ys),
      (Run.report_eq_ok_iff _ _ _ _).mpr
        ⟨allAnswer_append_iff.mpr ⟨hXs, hYs⟩, rfl⟩,
      answeredReport_statements_append config catalog xs ys,
      ?_⟩
    rw [answeredReport_summary_append]
    simp
  · intro zs hPerm first hFirst
    rcases (Run.report_eq_ok_iff _ _ _ _).mp hFirst with
      ⟨hXs, rfl⟩
    exact ⟨answeredReport config catalog zs,
      (Run.report_eq_ok_iff _ _ _ _).mpr
        ⟨hXs.perm hPerm, rfl⟩,
      (answeredReport_summary_perm config catalog
        hPerm).symm⟩

/-
  Of three statements two are long; the report on all three
  is put together from that on two and that on the last.
-/
theorem report_of_append_of_long_rule :
    let catalog : List Rule := [.longSample]
    let config : Configuration :=
      ⟨.warning, .flag false, .flag false, .text "mysql"⟩
    let xs := ["x".toList, "SELECT 1".toList]
    let ys := ["SELECT 2".toList]
    ∃ first second whole other,
      (check config catalog xs).report = .ok first ∧
        (check config catalog ys).report = .ok second ∧
        (check config catalog (xs ++ ys)).report =
          .ok whole ∧
        (check config catalog xs.reverse).report =
          .ok other ∧
        whole.findings.map Finding.index = [1, 2] ∧
        whole.statements =
          first.statements ++
            second.statements.map
              (StatementReport.shift 2) ∧
        whole.summary.total =
          first.summary.total + second.summary.total ∧
        other.summary = first.summary := by
  intro catalog config xs ys
  have hAppend := report_of_append config catalog xs ys
  rcases hAppend.2.1 _ _ rfl rfl with
    ⟨whole, hWhole, hStatements, hTotal, _⟩
  rcases hAppend.2.2 xs.reverse
    (List.reverse_perm xs).symm _ rfl with
    ⟨other, hOther, hSummary⟩
  refine ⟨_, _, whole, other, rfl, rfl, hWhole, hOther, ?_,
    hStatements, hTotal, hSummary⟩
  rw [Report.findings, hStatements]
  rfl

end SqlAudit
