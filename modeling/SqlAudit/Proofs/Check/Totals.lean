import Mathlib.Algebra.BigOperators.Group.List.Basic
import SqlAudit.Proofs.Check.Accounting

/-
  Totals add up.

  Totals are added count by count, which makes them a
  commutative monoid.  To count something is to add what it
  comes to when it is counted alone, so neither the order of
  counting nor the totals at the start matter to it.

  Key definitions include:
    * `SqlAudit.Verdict.totals`
    * `SqlAudit.Inspection.totals`
    * `SqlAudit.totalsOn`

  Key theorems include:
    * `SqlAudit.Tally.foldl_add_eq`
    * `SqlAudit.Inspection.addTo_eq`
    * `SqlAudit.answeredReport_summary`
-/

------------------------------------------------------------
-- Sums Of Counts
------------------------------------------------------------

namespace SqlAudit

namespace RiskCounts

instance : Zero RiskCounts where
  zero := {}

instance : Add RiskCounts where
  add a b :=
    ⟨a.info + b.info, a.warning + b.warning,
      a.error + b.error⟩

@[simp] theorem get_zero
    (r : Risk) :
    (0 : RiskCounts).get r = 0 := by
  cases r <;> rfl

@[simp] theorem get_add
    (a b : RiskCounts)
    (r : Risk) :
    (a + b).get r = a.get r + b.get r := by
  cases r <;> rfl

/- Counts are determined tier by tier. -/
theorem eq_of_get_eq
    {a b : RiskCounts}
    (hGet : ∀ r, a.get r = b.get r) :
    a = b := by
  rcases a with ⟨i, w, e⟩
  rcases b with ⟨i', w', e'⟩
  have hInfo : i = i' := hGet .info
  have hWarning : w = w' := hGet .warning
  have hError : e = e' := hGet .error
  rw [hInfo, hWarning, hError]

instance : AddCommMonoid RiskCounts where
  add_assoc a b c := eq_of_get_eq fun r => by
    simp [Nat.add_assoc]
  zero_add a := eq_of_get_eq fun r => by simp
  add_zero a := eq_of_get_eq fun r => by simp
  add_comm a b := eq_of_get_eq fun r => by
    simp [Nat.add_comm]
  nsmul := nsmulRec

theorem bump_eq_add
    (counts : RiskCounts)
    (r : Risk) :
    counts.bump r = counts + bump 0 r :=
  eq_of_get_eq fun s => by simp [get_bump]

end RiskCounts

namespace CategoryCounts

instance : Zero CategoryCounts where
  zero := {}

instance : Add CategoryCounts where
  add a b :=
    ⟨a.logicalDesign + b.logicalDesign,
      a.physicalDesign + b.physicalDesign,
      a.query + b.query, a.application + b.application⟩

@[simp] theorem get_zero
    (c : Category) :
    (0 : CategoryCounts).get c = 0 := by
  cases c <;> rfl

@[simp] theorem get_add
    (a b : CategoryCounts)
    (c : Category) :
    (a + b).get c = a.get c + b.get c := by
  cases c <;> rfl

/- Counts are determined category by category. -/
theorem eq_of_get_eq
    {a b : CategoryCounts}
    (hGet : ∀ c, a.get c = b.get c) :
    a = b := by
  rcases a with ⟨l, p, q, d⟩
  rcases b with ⟨l', p', q', d'⟩
  have hLogical : l = l' := hGet .logicalDesign
  have hPhysical : p = p' := hGet .physicalDesign
  have hQuery : q = q' := hGet .query
  have hApplication : d = d' := hGet .application
  rw [hLogical, hPhysical, hQuery, hApplication]

instance : AddCommMonoid CategoryCounts where
  add_assoc a b c := eq_of_get_eq fun d => by
    simp [Nat.add_assoc]
  zero_add a := eq_of_get_eq fun d => by simp
  add_zero a := eq_of_get_eq fun d => by simp
  add_comm a b := eq_of_get_eq fun d => by
    simp [Nat.add_comm]
  nsmul := nsmulRec

theorem bump_eq_add
    (counts : CategoryCounts)
    (c : Category) :
    counts.bump c = counts + bump 0 c :=
  eq_of_get_eq fun d => by simp [get_bump]

end CategoryCounts

end SqlAudit

------------------------------------------------------------
-- Sums Of Totals
------------------------------------------------------------

namespace SqlAudit

attribute [ext] Tally

namespace Tally

instance : Zero Tally where
  zero := {}

instance : Add Tally where
  add a b :=
    { byRisk := a.byRisk + b.byRisk
      byCategory := a.byCategory + b.byCategory
      suppressed := a.suppressed + b.suppressed
      statements := a.statements + b.statements }

@[simp] theorem byRisk_add
    (a b : Tally) :
    (a + b).byRisk = a.byRisk + b.byRisk := rfl

@[simp] theorem byCategory_add
    (a b : Tally) :
    (a + b).byCategory = a.byCategory + b.byCategory := rfl

@[simp] theorem suppressed_add
    (a b : Tally) :
    (a + b).suppressed = a.suppressed + b.suppressed := rfl

@[simp] theorem statements_add
    (a b : Tally) :
    (a + b).statements = a.statements + b.statements := rfl

instance : AddCommMonoid Tally where
  add_assoc a b c :=
    Tally.ext (add_assoc _ _ _) (add_assoc _ _ _)
      (add_assoc _ _ _) (add_assoc _ _ _)
  zero_add a :=
    Tally.ext (zero_add _) (zero_add _) (zero_add _)
      (zero_add _)
  add_zero a :=
    Tally.ext (add_zero _) (add_zero _) (add_zero _)
      (add_zero _)
  add_comm a b :=
    Tally.ext (add_comm _ _) (add_comm _ _) (add_comm _ _)
      (add_comm _ _)
  nsmul := nsmulRec

@[simp] theorem total_add
    (a b : Tally) :
    (a + b).total = a.total + b.total := by
  simp only [total, Risk.all, List.map_cons, List.map_nil,
    List.foldr_cons, List.foldr_nil, byRisk_add,
    RiskCounts.get_add]
  omega

end Tally

end SqlAudit

------------------------------------------------------------
-- What Is Counted
------------------------------------------------------------

namespace SqlAudit

/- The totals of one verdict. -/
def Verdict.totals (v : Verdict) : Tally :=
  Tally.add 0 v

namespace Tally

theorem add_eq
    (t : Tally)
    (v : Verdict) :
    t.add v = t + v.totals := by
  cases v with
  | silent => exact (add_zero t).symm
  | suppressed index ruleId level =>
      exact Tally.ext (add_zero _).symm (add_zero _).symm
        (congrArg (t.suppressed + ·) (zero_add 1).symm)
        (add_zero _).symm
  | reported f =>
      exact Tally.ext (RiskCounts.bump_eq_add _ _)
        (CategoryCounts.bump_eq_add _ _) (add_zero _).symm
        (add_zero _).symm

/- Verdicts are counted one by one. -/
theorem foldl_add_eq
    (t : Tally)
    (vs : List Verdict) :
    vs.foldl Tally.add t =
      t + (vs.map Verdict.totals).sum := by
  induction vs generalizing t with
  | nil => exact (add_zero t).symm
  | cons v vs ih =>
      rw [List.foldl_cons, ih, add_eq, List.map_cons,
        List.sum_cons, add_assoc]

theorem countStatement_add
    (a b : Tally) :
    (a + b).countStatement = a + b.countStatement := rfl

end Tally

/- The totals of one inspection. -/
def Inspection.totals (i : Inspection) : Tally :=
  i.addTo 0

theorem Inspection.addTo_eq
    (t : Tally)
    (i : Inspection) :
    i.addTo t = t + i.totals := by
  unfold totals addTo
  simp only [Tally.foldl_add_eq, zero_add]
  split
  · exact Tally.countStatement_add _ _
  · rfl

/- What an inspection without a fault adds to totals. -/
theorem Inspection.totals_of_fault_eq_none
    {i : Inspection}
    (hFault : i.fault = none) :
    i.totals =
      (i.verdicts.map Verdict.totals).sum.countStatement := by
  simp [totals, addTo, hFault, Tally.foldl_add_eq]

/- Verdicts are not counted as statements. -/
theorem Tally.statements_foldl_add
    (t : Tally)
    (vs : List Verdict) :
    (vs.foldl Tally.add t).statements = t.statements := by
  induction vs generalizing t with
  | nil => rfl
  | cons v vs ih =>
      rw [List.foldl_cons, ih]
      cases v <;> rfl

theorem Inspection.statements_addTo
    {i : Inspection}
    (hFault : i.fault = none)
    (t : Tally) :
    (i.addTo t).statements = t.statements + 1 := by
  simp [addTo, hFault, Tally.countStatement,
    Tally.statements_foldl_add]

/- Inspections are counted one by one. -/
theorem foldl_addTo_eq
    (t : Tally)
    (is : List Inspection) :
    is.foldl (fun t i => i.addTo t) t =
      t + (is.map Inspection.totals).sum := by
  induction is generalizing t with
  | nil => exact (add_zero t).symm
  | cons i is ih =>
      rw [List.foldl_cons, ih, i.addTo_eq, List.map_cons,
        List.sum_cons, add_assoc]

end SqlAudit

------------------------------------------------------------
-- Totals By Statement
------------------------------------------------------------

namespace SqlAudit

/- What the rules of a catalog add for a statement. -/
def totalsOn
    (config : Configuration)
    (catalog : List Rule)
    (s : Statement) : Tally :=
  (answered config catalog 0 s).totals

/- A verdict counts the same on every index. -/
theorem Rule.totals_answer
    (config : Configuration)
    (index : Int)
    (s : Statement)
    (rule : Rule) :
    (rule.answer config index s).totals =
      (rule.answer config 0 s).totals := by
  unfold answer
  cases rule.firing? s with
  | none => rfl
  | some count =>
      by_cases hRisk : config.minRisk ≤ rule.risk
      · simp only [hRisk, if_true]
        rfl
      · simp only [hRisk, if_false]
        rfl

theorem totals_answered
    (config : Configuration)
    (catalog : List Rule)
    (index : Int)
    (s : Statement) :
    (answered config catalog index s).totals =
      totalsOn config catalog s := by
  have hVerdicts :
      catalog.map (fun rule =>
          (rule.answer config index s).totals) =
        catalog.map (fun rule =>
          (rule.answer config 0 s).totals) := by
    refine List.map_congr_left ?_
    intro rule _
    exact rule.totals_answer config index s
  simp only [totalsOn, Inspection.totals, Inspection.addTo,
    answered, Tally.foldl_add_eq, List.map_map,
    Function.comp_def, hVerdicts]

/- The summary of a report is the sum over its texts. -/
theorem answeredReport_summary
    (config : Configuration)
    (catalog : List Rule)
    (texts : List (List Char)) :
    (answeredReport config catalog texts).summary =
      (texts.map fun text =>
        totalsOn config catalog (.ofText text)).sum := by
  have hTexts :
      (answeredFrom config catalog 0 texts).map
          Inspection.totals =
        texts.map fun text =>
          totalsOn config catalog (.ofText text) := by
    conv => rhs; rw [← List.zipIdx_map_fst 0 texts]
    simp only [answeredFrom, List.map_map, Function.comp_def,
      totals_answered]
  have hSum :=
    foldl_addTo_eq 0 (answeredFrom config catalog 0 texts)
  rw [hTexts, zero_add] at hSum
  exact hSum

end SqlAudit
