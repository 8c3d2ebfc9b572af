import SqlAudit.Value

/-
  Risk tiers of anti-patterns.

  The level of a tier doubles as the least risk that a run
  reports: level 1 reports everything, level 3 only the
  highest tier.

  Key definitions include:
    * `SqlAudit.Risk`
    * `SqlAudit.Risk.level`
    * `SqlAudit.Risk.label`
-/

------------------------------------------------------------
-- Risk Tiers
------------------------------------------------------------

namespace SqlAudit

/- How much an anti-pattern matters, from least to most. -/
inductive Risk where
| info
| warning
| error
  deriving Repr, DecidableEq

namespace Risk

/- All tiers, from least to most. -/
def all : List Risk :=
  [.info, .warning, .error]

/- The number of a tier. -/
def level : Risk → Nat
| .info => 1
| .warning => 2
| .error => 3

/- The tier with the given number. -/
def ofLevel? (n : Int) : Option Risk :=
  all.find? fun r => (r.level : Int) == n

/- The name of a tier in data. -/
def name : Risk → String
| .info => "info"
| .warning => "warning"
| .error => "error"

/- The tier that a value names. -/
def ofValue? : Value → Option Risk
| .text s => all.find? fun r => r.name == s
| _ => none

/- What a tier is called in print. -/
def label : Risk → String
| .info => "Low Risk"
| .warning => "Medium Risk"
| .error => "High Risk"

instance : LE Risk where
  le r s := r.level ≤ s.level

instance (r s : Risk) : Decidable (r ≤ s) :=
  inferInstanceAs (Decidable (r.level ≤ s.level))

end Risk

end SqlAudit
