import SqlAudit.Value

/-
  The parts of database work that anti-patterns belong to.

  Key definitions include:
    * `SqlAudit.Category`
    * `SqlAudit.Category.ofValue?`
    * `SqlAudit.Category.title`
-/

------------------------------------------------------------
-- Categories
------------------------------------------------------------

namespace SqlAudit

/- Which part of database work an anti-pattern is about. -/
inductive Category where
| logicalDesign
| physicalDesign
| query
| application
  deriving Repr, DecidableEq

namespace Category

/- All categories, in the order of reports. -/
def all : List Category :=
  [.logicalDesign, .physicalDesign, .query, .application]

/- The name of a category in data. -/
def name : Category → String
| .logicalDesign => "logical_design"
| .physicalDesign => "physical_design"
| .query => "query"
| .application => "application"

/- The category that a value names. -/
def ofValue? : Value → Option Category
| .text s => all.find? fun c => c.name == s
| _ => none

/- What a category is called in print. -/
def title : Category → String
| .logicalDesign => "Logical Database Design Anti-Pattern"
| .physicalDesign => "Physical Database Design Anti-Pattern"
| .query => "Query Anti-Pattern"
| .application => "Application Development Anti-Pattern"

end Category

end SqlAudit
