import SqlAudit.Catalog.Application
import SqlAudit.Catalog.LogicalDesign
import SqlAudit.Catalog.PhysicalDesign
import SqlAudit.Catalog.Query
import SqlAudit.Registry

/-
  The registry of the built-in rules.

  Key definitions include:
    * `SqlAudit.Catalog.drafts`
    * `SqlAudit.Registry.standard`
-/

------------------------------------------------------------
-- Built-In Rules
------------------------------------------------------------

namespace SqlAudit

/- The built-in rules in the order in which they are run. -/
def Catalog.drafts : List Draft :=
  LogicalDesign.drafts ++ PhysicalDesign.drafts ++
    Query.drafts ++ Application.drafts

/- The registry of the built-in rules. -/
def Registry.standard : Registry :=
  (Registry.ofDrafts Catalog.drafts).toOption.getD .empty

end SqlAudit
