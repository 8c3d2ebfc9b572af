/-
  Sets of characters given by intervals of code points.

  Key definitions include:
    * `SqlAudit.Text.Ranges`
    * `SqlAudit.Text.Ranges.has`
-/

------------------------------------------------------------
-- Intervals Of Code Points
------------------------------------------------------------

namespace SqlAudit.Text

/- A list of closed intervals of code points. -/
abbrev Ranges := List (Nat × Nat)

/- Some interval holds the character. -/
def Ranges.has
    (ranges : Ranges)
    (c : Char) : Bool :=
  ranges.any fun range =>
    range.1 ≤ c.toNat && c.toNat ≤ range.2

end SqlAudit.Text
