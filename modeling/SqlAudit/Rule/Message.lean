import SqlAudit.Rule.Draft

/-
  The text that explains a rule.

  Key definitions include:
    * `SqlAudit.Rule.explanation`
-/

------------------------------------------------------------
-- Explanations
------------------------------------------------------------

namespace SqlAudit

/- Lines of text, each with a line feed after it. -/
def Rule.explanation (lines : List String) : Value :=
  .text (String.join (lines.map fun line => line ++ "\n"))

end SqlAudit
