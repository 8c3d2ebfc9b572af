import SqlAudit.Rule.Draft

/-
  A rule for examples.

  The rule fires on every statement of three characters or
  more, so what a check comes to with it can be told by eye.

  Key definitions include:
    * `SqlAudit.Draft.longSample`
    * `SqlAudit.Rule.longSample`
-/

------------------------------------------------------------
-- A Rule About Long Statements
------------------------------------------------------------

namespace SqlAudit

/- The draft of the rule. -/
def Draft.longSample : Draft where
  className := "Long"
  kind := .length
  id := some (.text "a")
  title := some (.text "A")
  category := some (.text "query")
  risk := some (.text "error")
  message := some (.text "m")
  leastLength := some (.integer 3)

/- The rule that the draft builds. -/
def Rule.longSample : Rule where
  className := "Long"
  id := .text "a"
  title := .text "A"
  category := .query
  risk := .error
  message := .text "m"
  guard := .always
  test := .long 3

end SqlAudit
