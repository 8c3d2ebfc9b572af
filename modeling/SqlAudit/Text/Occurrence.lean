/-
  Where one text occurs in another.

  Key definitions include:
    * `SqlAudit.Text.occurs`
    * `SqlAudit.Text.after?`
-/

------------------------------------------------------------
-- Occurrences Of A Text
------------------------------------------------------------

namespace SqlAudit.Text

/- The text contains `w` as a contiguous piece. -/
def occurs (w : List Char) : List Char → Bool
| [] => w.isEmpty
| c :: rest => w.isPrefixOf (c :: rest) || occurs w rest

/- What follows the first occurrence of `w`, if any. -/
def after? (w : List Char) : List Char → Option (List Char)
| [] => if w.isEmpty then some [] else none
| c :: rest =>
    if w.isPrefixOf (c :: rest) then
      some ((c :: rest).drop w.length)
    else
      after? w rest

end SqlAudit.Text
