/-
  Line ends.

  Key definitions include:
    * `SqlAudit.Text.unifyLines`
-/

------------------------------------------------------------
-- Line Ends
------------------------------------------------------------

namespace SqlAudit.Text

/-
  A text in which every line ends with a line feed, whether
  it ended with one, with a carriage return, or with both.
-/
def unifyLines : List Char → List Char
| [] => []
| '\r' :: '\n' :: rest => '\n' :: unifyLines rest
| '\r' :: rest => '\n' :: unifyLines rest
| c :: rest => c :: unifyLines rest

end SqlAudit.Text
