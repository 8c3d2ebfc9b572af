/-
  Cutting a text at a mark.

  Key definitions include:
    * `SqlAudit.Text.cutAt`
-/

------------------------------------------------------------
-- Parts Between Marks
------------------------------------------------------------

namespace SqlAudit.Text

/- The parts of a text between marks, empty ones included. -/
def cutAt
    (mark : Char) :
    List Char → List (List Char)
| [] => [[]]
| c :: rest =>
    if c == mark then
      [] :: cutAt mark rest
    else
      match cutAt mark rest with
      | part :: parts => (c :: part) :: parts
      | [] => [[c]]

end SqlAudit.Text
