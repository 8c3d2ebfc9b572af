/-
  Cutting a list into pieces.

  Key definitions include:
    * `SqlAudit.pieces`
-/

------------------------------------------------------------
-- Pieces Between Cuts
------------------------------------------------------------

namespace SqlAudit

variable {α : Type}

/-
  Put one more element in front of the pieces of a list. The
  flag says whether that list begins with a piece, so that
  the element joins it.
-/
def attach
    (cut : α → Bool)
    (x : α) :
    List (List α) × Bool → List (List α) × Bool
| (ps, joined) =>
    if cut x then
      (ps, false)
    else
      match ps, joined with
      | p :: rest, true => ((x :: p) :: rest, true)
      | ps, _ => ([x] :: ps, true)

/-
  The maximal non-empty runs of elements that are no cuts,
  in order.
-/
def pieces
    (cut : α → Bool)
    (xs : List α) : List (List α) :=
  (xs.foldr (attach cut) ([], false)).1

end SqlAudit
