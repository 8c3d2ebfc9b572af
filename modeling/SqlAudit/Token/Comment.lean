import SqlAudit.Dialect.Basic
import SqlAudit.Text.Blank
import SqlAudit.Token.Literal

/-
  Reading comments.

  Key definitions include:
    * `SqlAudit.Dialect.opensComment`
    * `SqlAudit.Dialect.readComment`
-/

------------------------------------------------------------
-- Comments
------------------------------------------------------------

namespace SqlAudit.Dialect

/-
  A character that may follow two dashes where they need a
  blank after them.
-/
def followsDashes (c : Char) : Bool :=
  Text.isBlank c || c.toNat < 32 || c.toNat == 127

/-
  The mark at the beginning of the text opens the comment.
-/
def opensComment
    (d : Dialect)
    (k : Comment)
    (s : List Char) : Bool :=
  if k.opener == "--".toList && d.dashesNeedBlank then
    (s.drop 2).head?.all followsDashes
  else
    true

/-
  The text after the closing mark of a comment. `depth`
  comments are open around the one that is read, and `inner`
  opens one more.
-/
def blockEnd
    (first second : Char)
    (inner : Option (List Char)) :
    (depth : Nat) → List Char → Reading (List Char)
| _, [] => .error 0
| _, [_] => .error 0
| depth, [c, p] =>
    if c == first && p == second && depth == 0 then .ok []
    else .error 0
| depth, c :: p :: q :: rest =>
    let closes := c == first && p == second
    if closes && depth == 0 then
      .ok (q :: rest)
    else
      let depth := if closes then depth - 1 else depth
      if inner == some [p, q] then
        blockEnd first second inner (depth + 1) rest
      else
        blockEnd first second inner depth (p :: q :: rest)

/- The text after a comment that the text begins with. -/
def readComment
    (d : Dialect)
    (k : Comment)
    (s : List Char) : Reading (List Char) :=
  match k.extent with
  | .line =>
      let inLine := fun c =>
        c != '\n' && !(d.returnEndsLine && c == '\r')
      .ok ((s.drop 1).dropWhile inLine)
  | .block first second => do
      let body ← afterMark k.opener s
      let inner :=
        if d.nestsComments then some k.opener else none
      blockEnd first second inner 0 body

end SqlAudit.Dialect
