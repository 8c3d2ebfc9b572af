import SqlAudit.Risk
import SqlAudit.Text.Cell
import SqlAudit.Text.Cut

/-
  Styled text for terminals.

  Key definitions include:
    * `SqlAudit.Style`
    * `SqlAudit.Style.paint`
    * `SqlAudit.Risk.style`
    * `SqlAudit.Console.clean`
-/

------------------------------------------------------------
-- Styles
------------------------------------------------------------

namespace SqlAudit

/- How text can look. -/
inductive Style where
| bold
| italic
| boldRed
| yellow
| cyan
  deriving Repr, DecidableEq

namespace Style

/- The numbers of a style. -/
def code : Style → String
| .bold => "1"
| .italic => "3"
| .boldRed => "1;31"
| .yellow => "33"
| .cyan => "36"

/- Text in a style, if there is any colour at all. -/
def paint
    (color : Bool)
    (style : Style)
    (s : List Char) : List Char :=
  if color then
    "\x1b[".toList ++ style.code.toList ++ 'm' :: s ++
      "\x1b[0m".toList
  else
    s

end Style

/- The style of a risk tier. -/
def Risk.style : Risk → Style
| .error => .boldRed
| .warning => .yellow
| .info => .cyan

end SqlAudit

------------------------------------------------------------
-- Printable Text
------------------------------------------------------------

namespace SqlAudit.Console

/- Control characters that are never printed. -/
def isDropped (c : Char) : Bool :=
  [7, 8, 11, 12, 13].contains c.toNat

/-
  Spaces in place of the tabs between the parts of a line,
  up to the next eighth column.
-/
def expandTabs : (column : Nat) → List (List Char) → List Char
| _, [] => []
| _, [part] => part
| column, part :: parts =>
    let column := column + Text.cells (part ++ [' '])
    let more := (8 - column % 8) % 8
    part ++ List.replicate (1 + more) ' ' ++
      expandTabs (column + more) parts

/- A line as it is printed. -/
def cleanLine (s : List Char) : List Char :=
  expandTabs 0
    (Text.cutAt '\t' (s.filter fun c => !isDropped c))

/- Text as it is printed. -/
def clean (s : List Char) : List Char :=
  ['\n'].intercalate ((Text.cutAt '\n' s).map cleanLine)

end SqlAudit.Console
