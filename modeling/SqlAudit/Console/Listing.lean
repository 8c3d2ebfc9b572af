import SqlAudit.Console.Style
import SqlAudit.Registry

/-
  The table of the registered rules.

  Key definitions include:
    * `SqlAudit.Cell`
    * `SqlAudit.Table.render`
    * `SqlAudit.Registry.listing`
-/

------------------------------------------------------------
-- Tables
------------------------------------------------------------

namespace SqlAudit

/- A cell of a table. -/
structure Cell where
  text : List Char
  style : Option Style := none
  deriving Repr, DecidableEq

/- A table with a title and a heading for each column. -/
structure Table where
  title : List Char
  headings : List (List Char)
  rows : List (List Cell)
  deriving Repr, DecidableEq

/- The corners and lines of one rule across a table. -/
structure Border where
  left : Char
  line : Char
  cross : Char
  right : Char
  deriving Repr, DecidableEq

namespace Border

/- The rule above the headings. -/
def top : Border := ⟨'┏', '━', '┳', '┓'⟩

/- The rule below the headings. -/
def middle : Border := ⟨'┡', '━', '╇', '┩'⟩

/- The rule below the rows. -/
def bottom : Border := ⟨'└', '─', '┴', '┘'⟩

/- The rule across columns of the given widths. -/
def across
    (b : Border)
    (widths : List Nat) : List Char :=
  b.left :: [b.cross].intercalate
    (widths.map fun w => List.replicate (w + 2) b.line) ++
    [b.right]

end Border

namespace Table

/- The longest text of each column. -/
def widths (t : Table) : List Nat :=
  t.rows.foldl
    (fun ws row =>
      List.zipWith (fun w (c : Cell) => max w c.text.length)
        ws row)
    (t.headings.map List.length)

/- Spaces up to a width. -/
def padding
    (width : Nat)
    (s : List Char) : List Char :=
  List.replicate (width - s.length) ' '

/- Cells between bars. -/
def bars
    (bar : Char)
    (cells : List (List Char)) : List Char :=
  bar :: [bar].intercalate cells ++ [bar]

/- A heading with a space on either side. -/
def heading
    (color : Bool)
    (width : Nat)
    (s : List Char) : List Char :=
  let bold := Style.bold.paint color
  bold [' '] ++ bold (s ++ padding width s) ++ bold [' ']

/- A cell with a space on either side. -/
def cell
    (color : Bool)
    (width : Nat)
    (c : Cell) : List Char :=
  let text :=
    match c.style with
    | some style => style.paint color c.text
    | none => c.text
  ' ' :: text ++ padding width c.text ++ [' ']

/- The title in the middle; an odd space is on its right. -/
def centered
    (width : Nat)
    (s : List Char) : List Char :=
  let excess := width - s.length
  List.replicate (excess / 2) ' ' ++ s ++
    List.replicate (excess - excess / 2) ' '

/- The lines of a table. -/
def lines
    (t : Table)
    (color : Bool) : List (List Char) :=
  let widths := t.widths
  let top := Border.top.across widths
  [ Style.italic.paint color (centered top.length t.title),
    top,
    bars '┃'
      (List.zipWith (heading color) widths t.headings),
    Border.middle.across widths ] ++
    t.rows.map (fun row =>
      bars '│' (List.zipWith (cell color) widths row)) ++
    [ Border.bottom.across widths ]

/- The text of a table. -/
def render
    (t : Table)
    (color : Bool) : List Char :=
  ((t.lines color).map fun l => l ++ ['\n']).flatten

end Table

end SqlAudit

------------------------------------------------------------
-- The Listing
------------------------------------------------------------

namespace SqlAudit

/- A rule as a row of the listing. -/
def Rule.row (rule : Rule) : List Cell :=
  [ { text := Console.clean rule.id.display },
    { text := Console.clean rule.title.display },
    { text := rule.category.title.toList },
    { text := rule.risk.label.toList
      style := some rule.risk.style } ]

/- The registered rules as a table. -/
def Registry.listing (registry : Registry) : Table where
  title := "SQL anti-pattern rules".toList
  headings :=
    [ "Rule ID".toList, "Title".toList, "Category".toList,
      "Risk".toList ]
  rows := registry.rules.map Rule.row

end SqlAudit
