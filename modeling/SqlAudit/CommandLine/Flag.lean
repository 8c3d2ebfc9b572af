import SqlAudit.Category

/-
  The options of the command line.

  Key definitions include:
    * `SqlAudit.Flag`
    * `SqlAudit.Flag.spellings`
    * `SqlAudit.Flag.arity`
    * `SqlAudit.Flag.ofSpelling?`
-/

------------------------------------------------------------
-- Flags
------------------------------------------------------------

namespace SqlAudit

/- The options, in the order in which help lists them. -/
inductive Flag where
| help
| riskLevel
| verbose
| color
| dialect
| rules
| categories
| output
| listRules
| debug
  deriving Repr, DecidableEq

/- How many values an option takes. -/
inductive Arity where
| none
| one
| many
  deriving Repr, DecidableEq

namespace Flag

/- All options. -/
def all : List Flag :=
  [ .help, .riskLevel, .verbose, .color, .dialect, .rules,
    .categories, .output, .listRules, .debug ]

/- The spellings of an option. -/
def spellings : Flag → List String
| .help => ["-h", "--help"]
| .riskLevel => ["-r", "--risk-level"]
| .verbose => ["-v", "--verbose"]
| .color => ["-c", "--color"]
| .dialect => ["--dialect"]
| .rules => ["--rules"]
| .categories => ["--categories"]
| .output => ["--output", "-o"]
| .listRules => ["--list-rules"]
| .debug => ["--debug"]

/- The number of values of an option. -/
def arity : Flag → Arity
| .riskLevel | .dialect | .output => .one
| .rules | .categories => .many
| _ => .none

/- The option in messages. -/
def label (f : Flag) : List Char :=
  ['/'].intercalate (f.spellings.map String.toList)

/- All spellings with their options. -/
def spelled : List (List Char × Flag) :=
  all.flatMap fun f =>
    f.spellings.map fun s => (s.toList, f)

/- The option of a spelling. -/
def ofSpelling?
    (s : List Char) : Option Flag :=
  (spelled.find? (·.1 == s)).map (·.2)

/- The values that `--categories` takes. -/
def choices : List (List Char) :=
  Category.all.map fun c => c.name.toList

end Flag

end SqlAudit
