import SqlAudit.CommandLine.Flag
import SqlAudit.Text.Quoted

/-
  What the command line says about its use.

  Key definitions include:
    * `SqlAudit.Misuse`
    * `SqlAudit.Misuse.message`
    * `SqlAudit.CommandLine.usage`
    * `SqlAudit.CommandLine.help`
-/

------------------------------------------------------------
-- Misuse
------------------------------------------------------------

namespace SqlAudit

/- Why arguments are not understood. -/
inductive Misuse where
| ambiguous (given : List Char) (spellings : List (List Char))
| expectedValue (flag : Flag)
| unexpectedValue (flag : Flag) (value : List Char)
| notAnInteger (value : List Char)
| notAChoice (value : List Char)
| unrecognized (arguments : List (List Char))
  deriving Repr, DecidableEq

namespace Misuse

/- The start of a message about an option. -/
def about (f : Flag) : List Char :=
  "argument ".toList ++ f.label ++ ": ".toList

/- The wording of an error. -/
def message : Misuse → List Char
| .ambiguous given spellings =>
    "ambiguous option: ".toList ++ given ++
      " could match ".toList ++ ", ".toList.intercalate spellings
| .expectedValue f =>
    about f ++ "expected one argument".toList
| .unexpectedValue f value =>
    about f ++ "ignored explicit argument ".toList ++
      Text.quoted value
| .notAnInteger value =>
    about .riskLevel ++ "invalid int value: ".toList ++
      Text.quoted value
| .notAChoice value =>
    about .categories ++ "invalid choice: ".toList ++
      Text.quoted value ++ " (choose from ".toList ++
      ", ".toList.intercalate (Flag.choices.map Text.quoted) ++
      [')']
| .unrecognized arguments =>
    "unrecognized arguments: ".toList ++
      [' '].intercalate arguments

end Misuse

end SqlAudit

------------------------------------------------------------
-- Usage And Help
------------------------------------------------------------

namespace SqlAudit.CommandLine

/- The name of the program. -/
def program : List Char := "sqlcheck".toList

/- The categories between braces. -/
def choiceList : List Char :=
  '\x7b' :: [','].intercalate Flag.choices ++ ['\x7d']

/- The usage line. -/
def usage : List Char :=
  "usage: ".toList ++ program ++
    " [-h] [-r RISK_LEVEL] [-v] [-c] [--dialect DIALECT]".toList ++
    " [--rules [RULES ...]] [--categories [".toList ++
    choiceList ++
    " ...]] [--output OUTPUT] [--list-rules] [--debug]".toList ++
    " [sql_file]\n".toList

/- What the options are for. -/
def help : List Char :=
  let lines := fun (ls : List String) =>
    (ls.map fun l => l.toList ++ ['\n']).flatten
  usage ++ lines
    [ "",
      "Detect anti-patterns in SQL statements.",
      "",
      "positional arguments:",
      "  sql_file              Path to SQL file. If not provided, reads from stdin.",
      "",
      "options:",
      "  -h, --help            show this help message and exit",
      "  -r RISK_LEVEL, --risk-level RISK_LEVEL",
      "                        Minimum risk to report: 1 = all anti-patterns and hints, 2 = medium and high risk, 3 = high risk only (default: 1).",
      "  -v, --verbose         Echo each offending statement and explain every anti-pattern.",
      "  -c, --color           Colorize output.",
      "  --dialect DIALECT     SQL dialect whose tokenizer splits statements (default: postgres).",
      "  --rules [RULES ...]   Specific rule IDs to run (e.g., query.select_star)." ] ++
    "  --categories [".toList ++ choiceList ++ lines
    [ " ...]",
      "                        Rule categories to run (default: all).",
      "  --output OUTPUT, -o OUTPUT",
      "                        Also write a JSON report to this path.",
      "  --list-rules          List the rule catalog and exit.",
      "  --debug               Enable debug logging." ]

/- What is said about a misuse. -/
def complaint (e : Misuse) : List Char :=
  usage ++ program ++ ": error: ".toList ++ e.message ++ ['\n']

end SqlAudit.CommandLine
