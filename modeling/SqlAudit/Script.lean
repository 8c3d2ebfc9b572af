import SqlAudit.Dialect.Choice
import SqlAudit.Pieces
import SqlAudit.Statement
import SqlAudit.Token.Scan

/-
  Scripts: texts of SQL statements.

  The statements of a script are the pieces of its tokens
  between semicolons. A statement is put together from its
  tokens, with one space wherever something stood between
  two of them, so that comments are left out.

  Key definitions include:
    * `SqlAudit.Script.joined`
    * `SqlAudit.Script.assemble`
    * `SqlAudit.Script.statements`
-/

------------------------------------------------------------
-- Statements From Tokens
------------------------------------------------------------

namespace SqlAudit.Script

/-
  The texts of tokens one after the other, the first one
  after a token that stopped at `stop`, with a space for each
  gap.
-/
def joinedAfter
    (text : List Char) :
    (stop : Nat) → List Token → List Char
| _, [] => []
| stop, t :: rest =>
    (if t.start > stop then [' '] else []) ++
      t.slice text ++ joinedAfter text t.stop rest

/- The text of a run of tokens. -/
def joined
    (text : List Char) :
    List Token → List Char
| [] => []
| t :: rest => t.slice text ++ joinedAfter text t.stop rest

/- The runs of tokens between semicolons. -/
def runs (tokens : List Token) : List (List Token) :=
  pieces Token.isSemicolon tokens

/- The statements of a text with the given tokens. -/
def assemble
    (text : List Char)
    (tokens : List Token) : List (List Char) :=
  (runs tokens).map fun run => normalize (joined text run)

end SqlAudit.Script

------------------------------------------------------------
-- Statements Of A Script
------------------------------------------------------------

namespace SqlAudit.Script

/-
  Why a script has no statements: its dialect is unknown, or
  it cannot be divided into tokens. The context is the text
  around the place where that was seen.
-/
inductive Error where
| dialect (cause : Configuration.Error)
| unreadable (context : List Char)
  deriving Repr

namespace Error

/- The error as it is reported. -/
def message : Error → List Char
| .dialect cause => cause.message
| .unreadable context =>
    "Could not split SQL into statements: ".toList ++
      "Error tokenizing '".toList ++ context ++ ['\x27']

end Error

/-
  Up to 50 characters on either side of the place that is
  `left` characters from the end; the last character of the
  text is never shown.
-/
def context
    (text : List Char)
    (left : Nat) : List Char :=
  let place := text.length + 1 - left
  let start := place - 50
  let stop := min (place + 50) (text.length - 1)
  (text.drop start).take (stop - start)

/- The normalized statements of a script. -/
def statements
    (text : List Char)
    (dialect : Value) : Except Error (List (List Char)) :=
  match Dialect.choose dialect with
  | .error cause => .error (.dialect cause)
  | .ok d =>
      match d.tokens text with
      | .error left => .error (.unreadable (context text left))
      | .ok tokens => .ok (assemble text tokens)

end SqlAudit.Script
