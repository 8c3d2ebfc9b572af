import SqlAudit.Text.Blank
import SqlAudit.Text.Lowercase
import SqlAudit.Text.Occurrence

/-
  SQL statements and the facts that rules ask about.

  Nothing here parses SQL. A statement is its text in small
  letters, and the facts look for fixed clauses in it.

  Key definitions include:
    * `SqlAudit.normalize`
    * `SqlAudit.Statement`
    * `SqlAudit.Statement.ofText`
    * `SqlAudit.Statement.tableName`
-/

------------------------------------------------------------
-- Normal Form Of A Text
------------------------------------------------------------

namespace SqlAudit

/-
  The text in small letters, with single spaces between its
  words and none at its ends.
-/
def normalize (text : List Char) : List Char :=
  Text.lower (Text.unwords (Text.words text))

end SqlAudit

------------------------------------------------------------
-- Facts Of A Text
------------------------------------------------------------

namespace SqlAudit

/- The clause that creates a table. -/
def createTable : List Char :=
  "create table".toList

/- The clause that alters a table. -/
def alterTable : List Char :=
  "alter table".toList

/- The text creates or alters a table somewhere. -/
def isDdl (text : List Char) : Bool :=
  Text.occurs createTable text || Text.occurs alterTable text

/- The text creates a table somewhere. -/
def isCreate (text : List Char) : Bool :=
  Text.occurs createTable text

/-
  The name of the first table that the text creates: the
  first word after the clause, whatever it holds. There is
  none if only blanks follow the clause.
-/
def tableName (text : List Char) : Option (List Char) :=
  match Text.after? createTable text with
  | some rest => (Text.words rest).head?
  | none => none

end SqlAudit

------------------------------------------------------------
-- Statements
------------------------------------------------------------

namespace SqlAudit

/- One SQL statement, held by its text in small letters. -/
structure Statement where
  text : List Char
  deriving Repr, DecidableEq

namespace Statement

/- The statement with the given text, in any letter case. -/
def ofText (text : List Char) : Statement where
  text := Text.lower text

/- The statement creates or alters a table. -/
def isDdl (s : Statement) : Bool :=
  SqlAudit.isDdl s.text

/- The statement creates a table. -/
def isCreate (s : Statement) : Bool :=
  SqlAudit.isCreate s.text

/- The name of the table that the statement creates. -/
def tableName (s : Statement) : Option (List Char) :=
  SqlAudit.tableName s.text

end Statement

end SqlAudit
