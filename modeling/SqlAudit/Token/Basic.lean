/-
  Tokens of an SQL text.

  A token is a span of the text. Only a few kinds matter: the
  semicolon ends a statement, and the other kinds decide how
  the text after them is read.

  Key definitions include:
    * `SqlAudit.Token`
    * `SqlAudit.Token.slice`
-/

------------------------------------------------------------
-- Tokens
------------------------------------------------------------

namespace SqlAudit

/-
  The kinds of tokens. A command takes the rest of its
  statement as it is; it stands first, after a semicolon or
  after the opening of a block. A parameter mark is followed
  by a name or a number, and a hint may follow a verb that
  takes one.
-/
inductive Token.Kind where
| semicolon
| opening
| command
| parameter
| hintable
| other
  deriving Repr, DecidableEq

/- The characters from `start` up to `stop`, of one kind. -/
structure Token where
  kind : Token.Kind
  start : Nat
  stop : Nat
  deriving Repr, DecidableEq

namespace Token

/- The token ends a statement. -/
def isSemicolon (t : Token) : Bool :=
  t.kind == .semicolon

/- The characters of a token. -/
def slice
    (text : List Char)
    (t : Token) : List Char :=
  (text.drop t.start).take (t.stop - t.start)

end Token

end SqlAudit
