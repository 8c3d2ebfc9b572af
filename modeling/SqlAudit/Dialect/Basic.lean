import SqlAudit.Token.Basic

/-
  How the dialects of SQL divide a text into tokens.

  Key definitions include:
    * `SqlAudit.Literal`
    * `SqlAudit.Comment`
    * `SqlAudit.Dialect`
    * `SqlAudit.Dialect.openers`
    * `SqlAudit.Dialect.kindOf`
-/

------------------------------------------------------------
-- Literals and Comments
------------------------------------------------------------

namespace SqlAudit

/-
  What stands between the marks of a literal: any text, a
  number in base 2 or 16, text with escapes of bytes, or text
  between two equal tags.
-/
inductive Literal.Kind where
| plain
| binary
| hexadecimal
| bytes
| tagged
  deriving Repr, DecidableEq

/- A literal by its opening and its closing mark. -/
structure Literal where
  opener : List Char
  closer : Char
  kind : Literal.Kind
  deriving Repr, DecidableEq

/- A comment ends with its line or with two characters. -/
inductive Comment.Extent where
| line
| block (first second : Char)
  deriving Repr, DecidableEq

/- A comment by its opening mark and its extent. -/
structure Comment where
  opener : List Char
  extent : Comment.Extent
  deriving Repr, DecidableEq

end SqlAudit

------------------------------------------------------------
-- Dialects
------------------------------------------------------------

namespace SqlAudit

/-
  The tokens of a dialect.

  A character of `singles` ends a word, unless it is one of
  `joiners`. `quotes` and the marks of `identifiers` enclose
  texts and names; a character of `escapes` before a quote
  takes its meaning away. Comments may be nested, `--` may
  need a blank after it, and a carriage return may end a
  line. Numbers may begin with the mark of their base, have
  underscores, or go on as a name.
-/
structure Dialect where
  phrases : List (List Char)
  singles : List Char
  joiners : List Char
  parameterMarks : List Char
  identifiers : List (Char × Char)
  quotes : List Char
  escapes : List Char
  byteEscapes : List Char
  literals : List Literal
  comments : List Comment
  nestsComments : Bool
  dashesNeedBlank : Bool
  returnEndsLine : Bool
  hasBinary : Bool
  hasHexadecimal : Bool
  groupsDigits : Bool
  namesWithDigits : Bool
  commands : List (List Char)
  openings : List (List Char)
  hintables : List (List Char)
  deriving Repr, DecidableEq

namespace Dialect

/- What a token that is no plain word can begin with. -/
def openers (d : Dialect) : List (List Char) :=
  d.phrases ++ d.comments.map Comment.opener ++
    d.quotes.map (fun c => [c]) ++
    d.literals.map Literal.opener

/- The kind of a word or phrase in capital letters. -/
def kindOf
    (d : Dialect)
    (word : List Char) : Token.Kind :=
  if d.commands.contains word then .command
  else if d.openings.contains word then .opening
  else if d.hintables.contains word then .hintable
  else .other

/- The literal that begins with the mark. -/
def literal?
    (d : Dialect)
    (opener : List Char) : Option Literal :=
  match opener with
  | [c] =>
      if d.quotes.contains c then some ⟨[c], c, .plain⟩
      else d.literals.find? (·.opener == opener)
  | _ => d.literals.find? (·.opener == opener)

/- The comment that begins with the mark. -/
def comment?
    (d : Dialect)
    (opener : List Char) : Option Comment :=
  d.comments.find? (·.opener == opener)

/- The closing mark of a name that begins with the mark. -/
def nameCloser?
    (d : Dialect)
    (c : Char) : Option Char :=
  (d.identifiers.find? (·.1 == c)).map (·.2)

/- The character ends a word of the dialect. -/
def isSingle
    (d : Dialect)
    (c : Char) : Bool :=
  d.singles.contains c

end Dialect

end SqlAudit
