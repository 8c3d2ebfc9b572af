import SqlAudit.Dialect.Basic
import SqlAudit.Text.Blank
import SqlAudit.Text.Integer
import SqlAudit.Text.Letter

/-
  Reading literals and quoted names.

  A reader is given the text that is left, and returns the
  text after what it has read. Where it cannot go on, it
  returns how many characters were left there.

  Key definitions include:
    * `SqlAudit.Reading`
    * `SqlAudit.Enclosure.read`
    * `SqlAudit.Dialect.readLiteral`
    * `SqlAudit.Dialect.readName`
-/

------------------------------------------------------------
-- Enclosed Text
------------------------------------------------------------

namespace SqlAudit

/- What is read, or the number of characters left. -/
abbrev Reading (α : Type) : Type :=
  Except Nat α

/-
  How a text ends and how its closing mark is escaped. A raw
  text keeps the escapes that it holds.
-/
structure Enclosure where
  closer : List Char
  escapes : List Char
  raw : Bool
  mustClose : Bool
  deriving Repr, DecidableEq

namespace Enclosure

/- The first character takes the meaning of the second. -/
def isEscape
    (e : Enclosure)
    (quotes : List Char)
    (c p : Char) : Bool :=
  e.escapes.contains c &&
    ([p] == e.closer || e.escapes.contains p) &&
    (!quotes.contains c || c == p)

/- An escape as it is held, latest first. -/
def escaped
    (e : Enclosure)
    (c p : Char) : List Char :=
  if [p] == e.closer && !e.raw then [p] else [p, c]

/-
  The text up to the closing mark, and the text after the
  mark. No escape may end the whole text. What has been read
  is held latest first.
-/
def read
    (e : Enclosure)
    (quotes : List Char) :
    (held : List Char) → List Char →
      Reading (List Char × List Char)
| _, [] => .error 0
| held, [c] =>
    if e.closer == [c] then .ok (held.reverse, [])
    else if e.mustClose then .error 1
    else .ok ((c :: held).reverse, [])
| held, c :: p :: rest =>
    if !e.raw && c == '\\' && e.escapes.contains '\\' &&
        !rest.isEmpty then
      read e quotes (p :: held) rest
    else if e.isEscape quotes c p then
      if rest.isEmpty then .error 2
      else read e quotes (e.escaped c p ++ held) rest
    else if e.closer.isPrefixOf (c :: p :: rest) then
      .ok (held.reverse, (c :: p :: rest).drop e.closer.length)
    else
      read e quotes (c :: held) (p :: rest)

end Enclosure

end SqlAudit

------------------------------------------------------------
-- Literals
------------------------------------------------------------

namespace SqlAudit.Dialect

/- The text after a mark; some text has to follow it. -/
def afterMark
    (mark : List Char)
    (s : List Char) : Reading (List Char) :=
  match s.drop mark.length with
  | [] => .error 0
  | rest => .ok rest

/-
  A literal whose text is any text or a number. The text that
  is left begins with its opening mark.
-/
def readPlain
    (d : Dialect)
    (l : Literal)
    (s : List Char) : Reading (List Char) := do
  let body ← afterMark l.opener s
  let escapes :=
    if l.kind == .bytes then d.byteEscapes else d.escapes
  let (held, rest) ←
    Enclosure.read ⟨[l.closer], escapes, false, true⟩
      d.quotes [] body
  let isNumber := fun base =>
    held.isEmpty || (Text.parseInt? base held).isSome
  match l.kind with
  | .binary =>
      if isNumber 2 then .ok rest
      else .error (rest.length + 1)
  | .hexadecimal =>
      if isNumber 16 then .ok rest
      else .error (rest.length + 1)
  | _ => .ok rest

/-
  A tag cannot stand at the end of the text, be a number, or
  hold blanks.
-/
def isTag
    (tag rest : List Char) : Bool :=
  !rest.isEmpty && !tag.all Text.isDigitLike &&
    !tag.any Text.isBlank

/-
  A text between two equal tags, each of them between two
  marks, or else the mark of a parameter.
-/
def readTagged
    (d : Dialect)
    (l : Literal)
    (s : List Char) :
    Reading (Token.Kind × List Char) := do
  let mark := l.closer
  let inner := fun closer must =>
    Enclosure.mk closer d.escapes true must
  let afterFirst ← afterMark [mark] s
  if afterFirst.head? == some mark then
    let body ← afterMark [mark] afterFirst
    let (_, rest) ←
      (inner [mark, mark] true).read d.quotes [] body
    .ok (.other, rest)
  else
    let (tag, body) ←
      (inner [mark] false).read d.quotes [] afterFirst
    if isTag tag body then
      let (_, rest) ←
        (inner (mark :: tag ++ [mark]) true).read
          d.quotes [] body
      .ok (.other, rest)
    else if body.isEmpty then
      let rest :=
        afterFirst.drop (afterFirst.length - tag.length)
      .ok (.parameter, rest)
    else
      .ok (.parameter, afterFirst)

/- A literal of any kind. -/
def readLiteral
    (d : Dialect)
    (l : Literal)
    (s : List Char) :
    Reading (Token.Kind × List Char) :=
  if l.kind == .tagged then
    d.readTagged l s
  else
    (d.readPlain l s).map fun rest => (.other, rest)

/- A quoted name; its closing mark is doubled in it. -/
def readName
    (d : Dialect)
    (closer : Char)
    (s : List Char) : Reading (List Char) := do
  let body ← afterMark [closer] s
  let (_, rest) ←
    Enclosure.read ⟨[closer], [closer], false, true⟩
      d.quotes [] body
  .ok rest

end SqlAudit.Dialect
