import SqlAudit.Token.Comment
import SqlAudit.Token.Number
import SqlAudit.Token.Phrase

/-
  Dividing a text into tokens.

  Key definitions include:
    * `SqlAudit.Dialect.lexeme`
    * `SqlAudit.Dialect.scan`
    * `SqlAudit.Dialect.tokens`
-/

------------------------------------------------------------
-- One Lexeme
------------------------------------------------------------

namespace SqlAudit.Dialect

/- The kind of a character that is a token by itself. -/
def singleKind
    (d : Dialect)
    (c : Char) : Token.Kind :=
  if c == ';' then .semicolon
  else if d.parameterMarks.contains c then .parameter
  else .other

/-
  A character by itself or a word. After the mark of a
  parameter a word is a name, whatever it is.
-/
def readWord
    (d : Dialect)
    (last : Option Token.Kind) :
    List Char → Token.Kind × List Char
| [] => (.other, [])
| c :: rest =>
    if d.isSingle c then
      (d.singleKind c, rest)
    else
      let inWord := fun p =>
        !Text.isBlank p &&
          (d.joiners.contains p || !d.isSingle p)
      let word := c :: rest.takeWhile inWord
      let kind :=
        if last == some .parameter then .other
        else d.kindOf (Text.capitals word)
      (kind, rest.dropWhile inWord)

/-
  The lexeme that a text begins with: the kind of its token
  and the text after it. A comment is no token, unless it is
  a hint after a verb that takes one. `last` is the kind of
  the token before.
-/
def lexeme
    (d : Dialect)
    (last : Option Token.Kind)
    (s : List Char) :
    Reading (Option Token.Kind × List Char) :=
  let word := fun (_ : Unit) =>
    let (kind, rest) := d.readWord last s
    .ok (some kind, rest)
  match s with
  | [] => .ok (none, [])
  | c :: _ =>
      if isFigure c then
        .ok (some .other,
          d.readNumber (last == some .parameter) s)
      else
        match d.nameCloser? c with
        | some closer =>
            (d.readName closer s).map fun rest =>
              (some .other, rest)
        | none =>
            let found := d.phrase s
            match found.opener with
            | none => word ()
            | some opener =>
                match d.literal? opener with
                | some l =>
                    (d.readLiteral l s).map fun (kind, rest) =>
                      (some kind, rest)
                | none =>
                    match (d.comment? opener).filter
                      (d.opensComment · s) with
                    | some k =>
                        (d.readComment k s).map fun rest =>
                          let isHint :=
                            opener == "/*+".toList &&
                              last == some .hintable
                          (if isHint then some .other
                            else none, rest)
                    | none =>
                        let name := Text.capitals opener
                        if found.bounded &&
                            d.phrases.contains name then
                          .ok (some (d.kindOf name), found.rest)
                        else
                          word ()

end SqlAudit.Dialect

------------------------------------------------------------
-- Scanning
------------------------------------------------------------

namespace SqlAudit

/-
  How far a text of `size` characters has been scanned: the
  tokens, latest first, where the last lexeme or blank
  began, and the text that is left.
-/
structure Scan where
  size : Nat
  tokens : List Token
  start : Nat
  rest : List Char
  deriving Repr, DecidableEq

namespace Scan

/- The beginning of a text. -/
def ofText (s : List Char) : Scan :=
  ⟨s.length, [], 0, s⟩

/- The position in the text. -/
def position (p : Scan) : Nat :=
  p.size - p.rest.length

/- The kind of the latest token. -/
def last (p : Scan) : Option Token.Kind :=
  p.tokens.head?.map Token.kind

/- What was scanned since `start` becomes a token. -/
def push
    (p : Scan)
    (kind : Token.Kind) : Scan :=
  { p with tokens := ⟨kind, p.start, p.position⟩ :: p.tokens }

/- A semicolon comes next. -/
def beforeSemicolon (p : Scan) : Bool :=
  p.rest.head? == some ';'

/-
  A command that follows takes the rest of its statement.
-/
def atCommand (p : Scan) : Bool :=
  match p.last with
  | none => true
  | some kind => kind == .semicolon || kind == .opening

/- Leave out the spaces and tabs that come next. -/
def skip (p : Scan) : Scan :=
  let rest := p.rest.dropWhile fun c => c == ' ' || c == '\t'
  { p with start := p.size - rest.length, rest := rest }

end Scan

namespace Dialect

/-
  Scan the text that is left, or only up to a semicolon.

  The rest of a command's statement is scanned too, but its
  tokens are dropped: in their place stands one token, which
  begins where the last lexeme or blank of it began. Each
  step takes at least one character, so the number of
  characters bounds the steps.
-/
def scan
    (d : Dialect) :
    (fuel : Nat) → (toSemicolon : Bool) → Scan → Reading Scan
| 0, _, p => .ok p
| fuel + 1, toSemicolon, p =>
    match p.rest with
    | [] => .ok p
    | c :: rest => do
        let next ←
          if c == ' ' || c == '\t' then
            .ok p.skip
          else if Text.isBlank c then
            .ok { p with start := p.position, rest := rest }
          else do
            let (kind?, after) ← d.lexeme p.last p.rest
            let q := { p with start := p.position, rest := after }
            match kind? with
            | none => .ok q
            | some kind =>
                let q := q.push kind
                if kind == .command && p.atCommand &&
                    !q.beforeSemicolon then
                  let r ← d.scan fuel true q
                  let taken :=
                    q.rest.take (q.rest.length - r.rest.length)
                  let r := { r with tokens := q.tokens }
                  if taken.all Text.isBlank then .ok r
                  else .ok (r.push .other)
                else
                  .ok q
        if toSemicolon && next.beforeSemicolon then .ok next
        else d.scan fuel toSemicolon next

/- The tokens of a text, in order. -/
def tokens
    (d : Dialect)
    (s : List Char) : Reading (List Token) :=
  (d.scan (s.length + 1) false (Scan.ofText s)).map fun p =>
    p.tokens.reverse

end Dialect

end SqlAudit
