import SqlAudit.Text.Printable

/-
  Text in quotes, as messages show it.

  The quotes are single, unless the text holds a single
  quote and no double quote. Inside, a backslash and the
  chosen quote have a backslash before them; line feed,
  carriage return and tab are written by letter, and other
  unprintable characters by code point in small hexadecimal
  digits.

  Key definitions include:
    * `SqlAudit.Text.hexDigits`
    * `SqlAudit.Text.quoted`
-/

------------------------------------------------------------
-- Hexadecimal Digits
------------------------------------------------------------

namespace SqlAudit.Text

/- The number in `width` hexadecimal digits or more. -/
def hexDigits
    (width n : Nat) : List Char :=
  let digits := Nat.toDigits 16 n
  List.replicate (width - digits.length) '0' ++ digits

end SqlAudit.Text

------------------------------------------------------------
-- Quoted Text
------------------------------------------------------------

namespace SqlAudit.Text

/- The quote that stands around a text. -/
def quoteFor (s : List Char) : Char :=
  if s.contains '\x27' && !s.contains '"' then '"'
  else '\x27'

/- A code point by the shortest of its three escapes. -/
def escapeCode (n : Nat) : List Char :=
  if n < 0x100 then
    '\\' :: 'x' :: hexDigits 2 n
  else if n < 0x10000 then
    '\\' :: 'u' :: hexDigits 4 n
  else
    '\\' :: 'U' :: hexDigits 8 n

/- One character inside the given quotes. -/
def quotedChar
    (quote c : Char) : List Char :=
  if c == quote || c == '\\' then
    ['\\', c]
  else if c == '\n' then
    ['\\', 'n']
  else if c == '\r' then
    ['\\', 'r']
  else if c == '\t' then
    ['\\', 't']
  else if isPrintable c then
    [c]
  else
    escapeCode c.toNat

/- The text in quotes. -/
def quoted (s : List Char) : List Char :=
  let quote := quoteFor s
  quote :: s.flatMap (quotedChar quote) ++ [quote]

end SqlAudit.Text
