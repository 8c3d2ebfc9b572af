import SqlAudit.Pieces
import SqlAudit.Text.Ranges

/-
  Blanks and the words between them.

  The blanks are the tab, line feed, vertical tab, form
  feed, carriage return, the four information separators,
  the space, and the spaces and line breaks beyond ASCII. A
  zero-width space and a byte order mark are not blanks.

  Key definitions include:
    * `SqlAudit.Text.isBlank`
    * `SqlAudit.Text.words`
    * `SqlAudit.Text.unwords`
    * `SqlAudit.Text.trim`
-/

------------------------------------------------------------
-- Blanks
------------------------------------------------------------

namespace SqlAudit.Text

/- The intervals of the blank characters. -/
def blankRanges : Ranges :=
  [ (0x0009, 0x000d), (0x001c, 0x0020), (0x0085, 0x0085),
    (0x00a0, 0x00a0), (0x1680, 0x1680), (0x2000, 0x200a),
    (0x2028, 0x2029), (0x202f, 0x202f), (0x205f, 0x205f),
    (0x3000, 0x3000) ]

/- Characters that separate words. -/
def isBlank (c : Char) : Bool :=
  blankRanges.has c

end SqlAudit.Text

------------------------------------------------------------
-- Words
------------------------------------------------------------

namespace SqlAudit.Text

/- The maximal blank-free pieces of a text, in order. -/
def words (s : List Char) : List (List Char) :=
  pieces isBlank s

/- Words with one space between each and the next. -/
def unwords (ws : List (List Char)) : List Char :=
  [' '].intercalate ws

/- A text without the characters of a kind at its ends. -/
def trimming
    (drop : Char → Bool)
    (s : List Char) : List Char :=
  ((s.dropWhile drop).reverse.dropWhile drop).reverse

/- A text without the blanks at its ends. -/
def trim (s : List Char) : List Char :=
  trimming isBlank s

end SqlAudit.Text
