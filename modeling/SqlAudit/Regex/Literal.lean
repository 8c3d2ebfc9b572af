import SqlAudit.Text.Occurrence

/-
  Writing a text as a regular expression that matches that
  text only.

  Key definitions include:
    * `SqlAudit.Regex.escape`
-/

------------------------------------------------------------
-- Escaping
------------------------------------------------------------

namespace SqlAudit

namespace Regex

/- The characters that a backslash is put before. -/
def specialChars : List Char :=
  "()[]\x7b\x7d?*+-|^$\\.&~# \t\n\r\x0b\x0c".toList

/- The pattern that stands for the text itself. -/
def escape (text : List Char) : List Char :=
  text.flatMap fun c =>
    if specialChars.contains c then ['\\', c] else [c]

end Regex

end SqlAudit
