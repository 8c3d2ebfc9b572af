/-
  Capital letters, as far as keywords need them.

  A keyword is made of the letters A to Z. Besides the small
  letters of ASCII, a few characters have such letters as
  their capital form.

  Key definitions include:
    * `SqlAudit.Text.capital`
    * `SqlAudit.Text.capitals`
-/

------------------------------------------------------------
-- Capital Forms
------------------------------------------------------------

namespace SqlAudit.Text

/- The capital of an ASCII letter; all else stays. -/
def capital (c : Char) : Char :=
  if 'a' ≤ c && c ≤ 'z' then Char.ofNat (c.toNat - 32) else c

/-
  The capital form of a character, if it is made of the
  letters A to Z; all else stays.
-/
def capitalForm : Char → List Char
| 'ß' => ['S', 'S']
| 'ı' => ['I']
| 'ſ' => ['S']
| 'ﬀ' => ['F', 'F']
| 'ﬁ' => ['F', 'I']
| 'ﬂ' => ['F', 'L']
| 'ﬃ' => ['F', 'F', 'I']
| 'ﬄ' => ['F', 'F', 'L']
| 'ﬅ' => ['S', 'T']
| 'ﬆ' => ['S', 'T']
| c => [capital c]

/- The text as it is compared with keywords. -/
def capitals (s : List Char) : List Char :=
  s.flatMap capitalForm

end SqlAudit.Text
