import SqlAudit.Dialect.Basic
import SqlAudit.Text.Blank
import SqlAudit.Text.Capital

/-
  Finding the operator, phrase or mark that a text begins
  with.

  The text is compared with the openers of the dialect one
  character at a time, as long as one of them goes on. A run
  of blanks counts as one space, and small letters as
  capitals.

  Key definitions include:
    * `SqlAudit.Phrase`
    * `SqlAudit.Dialect.phrase`
-/

------------------------------------------------------------
-- Phrases
------------------------------------------------------------

namespace SqlAudit

/-
  The longest opener that was met, the text from where no
  opener went on, and whether a word can end there.
-/
structure Phrase where
  opener : Option (List Char)
  rest : List Char
  bounded : Bool
  deriving Repr, DecidableEq

namespace Dialect

/- What the openers go on with after a character. -/
def following
    (c : Char)
    (openers : List (List Char)) : List (List Char) :=
  openers.filterMap fun
    | [] => none
    | k :: ks => if k == Text.capital c then some ks else none

/-
  Go on comparing. `openers` is what is left of those that
  agree with the text so far, `read` what was read, latest
  first, and `spaced` says that a blank was read last.
-/
def phraseFrom
    (d : Dialect) :
    (openers : List (List Char)) →
    (read : List Char) →
    (found : Option (List Char)) →
    (spaced single : Bool) →
    List Char → Phrase
| _, _, found, _, _, [] => ⟨found.map List.reverse, [], true⟩
| openers, read, found, spaced, single, c :: rest =>
    let single := single || d.isSingle c
    let blank := Text.isBlank c
    if blank && spaced then
      phraseFrom d openers read found spaced single rest
    else
      let c' := if blank then ' ' else c
      match following c' openers with
      | [] =>
          ⟨found.map List.reverse, c :: rest, blank || single⟩
      | openers' =>
          let read' := c' :: read
          let found' :=
            if openers'.contains [] then some read' else found
          phraseFrom d openers' read' found' blank single rest

/- The phrase at the beginning of a text. -/
def phrase
    (d : Dialect)
    (s : List Char) : Phrase :=
  d.phraseFrom d.openers [] none false false s

end Dialect

end SqlAudit
