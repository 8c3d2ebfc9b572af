import SqlAudit.Proofs.Token.Division
import SqlAudit.Script

/-
  Tokens that are placed in a text.

  The statements of a script are put together from the spans
  of its tokens.  The tokens that a dialect finds in a text
  lie in it one after the other.

  Key definitions include:
    * `SqlAudit.Script.Placed`

  Key theorems include:
    * `SqlAudit.Script.PlacedFrom.sublist`
    * `SqlAudit.Script.placed_tokens`
    * `SqlAudit.Script.statements_eq_ok`
-/

------------------------------------------------------------
-- Placed Tokens
------------------------------------------------------------

namespace SqlAudit.Script

/-
  The tokens stand in the text one after the other, the first
  one at `pos` or later.
-/
def PlacedFrom
    (text : List Char) :
    (pos : Nat) → List Token → Prop
| _, [] => True
| pos, t :: rest =>
    pos ≤ t.start ∧ t.start ≤ t.stop ∧
      t.stop ≤ text.length ∧ PlacedFrom text t.stop rest

/-
  The spans of the tokens lie in the text, and each begins
  where the one before it stops or later.  A span may be
  empty.
-/
def Placed
    (text : List Char)
    (tokens : List Token) : Prop :=
  PlacedFrom text 0 tokens

instance
    (text : List Char)
    (pos : Nat)
    (tokens : List Token) :
    Decidable (PlacedFrom text pos tokens) :=
  match tokens with
  | [] => isTrue trivial
  | t :: rest =>
      have := instDecidablePlacedFrom text t.stop rest
      inferInstanceAs (Decidable (_ ∧ _ ∧ _ ∧ _))

instance
    (text : List Char)
    (tokens : List Token) :
    Decidable (Placed text tokens) :=
  inferInstanceAs (Decidable (PlacedFrom text 0 tokens))

theorem PlacedFrom.mono
    {text : List Char}
    {pos pos' : Nat}
    {tokens : List Token}
    (hPlaced : PlacedFrom text pos tokens)
    (hLe : pos' ≤ pos) :
    PlacedFrom text pos' tokens := by
  cases tokens with
  | nil => trivial
  | cons t rest =>
      rcases hPlaced with ⟨hStart, hRest⟩
      exact ⟨Nat.le_trans hLe hStart, hRest⟩

/- Tokens stay placed when others are left out. -/
theorem PlacedFrom.sublist
    {text : List Char}
    {pos : Nat}
    {tokens run : List Token}
    (hPlaced : PlacedFrom text pos tokens)
    (hSublist : run.Sublist tokens) :
    PlacedFrom text pos run := by
  induction hSublist generalizing pos with
  | slnil => exact hPlaced
  | cons t _ ih =>
      rcases hPlaced with ⟨hStart, hLe, _, hRest⟩
      exact (ih hRest).mono (by omega)
  | cons_cons t _ ih =>
      rcases hPlaced with ⟨hStart, hLe, hStop, hRest⟩
      exact ⟨hStart, hLe, hStop, ih hRest⟩

/- Later tokens begin behind the place. -/
theorem PlacedFrom.le_start
    {text : List Char}
    {pos : Nat}
    {tokens : List Token}
    (hPlaced : PlacedFrom text pos tokens) :
    ∀ t ∈ tokens, pos ≤ t.start := by
  induction tokens generalizing pos with
  | nil => intro t hMem; cases hMem
  | cons u rest ih =>
      rcases hPlaced with ⟨hStart, hLe, _, hRest⟩
      intro t hMem
      rcases List.mem_cons.mp hMem with rfl | hTail
      · exact hStart
      · have hLater := ih hRest t hTail
        omega

end SqlAudit.Script

------------------------------------------------------------
-- Tokens Of A Dialect
------------------------------------------------------------

namespace SqlAudit.Script

/- Stretches place their tokens after what is before them. -/
theorem placedFrom_place
    (before after : List Char)
    (ss : List Stretch) :
    PlacedFrom (before ++ Stretch.written ss ++ after)
      before.length (Stretch.place before.length ss) := by
  induction ss generalizing before with
  | nil => trivial
  | cons s ss ih =>
      have hRest := ih (before ++ s.text)
      rw [List.length_append] at hRest
      refine ⟨?_, ?_, ?_, ?_⟩
      · simp [Stretch.token]
      · simp [Stretch.token]
      · simp [Stretch.token]
      · simpa [Stretch.token] using hRest

/- Whatever a dialect passes over, its tokens are placed. -/
theorem placed_tokens
    {d : Dialect}
    {text : List Char}
    {tokens : List Token}
    (hTokens : d.tokens text = .ok tokens) :
    Placed text tokens := by
  have hPassable : d.Passable text fun _ => True :=
    ⟨fun _ => trivial, fun _ _ => trivial,
      fun _ _ _ => trivial⟩
  rcases Dialect.tokens_divide hPassable hTokens with
    ⟨ss, passed, hText, rfl, _⟩
  rw [hText]
  exact placedFrom_place [] passed ss

/- A script with statements has a dialect and tokens. -/
theorem statements_eq_ok
    {text : List Char}
    {dialect : Value}
    {sts : List (List Char)}
    (hStatements : statements text dialect = .ok sts) :
    ∃ d tokens,
      Dialect.choose dialect = .ok d ∧
        d.tokens text = .ok tokens ∧
        sts = assemble text tokens := by
  unfold statements at hStatements
  split at hStatements
  · cases hStatements
  rename_i d hChosen
  split at hStatements
  · cases hStatements
  rename_i tokens hTokens
  cases hStatements
  exact ⟨d, tokens, hChosen, hTokens, rfl⟩

end SqlAudit.Script
