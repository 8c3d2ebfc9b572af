import SqlAudit.Regex.Ends

/-
  Searching for an end that is accepted.

  The ends of an expression are tried in the order in which
  they are preferred, and none is looked at after the first
  that is accepted, so that a search need not list them all.

  Main declarations:
    * `SqlAudit.Regex.search`
    * `SqlAudit.Regex.search_eq`
-/

------------------------------------------------------------
-- Searching
------------------------------------------------------------

namespace SqlAudit

namespace Regex

variable {β : Type}

/- A way to try ends: what to try them on, and where from. -/
abbrev Trial (β : Type) : Type :=
  (Cursor → Option β) → Cursor → Option β

/- Try the ends of exactly `n` rounds. -/
def tryRounds
    (body : Trial β) :
    Nat → Trial β
| 0, accept, c => accept c
| n + 1, accept, c => body (tryRounds body n accept) c

/- Try the ends of at most `n` rounds, more rounds first. -/
def tryMost
    (body : Trial β) :
    Nat → Trial β
| 0, accept, c => accept c
| n + 1, accept, c =>
    (body (fun e =>
      if e.left == c.left then accept e
      else tryMost body n accept e) c).orElse fun _ =>
        accept c

/- Try the ends of at most `n` rounds, fewer rounds first. -/
def tryFewest
    (body : Trial β) :
    Nat → Trial β
| 0, accept, c => accept c
| n + 1, accept, c =>
    (accept c).orElse fun _ => body (fun e =>
      if e.left == c.left then accept e
      else tryFewest body n accept e) c

/- Try the best end only. -/
def tryOnce
    (body : Trial Cursor) : Trial Cursor :=
  fun accept c => (body some c).bind accept

/-
  Try the ends of an expression. The first result of one that
  is accepted is the result.
-/
def search :
    Regex → (β : Type) → Trial β
| .empty, _, accept, c => accept c
| .char cls, _, accept, c =>
    match c.next? with
    | some (x, d) => if cls.has x then accept d else none
    | none => none
| .anchor a, _, accept, c =>
    if a.holds c then accept c else none
| .seq r s, β, accept, c =>
    r.search β (s.search β accept) c
| .alt r s, β, accept, c =>
    (r.search β accept c).orElse fun _ =>
      s.search β accept c
| .repeated r least most .greedy, β, accept, c =>
    tryRounds (r.search β) least
      (fun e =>
        tryMost (r.search β) (extraRounds least most e)
          accept e) c
| .repeated r least most .frugal, β, accept, c =>
    tryRounds (r.search β) least
      (fun e =>
        tryFewest (r.search β) (extraRounds least most e)
          accept e) c
| .repeated r least most .possessive, _, accept, c =>
    let once := tryOnce (r.search Cursor)
    (tryRounds once least
      (fun e =>
        tryMost once (extraRounds least most e) some e)
      c).bind accept
| .atomic r, _, accept, c =>
    (r.search Cursor some c).bind accept
| .group n r, β, accept, c =>
    r.search β (fun e => accept (e.hold n c)) c
| .echo n letters, _, accept, c =>
    ((c.held? n).bind fun t =>
      Cursor.after? letters t c).bind accept
| .look wanted side r, _, accept, c =>
    let found := (lookFrom? c side).bind fun d =>
      r.search Cursor some d
    (lookEnd? wanted c found).bind accept
| .given n r s, β, accept, c =>
    if (c.held? n).isSome then r.search β accept c
    else s.search β accept c

end Regex

end SqlAudit

------------------------------------------------------------
-- Searches And Ends
------------------------------------------------------------

namespace SqlAudit

namespace Regex

variable {β : Type}

/- Searching in all lists of ends one after the other. -/
theorem findSome?_flatMap
    (ends : List Cursor)
    (next : Cursor → List Cursor)
    (accept : Cursor → Option β) :
    (ends.flatMap next).findSome? accept =
      ends.findSome? fun e => (next e).findSome? accept := by
  induction ends with
  | nil => rfl
  | cons e rest ih =>
      rw [List.flatMap_cons, List.findSome?_append, ih,
        List.findSome?_cons]
      cases (next e).findSome? accept <;> rfl

/- Searching in what there is at most one of. -/
theorem findSome?_toList
    (last? : Option Cursor)
    (accept : Cursor → Option β) :
    last?.toList.findSome? accept = last?.bind accept := by
  cases last? <;> simp

/- The first end of all is found if every end will do. -/
theorem findSome?_some
    (ends : List Cursor) :
    ends.findSome? some = ends.head? := by
  cases ends <;> rfl

/- Trying what is tried on the ends of a body. -/
def Tries
    (body : Trial β)
    (ends : Cursor → List Cursor) : Prop :=
  ∀ accept c, body accept c = (ends c).findSome? accept

/- Exactly `n` rounds are tried in order. -/
theorem Tries.rounds
    {body : Trial β}
    {ends : Cursor → List Cursor}
    (h : Tries body ends)
    (n : Nat) :
    Tries (tryRounds body n) (Regex.rounds ends n) := by
  induction n with
  | zero =>
      intro accept c
      simp [tryRounds, Regex.rounds]
  | succ n ih =>
      intro accept c
      rw [tryRounds, Regex.rounds, h, findSome?_flatMap]
      congr 1
      funext e
      exact ih accept e

/- At most `n` rounds are tried, more rounds first. -/
theorem Tries.most
    {body : Trial β}
    {ends : Cursor → List Cursor}
    (h : Tries body ends)
    (n : Nat) :
    Tries (tryMost body n) (mostRounds ends n) := by
  induction n with
  | zero =>
      intro accept c
      simp [tryMost, mostRounds]
  | succ n ih =>
      intro accept c
      rw [tryMost, mostRounds, h, List.findSome?_append,
        findSome?_flatMap, Option.orElse_eq_or]
      congr 1
      · congr 1
        funext e
        by_cases hMove : (e.left == c.left) = true
        · simp [hMove]
        · simp [hMove, ih accept e]
      · simp

/- At most `n` rounds are tried, fewer rounds first. -/
theorem Tries.fewest
    {body : Trial β}
    {ends : Cursor → List Cursor}
    (h : Tries body ends)
    (n : Nat) :
    Tries (tryFewest body n) (fewestRounds ends n) := by
  induction n with
  | zero =>
      intro accept c
      simp [tryFewest, fewestRounds]
  | succ n ih =>
      intro accept c
      rw [tryFewest, fewestRounds, h, List.findSome?_cons,
        findSome?_flatMap, Option.orElse_eq_or]
      have hNext :
          (fun e =>
            if e.left == c.left then accept e
            else tryFewest body n accept e) =
          fun e =>
            (if e.left == c.left then [e]
              else fewestRounds ends n e).findSome?
                accept := by
        funext e
        by_cases hMove : (e.left == c.left) = true
        · simp [hMove]
        · simp [hMove, ih accept e]
      rw [hNext]
      cases accept c <;> rfl

/- The best end only is tried. -/
theorem Tries.once
    {body : Trial Cursor}
    {ends : Cursor → List Cursor}
    (h : Tries body ends) :
    Tries (tryOnce body) fun c => (ends c).take 1 := by
  intro accept c
  rw [tryOnce, h]
  show _ = ((ends c).take 1).findSome? accept
  cases ends c with
  | nil => rfl
  | cons e rest => simp

/- What is tried after the rounds that are required. -/
theorem Tries.bind
    {first : Trial β}
    {second : Cursor → Trial β}
    {ends : Cursor → List Cursor}
    {next : Cursor → Cursor → List Cursor}
    (hFirst : Tries first ends)
    (hSecond : ∀ e, Tries (second e) (next e)) :
    Tries
      (fun accept c => first (fun e => second e accept e) c)
      fun c => (ends c).flatMap fun e => next e e := by
  intro accept c
  show first (fun e => second e accept e) c =
    ((ends c).flatMap fun e => next e e).findSome? accept
  rw [hFirst, findSome?_flatMap]
  congr 1
  funext e
  exact hSecond e accept e

/-
  A search finds the first of the ends, in the order in which
  they are preferred, that is accepted.
-/
theorem search_eq
    (r : Regex)
    (β : Type) :
    Tries (r.search β) r.ends := by
  induction r generalizing β with
  | empty =>
      intro accept c
      simp [search, ends]
  | char cls =>
      intro accept c
      rw [search, ends]
      cases c.next? with
      | none => rfl
      | some next =>
          by_cases hHas : cls.has next.1 = true
          · simp [hHas]
          · simp [hHas]
  | anchor a =>
      intro accept c
      rw [search, ends]
      by_cases hHolds : a.holds c = true
      · simp [hHolds]
      · simp [hHolds]
  | seq r s ihR ihS =>
      intro accept c
      rw [search, ends, ihR, findSome?_flatMap]
      congr 1
      funext e
      exact ihS β accept e
  | alt r s ihR ihS =>
      intro accept c
      rw [search, ends, ihR, ihS, List.findSome?_append,
        Option.orElse_eq_or]
  | repeated r least most greed ih =>
      intro accept c
      cases greed with
      | greedy =>
          exact Tries.bind ((ih β).rounds least)
            (fun e =>
              (ih β).most (extraRounds least most e))
            accept c
      | frugal =>
          exact Tries.bind ((ih β).rounds least)
            (fun e =>
              (ih β).fewest (extraRounds least most e))
            accept c
      | possessive =>
          have hOnce := (ih Cursor).once
          have hAll := Tries.bind (hOnce.rounds least)
            (fun e =>
              hOnce.most (extraRounds least most e))
            some c
          rw [search, ends, repetition]
          simp only [hAll]
          generalize (List.flatMap _ _ : List Cursor) = es
          cases es with
          | nil => rfl
          | cons e rest => simp
  | atomic r ih =>
      intro accept c
      rw [search, ends, ih Cursor]
      cases r.ends c with
      | nil => rfl
      | cons e rest => simp
  | group n r ih =>
      intro accept c
      rw [search, ends, ih, List.findSome?_map]
      rfl
  | echo n letters =>
      intro accept c
      rw [search, ends]
      exact (findSome?_toList _ accept).symm
  | look wanted side r ih =>
      intro accept c
      have hFirst :
          (fun d => r.search Cursor some d) =
            fun d => (r.ends d).head? := by
        funext d
        rw [ih Cursor, findSome?_some]
      rw [search, ends, hFirst]
      exact (findSome?_toList _ accept).symm
  | given n r s ihR ihS =>
      intro accept c
      rw [search, ends]
      by_cases hHeld : (c.held? n).isSome = true
      · simp [hHeld, ihR β accept c]
      · simp [hHeld, ihS β accept c]

end Regex

end SqlAudit
