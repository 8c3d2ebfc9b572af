/-
  Computations that may fail.

  Key theorems include:
    * `SqlAudit.ok_of_bind_eq_ok`
    * `SqlAudit.ok_of_map_eq_ok`
    * `SqlAudit.exists_mapM_eq_ok`
    * `SqlAudit.mapM_eq_error_iff`
    * `SqlAudit.holds_of_foldlM`
-/

------------------------------------------------------------
-- Parts Of A Success
------------------------------------------------------------

namespace SqlAudit

variable {ε α β : Type}

/- A computation that succeeds has a first part that does. -/
theorem ok_of_bind_eq_ok
    {x : Except ε α}
    {f : α → Except ε β}
    {b : β}
    (hBind : (x >>= f) = .ok b) :
    ∃ a, x = .ok a ∧ f a = .ok b := by
  cases x with
  | error e => simp [bind, Except.bind] at hBind
  | ok a => exact ⟨a, rfl, hBind⟩

/- A result that was changed at the end was there before. -/
theorem ok_of_map_eq_ok
    {x : Except ε α}
    {f : α → β}
    {b : β}
    (hMap : x.map f = .ok b) :
    ∃ a, x = .ok a ∧ b = f a := by
  cases x with
  | error e => simp [Except.map] at hMap
  | ok a =>
      simp only [Except.map, Except.ok.injEq] at hMap
      exact ⟨a, rfl, hMap.symm⟩

/- A result stays what it is if errors are put differently. -/
theorem ok_of_mapError_eq_ok
    {ε' : Type}
    {x : Except ε α}
    {f : ε → ε'}
    {a : α}
    (hMap : x.mapError f = .ok a) :
    x = .ok a := by
  cases x with
  | error e => cases hMap
  | ok b =>
      cases hMap
      rfl

/- A change at the end makes no error and hides none. -/
theorem bind_pure_eq_error_iff
    {x : Except ε α}
    {f : α → β}
    {e : ε} :
    (x >>= fun a => pure (f a)) = .error e ↔
      x = .error e := by
  cases x with
  | error e' => simp [bind, Except.bind]
  | ok a => simp [bind, Except.bind, pure, Except.pure]

end SqlAudit

------------------------------------------------------------
-- Successes One After The Other
------------------------------------------------------------

namespace SqlAudit

variable {ε α β γ : Type}

/-
  Steps that all succeed succeed together, and what can be
  told of each result from its input can be told of them all.
-/
theorem exists_mapM_eq_ok
    {f : α → Except ε β}
    {p : α → γ}
    {q : β → γ}
    {xs : List α}
    (hEach : ∀ x ∈ xs, ∃ b, f x = .ok b ∧ q b = p x) :
    ∃ bs, xs.mapM f = .ok bs ∧ bs.map q = xs.map p := by
  induction xs with
  | nil => exact ⟨[], rfl, rfl⟩
  | cons x xs ih =>
      rcases hEach x List.mem_cons_self with ⟨b, hb, hSame⟩
      rcases ih fun y hy =>
        hEach y (List.mem_cons_of_mem x hy) with
        ⟨bs, hbs, hAll⟩
      refine ⟨b :: bs, ?_, ?_⟩
      · rw [List.mapM_cons, hb, hbs]
        rfl
      · rw [List.map_cons, List.map_cons, hSame, hAll]

/- Steps that succeed together succeed one by one. -/
theorem ok_of_mapM_eq_ok
    {f : α → Except ε β}
    {xs : List α}
    {bs : List β}
    (hMap : xs.mapM f = .ok bs) :
    ∀ x ∈ xs, ∃ b, f x = .ok b := by
  induction xs generalizing bs with
  | nil => simp
  | cons x xs ih =>
      rw [List.mapM_cons] at hMap
      rcases ok_of_bind_eq_ok hMap with ⟨b, hb, hMap⟩
      rcases ok_of_bind_eq_ok hMap with ⟨rest, hRest, _⟩
      exact List.forall_mem_cons.mpr ⟨⟨b, hb⟩, ih hRest⟩

/- Some step fails first, if steps fail together. -/
theorem first_of_mapM_eq_error
    {f : α → Except ε β}
    {xs : List α}
    {e : ε}
    (hError : xs.mapM f = .error e) :
    ∃ before x after,
      xs = before ++ x :: after ∧
        (∀ y ∈ before, ∃ b, f y = .ok b) ∧
        f x = .error e := by
  induction xs with
  | nil => cases hError
  | cons x xs ih =>
      rw [List.mapM_cons] at hError
      cases hx : f x with
      | error e' =>
          rw [hx] at hError
          cases hError
          exact ⟨[], x, xs, rfl, by simp, hx⟩
      | ok b =>
          have hRest : xs.mapM f = .error e := by
            cases hXs : xs.mapM f with
            | error e' =>
                rw [hx, hXs] at hError
                cases hError
                rfl
            | ok bs =>
                rw [hx, hXs] at hError
                cases hError
          rcases ih hRest with
            ⟨before, y, after, hSplit, hBefore, hy⟩
          refine ⟨x :: before, y, after, ?_, ?_, hy⟩
          · rw [hSplit, List.cons_append]
          · exact List.forall_mem_cons.mpr
              ⟨⟨b, hx⟩, hBefore⟩

/- Steps fail together with the first of them that fails. -/
theorem mapM_eq_error_iff
    {f : α → Except ε β}
    {xs : List α}
    {e : ε} :
    xs.mapM f = .error e ↔
      ∃ before x after,
        xs = before ++ x :: after ∧
          (∀ y ∈ before, ∃ b, f y = .ok b) ∧
          f x = .error e := by
  constructor
  · exact first_of_mapM_eq_error
  · rintro ⟨before, x, after, rfl, hBefore, hx⟩
    have hEach :
        ∀ y ∈ before, ∃ b, f y = .ok b ∧ () = () := by
      simpa using hBefore
    rcases exists_mapM_eq_ok hEach with ⟨bs, hbs, _⟩
    rw [List.mapM_append, hbs, List.mapM_cons, hx]
    rfl

/- What every step keeps is kept by steps in a row. -/
theorem holds_of_foldlM
    {f : β → α → Except ε β}
    (holds : β → Prop)
    (hStep : ∀ {b x next},
      holds b → f b x = .ok next → holds next)
    {xs : List α}
    {start last : β}
    (hStart : holds start)
    (hFold : xs.foldlM f start = .ok last) :
    holds last := by
  induction xs generalizing start with
  | nil => exact Except.ok.inj hFold ▸ hStart
  | cons x xs ih =>
      rw [List.foldlM_cons] at hFold
      rcases ok_of_bind_eq_ok hFold with
        ⟨next, hNext, hRest⟩
      exact ih (hStep hStart hNext) hRest

end SqlAudit
