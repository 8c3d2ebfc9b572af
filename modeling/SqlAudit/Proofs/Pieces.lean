import Mathlib.Data.List.Basic
import SqlAudit.Pieces

/-
  The pieces of a list are its maximal runs without a cut.

  Key definitions include:
    * `SqlAudit.MaximalRuns`
    * `SqlAudit.FirstRun`

  Key theorems include:
    * `SqlAudit.maximalRuns_pieces`
    * `SqlAudit.MaximalRuns.eq_pieces`
    * `SqlAudit.MaximalRuns.map`
    * `SqlAudit.pieces_append_cut`
    * `SqlAudit.flatten_pieces`
    * `SqlAudit.head?_pieces_eq_some_iff`
-/

------------------------------------------------------------
-- Maximal Runs
------------------------------------------------------------

namespace SqlAudit

variable {α : Type}
variable {cut : α → Bool}

/-
  The runs of a list: cuts are passed over, and a run goes on
  up to the next cut or to the end.
-/
inductive MaximalRuns
    (cut : α → Bool) :
    List α → List (List α) → Prop
| nil : MaximalRuns cut [] []
| cut
    {x : α}
    {xs : List α}
    {runs : List (List α)} :
    cut x = true →
    MaximalRuns cut xs runs →
    MaximalRuns cut (x :: xs) runs
| run
    {run rest : List α}
    {runs : List (List α)} :
    run ≠ [] →
    (∀ x ∈ run, cut x = false) →
    (∀ x, rest.head? = some x → cut x = true) →
    MaximalRuns cut rest runs →
    MaximalRuns cut (run ++ rest) (run :: runs)

namespace MaximalRuns

/- Runs are not empty, have no cut and keep the order. -/
theorem of_mem
    {xs run : List α}
    {runs : List (List α)}
    (hRuns : MaximalRuns cut xs runs)
    (hMem : run ∈ runs) :
    run ≠ [] ∧ (∀ x ∈ run, cut x = false) ∧
      run.Sublist xs := by
  induction hRuns with
  | nil => cases hMem
  | cut _ _ ih =>
      rcases ih hMem with ⟨hNe, hFree, hSublist⟩
      exact ⟨hNe, hFree, hSublist.cons _⟩
  | run hNe hFree _ _ ih =>
      rcases List.mem_cons.mp hMem with rfl | hTail
      · exact ⟨hNe, hFree, List.sublist_append_left _ _⟩
      · rcases ih hTail with ⟨hNe', hFree', hSublist⟩
        exact ⟨hNe', hFree',
          hSublist.trans (List.sublist_append_right _ _)⟩

/- Together the runs hold all that is no cut. -/
theorem flatten_eq
    {xs : List α}
    {runs : List (List α)}
    (hRuns : MaximalRuns cut xs runs) :
    runs.flatten = xs.filter fun x => !cut x := by
  induction hRuns with
  | nil => rfl
  | cut hCut _ ih => simpa [hCut] using ih
  | run _ hFree _ _ ih =>
      rw [List.flatten_cons, List.filter_append, ih]
      congr 1
      symm
      rw [List.filter_eq_self]
      intro x hx
      simp [hFree x hx]

/- A cut between two lists keeps their runs apart. -/
theorem append_cut
    {xs ys : List α}
    {x : α}
    {left right : List (List α)}
    (hLeft : MaximalRuns cut xs left)
    (hCut : cut x = true)
    (hRight : MaximalRuns cut ys right) :
    MaximalRuns cut (xs ++ x :: ys) (left ++ right) := by
  induction hLeft with
  | nil => exact .cut hCut hRight
  | cut hHead _ ih => exact .cut hHead ih
  | @run run rest runs hNe hFree hEnd _ ih =>
      rw [List.append_assoc]
      refine .run hNe hFree ?_ ih
      intro y hy
      cases rest with
      | nil =>
          have hSame : x = y := by simpa using hy
          exact hSame ▸ hCut
      | cons z zs => exact hEnd y (by simpa using hy)

/- The elements of a run stand side by side in the list. -/
theorem isInfix_of_mem
    {xs run : List α}
    {runs : List (List α)}
    (hRuns : MaximalRuns cut xs runs)
    (hMem : run ∈ runs) :
    run <:+: xs := by
  induction hRuns with
  | nil => cases hMem
  | cut _ _ ih =>
      exact (ih hMem).trans (List.suffix_cons _ _).isInfix
  | run _ _ _ _ ih =>
      rcases List.mem_cons.mp hMem with rfl | hTail
      · exact (List.prefix_append _ _).isInfix
      · exact (ih hTail).trans
          (List.suffix_append _ _).isInfix

/- Runs are kept when elements are put in place of others. -/
theorem map
    {β : Type}
    {cut' : β → Bool}
    {f : α → β}
    {xs : List α}
    {runs : List (List α)}
    (hRuns : MaximalRuns cut xs runs)
    (hCut : ∀ x ∈ xs, cut' (f x) = cut x) :
    MaximalRuns cut' (xs.map f) (runs.map (List.map f)) := by
  induction hRuns with
  | nil => exact .nil
  | @cut x xs runs hx _ ih =>
      refine .cut ?_ (ih fun y hy =>
        hCut y (List.mem_cons_of_mem x hy))
      rw [hCut x List.mem_cons_self, hx]
  | @run run rest runs hNe hFree hEnd _ ih =>
      rw [List.map_append, List.map_cons]
      refine .run ?_ ?_ ?_ (ih fun y hy =>
        hCut y (List.mem_append_right run hy))
      · simpa using hNe
      · intro y hy
        rcases List.mem_map.mp hy with ⟨x, hx, rfl⟩
        rw [hCut x (List.mem_append_left rest hx),
          hFree x hx]
      · intro y hy
        cases rest with
        | nil => simp at hy
        | cons x rest =>
            have hSame : f x = y := by simpa using hy
            rw [← hSame, hCut x (by simp), hEnd x rfl]

/- Every list has runs. -/
theorem exists_runs
    (cut : α → Bool)
    (xs : List α) :
    ∃ runs, MaximalRuns cut xs runs := by
  induction xs with
  | nil => exact ⟨[], .nil⟩
  | cons x xs ih =>
      rcases ih with ⟨runs, hRuns⟩
      by_cases hCut : cut x = true
      · exact ⟨runs, .cut hCut hRuns⟩
      have hFree : cut x = false := by simpa using hCut
      by_cases hHead :
          ∀ y, xs.head? = some y → cut y = true
      · -- the run of `x` ends at once
        refine ⟨[x] :: runs, ?_⟩
        refine .run (List.cons_ne_nil x []) ?_ hHead hRuns
        intro y hy
        exact List.mem_singleton.mp hy ▸ hFree
      · -- `x` joins the first run of the rest
        cases hRuns with
        | nil => exact absurd (by simp) hHead
        | cut hNext _ =>
            exact absurd (by simpa using hNext) hHead
        | @run run rest runs hNe hRun hEnd hRest =>
            refine ⟨(x :: run) :: runs, ?_⟩
            refine .run (List.cons_ne_nil x run) ?_ hEnd
              hRest
            intro y hy
            rcases List.mem_cons.mp hy with rfl | hTail
            · exact hFree
            · exact hRun y hTail

end MaximalRuns

end SqlAudit

------------------------------------------------------------
-- Pieces
------------------------------------------------------------

namespace SqlAudit

variable {α : Type}
variable {cut : α → Bool}

/- The flag is down before a cut and at the end. -/
theorem foldr_attach_flag
    {xs : List α}
    (hHead : ∀ x, xs.head? = some x → cut x = true) :
    (xs.foldr (attach cut) ([], false)).2 = false := by
  cases xs with
  | nil => rfl
  | cons x xs =>
      have hCut : cut x = true := hHead x rfl
      simp [attach, hCut]

/- A run before such a place becomes the first piece. -/
theorem foldr_attach_run
    {run : List α}
    (ps : List (List α))
    (hNe : run ≠ [])
    (hFree : ∀ x ∈ run, cut x = false) :
    run.foldr (attach cut) (ps, false) =
      (run :: ps, true) := by
  induction run with
  | nil => exact absurd rfl hNe
  | cons x run ih =>
      have hx : cut x = false := hFree x List.mem_cons_self
      cases run with
      | nil => simp [attach, hx]
      | cons y run =>
          have hRest :=
            ih (List.cons_ne_nil _ _) fun z hz =>
              hFree z (List.mem_cons_of_mem _ hz)
          rw [List.foldr_cons, hRest]
          simp [attach, hx]

/- The pieces are the only runs that a list has. -/
theorem MaximalRuns.eq_pieces
    {xs : List α}
    {runs : List (List α)}
    (hRuns : MaximalRuns cut xs runs) :
    runs = pieces cut xs := by
  induction hRuns with
  | nil => rfl
  | cut hCut _ ih => rw [ih]; simp [pieces, attach, hCut]
  | @run run rest runs hNe hFree hEnd _ ih =>
      have hFlag := foldr_attach_flag hEnd
      have hRest :
          rest.foldr (attach cut) ([], false) =
            (runs, false) := by
        rw [ih]
        exact Prod.ext rfl hFlag
      simp [pieces, List.foldr_append, hRest,
        foldr_attach_run runs hNe hFree]

theorem maximalRuns_pieces
    (cut : α → Bool)
    (xs : List α) :
    MaximalRuns cut xs (pieces cut xs) := by
  rcases MaximalRuns.exists_runs cut xs with
    ⟨runs, hRuns⟩
  exact hRuns.eq_pieces ▸ hRuns

theorem flatten_pieces
    (cut : α → Bool)
    (xs : List α) :
    (pieces cut xs).flatten = xs.filter fun x => !cut x :=
  (maximalRuns_pieces cut xs).flatten_eq

theorem pieces_map
    {β : Type}
    {cut' : β → Bool}
    {f : α → β}
    {xs : List α}
    (hCut : ∀ x ∈ xs, cut' (f x) = cut x) :
    pieces cut' (xs.map f) =
      (pieces cut xs).map (List.map f) :=
  ((maximalRuns_pieces cut xs).map hCut).eq_pieces.symm

@[simp] theorem pieces_nil : pieces cut [] = [] := rfl

theorem pieces_append_cut
    (xs ys : List α)
    {x : α}
    (hCut : cut x = true) :
    pieces cut (xs ++ x :: ys) =
      pieces cut xs ++ pieces cut ys := by
  have hRuns :=
    (maximalRuns_pieces cut xs).append_cut hCut
      (maximalRuns_pieces cut ys)
  exact hRuns.eq_pieces.symm

/- Cuts at the front of a list belong to no piece. -/
theorem pieces_cuts_append
    {cuts : List α}
    (xs : List α)
    (hCuts : ∀ x ∈ cuts, cut x = true) :
    pieces cut (cuts ++ xs) = pieces cut xs := by
  induction cuts with
  | nil => rfl
  | cons x cuts ih =>
      have hx : cut x = true := hCuts x List.mem_cons_self
      have hRest := ih fun y hy =>
        hCuts y (List.mem_cons_of_mem _ hy)
      have hHead := pieces_append_cut [] (cuts ++ xs) hx
      rw [List.nil_append, pieces_nil, List.nil_append]
        at hHead
      rw [List.cons_append, hHead, hRest]

/- Cuts between two lists are as good as one. -/
theorem pieces_append_cuts_append
    (xs : List α)
    {cuts : List α}
    (ys : List α)
    (hNe : cuts ≠ [])
    (hCuts : ∀ x ∈ cuts, cut x = true) :
    pieces cut (xs ++ cuts ++ ys) =
      pieces cut xs ++ pieces cut ys := by
  cases cuts with
  | nil => exact absurd rfl hNe
  | cons x cuts =>
      have hx : cut x = true := hCuts x List.mem_cons_self
      have hRest := pieces_cuts_append ys fun y hy =>
        hCuts y (List.mem_cons_of_mem x hy)
      rw [List.append_assoc, List.cons_append,
        pieces_append_cut xs _ hx, hRest]

/- What is cut all over has no pieces. -/
theorem pieces_eq_nil_iff
    {xs : List α} :
    pieces cut xs = [] ↔ ∀ x ∈ xs, cut x = true := by
  constructor
  · intro hNone x hMem
    have hFlat := flatten_pieces cut xs
    rw [hNone, List.flatten_nil, eq_comm,
      List.filter_eq_nil_iff] at hFlat
    simpa using hFlat x hMem
  · intro hCuts
    have hAll := pieces_cuts_append [] hCuts
    rwa [List.append_nil, pieces_nil] at hAll

end SqlAudit

------------------------------------------------------------
-- The First Piece
------------------------------------------------------------

namespace SqlAudit

variable {α : Type}
variable {cut : α → Bool}

/- The list is divided around its first run. -/
structure FirstRun
    (cut : α → Bool)
    (xs cuts run rest : List α) : Prop where
  split : xs = cuts ++ run ++ rest
  cuts : ∀ x ∈ cuts, cut x = true
  ne_nil : run ≠ []
  free : ∀ x ∈ run, cut x = false
  stop : ∀ x, rest.head? = some x → cut x = true

/- The first run stands behind cuts and before a cut. -/
theorem MaximalRuns.exists_firstRun
    {xs run : List α}
    {runs : List (List α)}
    (hRuns : MaximalRuns cut xs runs)
    (hHead : runs.head? = some run) :
    ∃ cuts rest, FirstRun cut xs cuts run rest := by
  induction hRuns with
  | nil => cases hHead
  | @cut x xs runs hCut _ ih =>
      rcases ih hHead with ⟨cuts, rest, hFirst⟩
      refine ⟨x :: cuts, rest, ?_, ?_, hFirst.ne_nil,
        hFirst.free, hFirst.stop⟩
      · rw [hFirst.split]
        rfl
      · exact List.forall_mem_cons.mpr ⟨hCut, hFirst.cuts⟩
  | @run first rest runs hNe hFree hEnd _ _ =>
      have hSame : first = run := Option.some.inj hHead
      subst hSame
      exact ⟨[], rest, rfl, by simp, hNe, hFree, hEnd⟩

theorem head?_pieces_eq_some_iff
    {xs run : List α} :
    (pieces cut xs).head? = some run ↔
      ∃ cuts rest, FirstRun cut xs cuts run rest := by
  constructor
  · exact (maximalRuns_pieces cut xs).exists_firstRun
  · rintro ⟨cuts, rest, hFirst⟩
    have hRuns :=
      MaximalRuns.run hFirst.ne_nil hFirst.free hFirst.stop
        (maximalRuns_pieces cut rest)
    rw [hFirst.split, List.append_assoc,
      pieces_cuts_append _ hFirst.cuts, ← hRuns.eq_pieces]
    rfl

/- The cuts go on up to the first element that is none. -/
theorem FirstRun.cuts_eq
    {xs cuts run rest : List α}
    (hFirst : FirstRun cut xs cuts run rest) :
    cuts = xs.takeWhile cut := by
  rcases List.exists_cons_of_ne_nil hFirst.ne_nil with
    ⟨x, run', rfl⟩
  have hFree : ¬ cut x = true := by
    simp [hFirst.free x List.mem_cons_self]
  rw [hFirst.split, List.append_assoc,
    List.takeWhile_append_of_pos hFirst.cuts,
    List.cons_append, List.takeWhile_cons_of_neg hFree,
    List.append_nil]

/- A list is divided in one way only. -/
theorem FirstRun.unique
    {xs cuts run rest cuts' run' rest' : List α}
    (hFirst : FirstRun cut xs cuts run rest)
    (hFirst' : FirstRun cut xs cuts' run' rest') :
    cuts = cuts' ∧ run = run' ∧ rest = rest' := by
  have hCuts : cuts = cuts' :=
    hFirst.cuts_eq.trans hFirst'.cuts_eq.symm
  have hRun : run = run' := by
    have hHead :=
      head?_pieces_eq_some_iff.mpr ⟨cuts, rest, hFirst⟩
    rw [head?_pieces_eq_some_iff.mpr
      ⟨cuts', rest', hFirst'⟩] at hHead
    exact (Option.some.inj hHead).symm
  subst hCuts hRun
  have hSplit := hFirst.split.symm.trans hFirst'.split
  exact ⟨rfl, rfl, List.append_cancel_left hSplit⟩

end SqlAudit
