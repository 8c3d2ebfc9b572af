import SqlAudit.Files.Tree
import SqlAudit.Proofs.Text.Cut

/-
  Null characters in paths.

  No path holds a null character, and a name that holds one
  is not refused by the system but stops the run. Reading
  stops exactly for such names. Writing stops only for them;
  it may be refused before, when directories are made.

  Key theorems include:
    * `SqlAudit.FileTree.checkPath_ofText`
    * `SqlAudit.FileTree.read_eq_nullInPath_iff`
    * `SqlAudit.FileTree.null_of_write`
-/

------------------------------------------------------------
-- Characters Of A Path
------------------------------------------------------------

namespace SqlAudit

/- The names along a path hold what its text holds. -/
theorem Path.null_mem_names_iff
    {s : List Char} :
    (∃ name ∈ (Path.ofText s).names, '\x00' ∈ name) ↔
      '\x00' ∈ s := by
  rw [← Text.mem_cutAt_iff (by decide : '\x00' ≠ '/')]
  constructor
  · rintro ⟨name, hMem, hNull⟩
    exact ⟨name, (List.mem_filter.mp hMem).1, hNull⟩
  · rintro ⟨name, hMem, hNull⟩
    refine ⟨name, ?_, hNull⟩
    -- Neither of the names that are left out holds one.
    have hSome : name ≠ [] := List.ne_nil_of_mem hNull
    have hDot : name ≠ ['.'] := by
      rintro rfl
      exact absurd hNull (by decide)
    simp [ofText, hMem, hSome, hDot]

end SqlAudit

------------------------------------------------------------
-- Reading And Writing
------------------------------------------------------------

namespace SqlAudit

namespace FileTree

theorem checkPath_eq_error_iff
    {p : Path}
    {e : Error} :
    checkPath p = .error e ↔
      (∃ name ∈ p.names, '\x00' ∈ name) ∧
        e = .nullInPath := by
  unfold checkPath
  have hAny :
      p.names.any (·.contains '\x00') = true ↔
        ∃ name ∈ p.names, '\x00' ∈ name := by
    simp
  rw [← hAny]
  split
  · rename_i hNull
    simp only [hNull, true_and, Except.error.injEq]
    exact eq_comm
  · rename_i hNull
    simp only [hNull, false_and, reduceCtorEq]

theorem checkPath_ofText
    {s : List Char} :
    checkPath (.ofText s) = .error .nullInPath ↔
      '\x00' ∈ s := by
  rw [checkPath_eq_error_iff, Path.null_mem_names_iff]
  simp

/- Reading stops exactly for a null character. -/
theorem read_eq_nullInPath_iff
    {tree : FileTree}
    {s : List Char} :
    tree.read (.ofText s) = .error .nullInPath ↔
      '\x00' ∈ s := by
  rw [← checkPath_ofText]
  unfold read
  cases hCheck : checkPath (.ofText s) with
  | error e => simp [bind, Except.bind]
  | ok _ =>
      simp only [bind, Except.bind, reduceCtorEq, iff_false]
      cases tree.locate (.ofText s) with
      | error cause => simp
      | ok place =>
          cases hEntry : tree.entry? place with
          | none => simp [hEntry]
          | some entry =>
              cases entry <;>
                simp [hEntry, pure, Except.pure]

theorem unlessThere_ne_nullInPath
    (tree : FileTree)
    (p : Path)
    (cause : Cause) :
    tree.unlessThere p cause ≠ .error .nullInPath := by
  unfold unlessThere
  split <;> simp

/- To make directories can only be refused. -/
theorem makeFrom_ne_nullInPath
    (tree : FileTree)
    (start : Path.Start)
    (names : List (List Char)) :
    tree.makeFrom start names ≠ .error .nullInPath := by
  induction names with
  | nil => simp [makeFrom]
  | cons name above ih =>
      unfold makeFrom
      dsimp only
      split
      · simp
      · cases hAbove : tree.makeFrom start above with
        | error e =>
            rw [hAbove] at ih
            simpa [bind, Except.bind] using ih
        | ok made =>
            simp only [bind, Except.bind]
            split
            · simp
            · exact made.unlessThere_ne_nullInPath _ _
      · exact tree.unlessThere_ne_nullInPath _ _

theorem target_eq_nullInPath
    {tree : FileTree}
    {p : Path}
    (hTarget : tree.target p = .error .nullInPath) :
    checkPath p = .error .nullInPath := by
  unfold target at hTarget
  cases hCheck : checkPath p with
  | error e => simpa [hCheck, bind, Except.bind] using hTarget
  | ok _ =>
      simp only [hCheck, bind, Except.bind] at hTarget
      split at hTarget
      · simp at hTarget
      · split at hTarget <;>
          simp [pure, Except.pure] at hTarget

/- Writing stops only for a null character. -/
theorem null_of_write
    {tree : FileTree}
    {s : List Char}
    (hWrite : tree.write (.ofText s) = .error .nullInPath) :
    '\x00' ∈ s := by
  unfold write at hWrite
  cases hMake :
      tree.makeDirectories (Path.ofText s).parent with
  | ok made =>
      simp only [hMake, bind, Except.bind] at hWrite
      exact checkPath_ofText.mp (target_eq_nullInPath hWrite)
  | error e =>
      have hNull : e = .nullInPath := by
        simpa [hMake, bind, Except.bind] using hWrite
      subst hNull
      unfold makeDirectories at hMake
      cases hCheck : checkPath (Path.ofText s).parent with
      | ok _ =>
          simp only [hCheck, bind, Except.bind] at hMake
          exact absurd hMake (tree.makeFrom_ne_nullInPath _ _)
      | error e =>
          rcases checkPath_eq_error_iff.mp hCheck with
            ⟨⟨name, hMem, hNull⟩, _⟩
          apply Path.null_mem_names_iff.mp
          exact ⟨name, List.dropLast_subset _ hMem, hNull⟩

end FileTree

end SqlAudit
