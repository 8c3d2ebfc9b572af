import SqlAudit.Audit
import SqlAudit.Proofs.Check.Outcome
import SqlAudit.Proofs.Except
import SqlAudit.Proofs.Text.Lowercase

/-
  Normal forms of texts.

  The normal form of a text is made of its words, each in
  small letters of its own, with single spaces in between. It
  is its own normal form, and so are the statements of a
  script. A report shows them as they are, since the
  lowercasing of a statement changes nothing about them.

  Key definitions include:
    * `SqlAudit.Text.IsWord`
    * `SqlAudit.Text.SinglySpaced`

  Key theorems include:
    * `SqlAudit.Text.words_unwords`
    * `SqlAudit.Text.lower_unwords`
    * `SqlAudit.normalize_eq_unwords`
    * `SqlAudit.normalize_normalize`
    * `SqlAudit.Script.normal_forms_are_kept`
-/

------------------------------------------------------------
-- Words And Spaces
------------------------------------------------------------

namespace SqlAudit.Text

/- Some characters, none of them blank. -/
def IsWord (w : List Char) : Prop :=
  w ≠ [] ∧ ∀ c ∈ w, isBlank c = false

theorem isWord_of_mem_words
    {s w : List Char}
    (hMem : w ∈ words s) :
    IsWord w := by
  rcases (maximalRuns_pieces isBlank s).of_mem hMem with
    ⟨hSome, hVisible, _⟩
  exact ⟨hSome, hVisible⟩

theorem unwords_cons_cons
    (w v : List Char)
    (ws : List (List Char)) :
    unwords (w :: v :: ws) = w ++ ' ' :: unwords (v :: ws) := by
  simp [unwords, List.intercalate_cons_cons]

@[simp] theorem unwords_singleton
    (w : List Char) :
    unwords [w] = w := by
  simp [unwords]

theorem IsWord.words_eq
    {w : List Char}
    (hWord : IsWord w) :
    words w = [w] := by
  have hRuns :
      MaximalRuns isBlank (w ++ []) [w] :=
    .run hWord.1 hWord.2 (by simp) .nil
  rw [List.append_nil] at hRuns
  exact hRuns.eq_pieces.symm

/- Words can be read back from the text they make. -/
theorem words_unwords
    {ws : List (List Char)}
    (hWords : ∀ w ∈ ws, IsWord w) :
    words (unwords ws) = ws := by
  induction ws with
  | nil => rfl
  | cons w ws ih =>
      rcases List.forall_mem_cons.mp hWords with
        ⟨hHead, hTail⟩
      cases ws with
      | nil => rw [unwords_singleton, hHead.words_eq]
      | cons v ws =>
          have hCut :
              words (w ++ ' ' :: unwords (v :: ws)) =
                words w ++ words (unwords (v :: ws)) :=
            pieces_append_cut _ _ (by decide)
          rw [unwords_cons_cons, hCut, hHead.words_eq,
            ih hTail, List.singleton_append]

/-
  Every blank of the text is a space, and it stands between
  two characters that are no blanks.
-/
def SinglySpaced (text : List Char) : Prop :=
  ∀ before c after,
    text = before ++ c :: after →
    isBlank c = true →
      c = ' ' ∧
        (∃ x, before.getLast? = some x ∧ isBlank x = false) ∧
        ∃ y, after.head? = some y ∧ isBlank y = false

theorem IsWord.exists_getLast?
    {w : List Char}
    (hWord : IsWord w) :
    ∃ x, w.getLast? = some x ∧ isBlank x = false :=
  ⟨w.getLast hWord.1, List.getLast?_eq_some_getLast hWord.1,
    hWord.2 _ (List.getLast_mem hWord.1)⟩

theorem IsWord.exists_head?_unwords
    {w : List Char}
    (hWord : IsWord w)
    (ws : List (List Char)) :
    ∃ y, (unwords (w :: ws)).head? = some y ∧
      isBlank y = false := by
  rcases List.exists_cons_of_ne_nil hWord.1 with
    ⟨y, rest, rfl⟩
  refine ⟨y, ?_, hWord.2 y List.mem_cons_self⟩
  cases ws with
  | nil => simp
  | cons v ws => simp [unwords_cons_cons]

/-
  Words make a singly spaced text. A blank is none of the
  first word: it is the space behind it, or it belongs to
  what the other words make.
-/
theorem singlySpaced_unwords
    {ws : List (List Char)}
    (hWords : ∀ w ∈ ws, IsWord w) :
    SinglySpaced (unwords ws) := by
  induction ws with
  | nil =>
      intro before c after hText _
      simp [unwords] at hText
  | cons w ws ih =>
      rcases List.forall_mem_cons.mp hWords with
        ⟨hHead, hTail⟩
      intro before c after hText hBlank
      have hNot : c ∉ w := by
        intro hMem
        rw [hHead.2 c hMem] at hBlank
        cases hBlank
      cases ws with
      | nil =>
          rw [unwords_singleton] at hText
          exact absurd (by simp [hText]) hNot
      | cons v ws =>
          have hNext := (hTail v List.mem_cons_self)
          rw [unwords_cons_cons] at hText
          rcases List.append_eq_append_iff.mp hText with
            ⟨inner, rfl, hRest⟩ | ⟨inner, rfl, hRest⟩
          · cases inner with
            | nil =>
                cases hRest
                rw [List.append_nil]
                exact ⟨rfl, hHead.exists_getLast?,
                  hNext.exists_head?_unwords ws⟩
            | cons x inner =>
                rw [List.cons_append, List.cons.injEq] at hRest
                rcases ih hTail inner c after hRest.2 hBlank with
                  ⟨hSpace, ⟨y, hLast, hVisible⟩, hAfter⟩
                refine ⟨hSpace, ⟨y, ?_, hVisible⟩, hAfter⟩
                simp [List.getLast?_cons, hLast]
          · cases inner with
            | nil =>
                cases hRest
                rw [List.append_nil] at hHead
                exact ⟨rfl, hHead.exists_getLast?,
                  hNext.exists_head?_unwords ws⟩
            | cons x inner =>
                cases hRest
                exact absurd (by simp) hNot

end SqlAudit.Text

------------------------------------------------------------
-- Normal Forms
------------------------------------------------------------

namespace SqlAudit

namespace Text

theorem IsWord.lower
    {w : List Char}
    (hWord : IsWord w) :
    IsWord (Text.lower w) :=
  ⟨lower_ne_nil hWord.1, fun _ hMem =>
    isBlank_of_mem_lower hWord.2 hMem⟩

/- Words are lowercased one by one. -/
theorem lower_unwords
    (ws : List (List Char)) :
    lower (unwords ws) = unwords (ws.map lower) := by
  induction ws with
  | nil => rfl
  | cons w ws ih =>
      cases ws with
      | nil => simp
      | cons v ws =>
          have hCut :=
            lower_append_blank (b := ' ') (by decide) w
              (unwords (v :: ws))
          rw [unwords_cons_cons, hCut, ih]
          simp [unwords_cons_cons]

end Text

theorem normalize_eq_unwords
    (text : List Char) :
    normalize text =
      Text.unwords ((Text.words text).map Text.lower) :=
  Text.lower_unwords _

theorem isWord_of_mem_map_lower
    {text w : List Char}
    (hMem : w ∈ (Text.words text).map Text.lower) :
    Text.IsWord w := by
  rcases List.mem_map.mp hMem with ⟨v, hWord, rfl⟩
  exact (Text.isWord_of_mem_words hWord).lower

theorem words_normalize
    (text : List Char) :
    Text.words (normalize text) =
      (Text.words text).map Text.lower := by
  rw [normalize_eq_unwords]
  exact Text.words_unwords fun _ => isWord_of_mem_map_lower

theorem lower_normalize
    (text : List Char) :
    Text.lower (normalize text) = normalize text :=
  Text.lower_lower _

/- A normal form is its own normal form. -/
theorem normalize_normalize
    (text : List Char) :
    normalize (normalize text) = normalize text := by
  rw [normalize, words_normalize, ← normalize_eq_unwords,
    lower_normalize]

end SqlAudit

------------------------------------------------------------
-- Statements Of Scripts And Reports
------------------------------------------------------------

namespace SqlAudit

/- The statements of a report are those of its texts. -/
theorem statements_of_report
    {config : Configuration}
    {catalog : List Rule}
    {texts : List (List Char)}
    {report : Report}
    (hReport :
      (check config catalog texts).report = .ok report) :
    report.statements.map StatementReport.statement =
      texts.map Statement.ofText := by
  rcases (Run.report_eq_ok_iff config catalog texts
    report).mp hReport with ⟨_, rfl⟩
  simp only [answeredReport, answeredFrom, List.map_map]
  have hText :
      StatementReport.statement ∘
          (fun i : Inspection =>
            ⟨i.index, i.statement, i.findings⟩) ∘
          (fun p : List Char × Nat =>
            answered config catalog p.2 (.ofText p.1)) =
        Statement.ofText ∘ Prod.fst := rfl
  rw [hText, ← List.map_map, List.zipIdx_map_fst]

namespace Script

/- The statements of a script are normal forms. -/
theorem normalize_of_mem_statements
    {script : List Char}
    {dialect : Value}
    {texts : List (List Char)}
    (hTexts : statements script dialect = .ok texts)
    {text : List Char}
    (hMem : text ∈ texts) :
    normalize text = text := by
  unfold statements at hTexts
  split at hTexts
  · cases hTexts
  · split at hTexts
    · cases hTexts
    · cases hTexts
      rcases List.mem_map.mp hMem with ⟨run, _, rfl⟩
      exact normalize_normalize _

/- What is checked are the statements of the script. -/
theorem statements_of_audit
    {config : Configuration}
    {catalog : List Rule}
    {script : List Char}
    {a : Audit}
    (hAudit : audit config catalog script = .ok a) :
    statements script config.dialect = .ok a.texts ∧
      a.run = check config catalog a.texts := by
  rcases ok_of_bind_eq_ok hAudit with ⟨texts, hTexts, hRest⟩
  cases hRest
  exact ⟨hTexts, rfl⟩

/-
  The normal form of a text is made of its words, each in
  small letters of its own, with single spaces in between. A
  normal form is its own normal form, and the statement with
  this text has no other text. The statements of a script are
  such texts, and the report of its audit shows them one by
  one.
-/
theorem normal_forms_are_kept :
    (∀ text,
      normalize text =
          Text.unwords ((Text.words text).map Text.lower) ∧
        Text.SinglySpaced (normalize text) ∧
        normalize (normalize text) = normalize text ∧
        (Statement.ofText (normalize text)).text =
          normalize text) ∧
    (∀ script dialect texts,
      statements script dialect = .ok texts →
      ∀ text ∈ texts, normalize text = text) ∧
    (∀ config catalog script a report,
      audit config catalog script = .ok a →
      a.run.report = .ok report →
      statements script config.dialect =
        .ok (report.statements.map fun r =>
          r.statement.text)) := by
  refine ⟨fun text => ⟨normalize_eq_unwords text, ?_,
    normalize_normalize text, lower_normalize text⟩, ?_, ?_⟩
  · rw [normalize_eq_unwords]
    exact Text.singlySpaced_unwords fun _ =>
      isWord_of_mem_map_lower
  · intro script dialect texts hTexts text hMem
    exact normalize_of_mem_statements hTexts hMem
  · intro config catalog script a report hAudit hReport
    rcases statements_of_audit hAudit with ⟨hTexts, hRun⟩
    rw [hRun] at hReport
    have hShown := statements_of_report hReport
    have hKept :
        a.texts.map (fun t => (Statement.ofText t).text) =
          a.texts.map id := by
      apply List.map_congr_left
      intro text hMem
      have hNormal := normalize_of_mem_statements hTexts hMem
      rw [← hNormal]
      exact lower_normalize text
    calc
      statements script config.dialect
        = .ok (a.texts.map fun t =>
            (Statement.ofText t).text) := by
          rw [hTexts, hKept, List.map_id]
      _ = .ok ((report.statements.map
            StatementReport.statement).map Statement.text) := by
          rw [hShown, List.map_map]
          rfl
      _ = .ok (report.statements.map fun r =>
            r.statement.text) := by
          rw [List.map_map]
          rfl

/-
  The sigma of the first word is final, though a letter comes
  after the gap. The dotted letter becomes two characters.
-/
theorem normal_forms_are_kept_of_sigmas :
    let script := "AΣ\tİ ;ΣB".toList
    let texts := ["aς i\u0307".toList, "σb".toList]
    let config : Configuration :=
      ⟨.info, .flag false, .flag false, .text "postgres"⟩
    statements script (.text "postgres") = .ok texts ∧
      (∀ text ∈ texts, normalize text = text) ∧
      ∃ a report,
        audit config [] script = .ok a ∧
          a.run.report = .ok report ∧
          statements script config.dialect =
            .ok (report.statements.map fun r =>
              r.statement.text) := by
  intro script texts config
  have hFound :
      Dialect.postgres.tokens script =
        .ok [⟨.other, 0, 2⟩, ⟨.other, 3, 4⟩,
          ⟨.semicolon, 5, 6⟩, ⟨.other, 6, 8⟩] := by
    decide
  have hStatements :
      statements script (.text "postgres") = .ok texts := by
    have hChoice :
        Dialect.choose (.text "postgres") =
          .ok Dialect.postgres := by
      rfl
    simp only [statements, hChoice, hFound]
    exact congrArg Except.ok (by decide +kernel)
  have hAudit :
      audit config [] script =
        .ok ⟨.text "postgres", texts,
          check config [] texts⟩ := by
    simp only [audit, config, hStatements]
    rfl
  rcases normal_forms_are_kept with ⟨_, hKept, hShown⟩
  exact ⟨hStatements, hKept script _ texts hStatements, _, _,
    hAudit, rfl, hShown config [] script _ _ hAudit rfl⟩

end Script

end SqlAudit
