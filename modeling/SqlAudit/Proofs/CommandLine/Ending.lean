import SqlAudit.Proofs.Catalog.Answers
import SqlAudit.Proofs.CommandLine.Selection
import SqlAudit.Proofs.Files.Null

/-
  How a run ends.

  A run checks its settings, selects rules, reads a script,
  splits it, checks its statements and writes a report. Each
  of these stages can fail, and each failure is reported with
  exit code 2. The check of the statements cannot fail, since
  the built-in rules answer on every statement.

  Two things are not reported but escape from the run: the
  bytes of the script are no text, or the name of a file holds
  a null character.

  Key definitions include:
    * `SqlAudit.Outcome.Reports`
    * `SqlAudit.CommandLine.Begins`
    * `SqlAudit.CommandLine.Splits`
    * `SqlAudit.CommandLine.Fails`
    * `SqlAudit.CommandLine.Completes`
    * `SqlAudit.CommandLine.Escapes`
    * `SqlAudit.CommandLine.Legible`

  Key theorems include:
    * `SqlAudit.CommandLine.reports_of_fails`
    * `SqlAudit.CommandLine.ending_of_completes`
    * `SqlAudit.CommandLine.ending_of_escapes`
    * `SqlAudit.CommandLine.exists_stage`
    * `SqlAudit.CommandLine.failures_return_two`
-/

------------------------------------------------------------
-- Stages Of A Run
------------------------------------------------------------

namespace SqlAudit

/- The run returns 2 and names the failure. -/
structure Outcome.Reports
    (out : Outcome)
    (cause : Failure) : Prop where
  ending : out.ending = .returned 2
  complaint :
    out.complaint =
      Console.clean ("Error: ".toList ++ cause.message) ++
        ['\n']

namespace CommandLine

/- The setting names a file, which an empty text does not. -/
def Names
    (setting : Option (List Char))
    (name : List Char) : Prop :=
  setting = some name ∧ name ≠ []

theorem filter_eq_some_iff
    {setting : Option (List Char)}
    {name : List Char} :
    setting.filter (!·.isEmpty) = some name ↔
      Names setting name := by
  simp [Names, Option.filter_eq_some_iff]

section Stages

variable (registry : Registry)
variable (around : Surroundings)
variable (o : Options)

/- The run comes as far as to a script. -/
structure Begins
    (config : Configuration)
    (catalog : List Rule) : Prop where
  settings : o.settings.check = .ok config
  checks : o.listRules = false
  selection : selectRules registry o = .ok catalog

/- The run comes as far as to the statements of a script. -/
structure Splits
    (config : Configuration)
    (catalog : List Rule)
    (texts : List (List Char)) : Prop where
  begins : Begins registry o config catalog
  statements :
    ∃ script,
      readScript around o.file = .ok script ∧
        Script.statements script config.dialect = .ok texts

/- The failures of a run, stage by stage. -/
inductive Fails : Failure → Prop
| configuration
    {e : Configuration.Error} :
    o.settings.check = .error e →
    Fails (.configuration e)
| selection
    {config : Configuration}
    {id : Value} :
    o.settings.check = .ok config →
    o.listRules = false →
    FirstUnknown registry o id →
    Fails (.selection (.unknownRule id registry.ids))
| reading
    {config : Configuration}
    {catalog : List Rule}
    {name : List Char}
    {cause : FileTree.Cause}
    {path : Path} :
    Begins registry o config catalog →
    Names o.file name →
    around.files.read (.ofText name) =
      .error (.refused cause path) →
    Fails (.files cause path)
| extraction
    {config : Configuration}
    {catalog : List Rule}
    {script : List Char}
    {e : Script.Error} :
    Begins registry o config catalog →
    readScript around o.file = .ok script →
    Script.statements script config.dialect = .error e →
    Fails (.script e)
| writing
    {config : Configuration}
    {catalog : List Rule}
    {texts : List (List Char)}
    {name : List Char}
    {cause : FileTree.Cause}
    {path : Path} :
    Splits registry around o config catalog texts →
    Names o.output name →
    around.files.write (.ofText name) =
      .error (.refused cause path) →
    Fails (.files cause path)

/- The run does what it is asked for, with this code. -/
inductive Completes : Nat → Prop
| listing
    {config : Configuration} :
    o.settings.check = .ok config →
    o.listRules = true →
    Completes 0
| report
    {config : Configuration}
    {catalog : List Rule}
    {texts : List (List Char)}
    {report : Report} :
    Splits registry around o config catalog texts →
    (check config catalog texts).report = .ok report →
    (∀ name, Names o.output name →
      ∃ place,
        around.files.write (.ofText name) = .ok place) →
    Completes (if report.summary.total = 0 then 0 else 1)

/- What ends a run without being reported. -/
inductive Escapes : Ending → Prop
| undecodable
    {config : Configuration}
    {catalog : List Rule}
    {name : List Char}
    {bytes : List UInt8}
    {e : Utf8.Error} :
    Begins registry o config catalog →
    Names o.file name →
    around.files.read (.ofText name) = .ok bytes →
    Utf8.decode bytes = .error e →
    Escapes (.undecodable e)
| nullInFile
    {config : Configuration}
    {catalog : List Rule}
    {name : List Char} :
    Begins registry o config catalog →
    Names o.file name →
    '\x00' ∈ name →
    Escapes .nullInPath
| nullInOutput
    {config : Configuration}
    {catalog : List Rule}
    {texts : List (List Char)}
    {name : List Char} :
    Splits registry around o config catalog texts →
    Names o.output name →
    around.files.write (.ofText name) = .error .nullInPath →
    Escapes .nullInPath

/-
  The file that is read holds text, and no name holds a null
  character.
-/
structure Legible : Prop where
  file : ∀ name, Names o.file name → '\x00' ∉ name
  output : ∀ name, Names o.output name → '\x00' ∉ name
  text : ∀ name bytes,
    Names o.file name →
      around.files.read (.ofText name) = .ok bytes →
        ∃ s, Utf8.decode bytes = .ok s

end Stages

end CommandLine

end SqlAudit

------------------------------------------------------------
-- Reading The Script
------------------------------------------------------------

namespace SqlAudit

namespace CommandLine

variable {around : Surroundings}
variable {o : Options}

theorem readScript_of_names
    (around : Surroundings)
    {name : List Char}
    (hName : Names o.file name) :
    readScript around o.file =
      (((around.files.read (.ofText name)).mapError
          Interruption.ofFiles).bind fun bytes =>
        match Utf8.decode bytes with
        | .ok text => .ok (Text.unifyLines text)
        | .error e => .error (.undecodable e)) := by
  unfold readScript
  rw [filter_eq_some_iff.mpr hName]
  rfl

theorem readScript_of_input
    {input : List Char}
    (hNone : ∀ name, ¬ Names o.file name)
    (hInput : around.input = some input) :
    readScript around o.file = .ok input := by
  unfold readScript
  cases hFile : o.file.filter (!·.isEmpty) with
  | none =>
      simp only [hInput]
      rfl
  | some name =>
      exact absurd (filter_eq_some_iff.mp hFile) (hNone name)

end CommandLine

end SqlAudit

------------------------------------------------------------
-- What Each Stage Leads To
------------------------------------------------------------

namespace SqlAudit

namespace CommandLine

variable {registry : Registry}
variable {around : Surroundings}
variable {o : Options}
variable {config : Configuration}
variable {catalog : List Rule}

theorem perform_of_interruption
    (hSettings : o.settings.check = .ok config)
    (hChecks : o.listRules = false)
    {i : Interruption}
    (hExamine :
      examine registry around o config = .error i) :
    perform registry around o = .interrupted i := by
  simp [perform, hSettings, hChecks, hExamine]

theorem examine_of_unselected
    {e : Selection.Error}
    (hSelect : selectRules registry o = .error e) :
    examine registry around o config =
      .error (.ofSelection e) := by
  simp [examine, hSelect, Except.mapError, bind, Except.bind]

theorem Begins.perform_of_unread
    (hBegins : Begins registry o config catalog)
    {i : Interruption}
    (hScript : readScript around o.file = .error i) :
    perform registry around o = .interrupted i := by
  apply perform_of_interruption hBegins.settings
    hBegins.checks
  simp [examine, hBegins.selection, hScript,
    Except.mapError, bind, Except.bind]

theorem Begins.perform_of_unsplit
    (hBegins : Begins registry o config catalog)
    {script : List Char}
    (hScript : readScript around o.file = .ok script)
    {e : Script.Error}
    (hStatements :
      Script.statements script config.dialect = .error e) :
    perform registry around o =
      .interrupted (.failure (.script e)) := by
  apply perform_of_interruption hBegins.settings
    hBegins.checks
  simp [examine, hBegins.selection, hScript, audit,
    hStatements, Except.mapError, bind, Except.bind]

theorem Splits.perform_eq
    {texts : List (List Char)}
    (hSplits :
      Splits registry around o config catalog texts)
    {report : Report}
    (hReport :
      (check config catalog texts).report = .ok report) :
    ∃ trace,
      perform registry around o =
        deliver around o trace report := by
  rcases hSplits with ⟨hBegins, script, hScript, hStatements⟩
  let a : Audit :=
    ⟨config.dialect, texts, check config catalog texts⟩
  have hExamine :
      examine registry around o config = .ok a := by
    simp [a, examine, hBegins.selection, hScript, audit,
      hStatements, Except.mapError, bind, Except.bind, pure,
      Except.pure]
  have hRun : a.run.report = .ok report := hReport
  exact ⟨a.trace, by
    simp [perform, hBegins.settings, hBegins.checks,
      hExamine, hRun]⟩

theorem deliver_of_unwritten
    {trace : List Trace.Record}
    {report : Report}
    {name : List Char}
    {e : FileTree.Error}
    (hName : Names o.output name)
    (hWrite :
      around.files.write (.ofText name) = .error e) :
    ∃ out : Outcome,
      deliver around o trace report =
        out.interrupt (.ofFiles e) := by
  unfold deliver
  rw [filter_eq_some_iff.mpr hName]
  simp only [hWrite]
  exact ⟨_, rfl⟩

theorem deliver_ending
    {trace : List Trace.Record}
    {report : Report}
    (hSaved : ∀ name, Names o.output name →
      ∃ place,
        around.files.write (.ofText name) = .ok place) :
    (deliver around o trace report).ending =
      .returned (if report.summary.total = 0 then 0 else 1) := by
  unfold deliver
  cases hName : o.output.filter (!·.isEmpty) with
  | none => simp
  | some name =>
      rcases hSaved name (filter_eq_some_iff.mp hName) with
        ⟨place, hWrite⟩
      simp [hWrite]

theorem reports_interrupt
    (out : Outcome)
    (cause : Failure) :
    (out.interrupt (.failure cause)).Reports cause :=
  ⟨rfl, rfl⟩

end CommandLine

end SqlAudit

------------------------------------------------------------
-- Endings
------------------------------------------------------------

namespace SqlAudit

namespace CommandLine

variable {around : Surroundings}
variable {o : Options}

/- Every failure is reported. -/
theorem reports_of_fails
    (hChoices : o.OfChoices)
    {cause : Failure}
    (hFails : Fails .standard around o cause) :
    (perform .standard around o).Reports cause := by
  cases hFails with
  | configuration hSettings =>
      simp only [perform, hSettings]
      exact reports_interrupt _ _
  | @selection config id hSettings hChecks hUnknown =>
      have hSelect :=
        (selectRules_eq_error_iff hChoices).mpr
          ⟨id, hUnknown, rfl⟩
      rw [perform_of_interruption hSettings hChecks
        (examine_of_unselected hSelect)]
      exact reports_interrupt _ _
  | reading hBegins hName hRead =>
      have hScript := readScript_of_names around hName
      simp only [hRead, Except.mapError, Except.bind]
        at hScript
      rw [hBegins.perform_of_unread hScript]
      exact reports_interrupt _ _
  | extraction hBegins hScript hStatements =>
      rw [hBegins.perform_of_unsplit hScript hStatements]
      exact reports_interrupt _ _
  | @writing config _ texts _ _ _ hSplits hName hWrite =>
      rcases Registry.exists_report_of_select
        hSplits.begins.selection config texts with
        ⟨report, hReport⟩
      rcases hSplits.perform_eq hReport with ⟨trace, hPerform⟩
      rcases deliver_of_unwritten hName hWrite with
        ⟨out, hDeliver⟩
      rw [hPerform, hDeliver]
      exact reports_interrupt _ _

theorem ending_of_completes
    {registry : Registry}
    {code : Nat}
    (hCompletes : Completes registry around o code) :
    code ≤ 1 ∧
      (perform registry around o).ending =
        .returned code := by
  cases hCompletes with
  | listing hSettings hList =>
      simp [perform, hSettings, hList]
  | report hSplits hReport hSaved =>
      constructor
      · split <;> omega
      · rcases hSplits.perform_eq hReport with
          ⟨trace, hPerform⟩
        rw [hPerform]
        exact deliver_ending hSaved

theorem ending_of_escapes
    {e : Ending}
    (hEscapes : Escapes .standard around o e) :
    (perform .standard around o).ending = e := by
  cases hEscapes with
  | undecodable hBegins hName hRead hDecode =>
      have hScript := readScript_of_names around hName
      simp only [hRead, hDecode, Except.mapError,
        Except.bind] at hScript
      rw [hBegins.perform_of_unread hScript]
      rfl
  | nullInFile hBegins hName hNull =>
      have hScript := readScript_of_names around hName
      simp only [FileTree.read_eq_nullInPath_iff.mpr hNull,
        Except.mapError, Except.bind] at hScript
      rw [hBegins.perform_of_unread hScript]
      rfl
  | @nullInOutput config _ texts _ hSplits hName hWrite =>
      rcases Registry.exists_report_of_select
        hSplits.begins.selection config texts with
        ⟨report, hReport⟩
      rcases hSplits.perform_eq hReport with ⟨trace, hPerform⟩
      rcases deliver_of_unwritten hName hWrite with
        ⟨out, hDeliver⟩
      rw [hPerform, hDeliver]
      rfl

/- Once there are statements, only writing can go wrong. -/
theorem Splits.exists_stage
    {config : Configuration}
    {catalog : List Rule}
    {texts : List (List Char)}
    (hSplits :
      Splits .standard around o config catalog texts) :
    (∃ cause, Fails .standard around o cause) ∨
      (∃ code, Completes .standard around o code) ∨
      ∃ e, Escapes .standard around o e := by
  by_cases hSaved : ∀ name, Names o.output name →
      ∃ place, around.files.write (.ofText name) = .ok place
  · rcases Registry.exists_report_of_select
      hSplits.begins.selection config texts with
      ⟨report, hReport⟩
    exact .inr (.inl ⟨_, .report hSplits hReport hSaved⟩)
  · push Not at hSaved
    rcases hSaved with ⟨name, hName, hNot⟩
    cases hWrite : around.files.write (.ofText name) with
    | ok place => exact absurd hWrite (hNot place)
    | error e =>
        cases e with
        | refused cause path =>
            exact .inl ⟨_, .writing hSplits hName hWrite⟩
        | nullInPath =>
            exact .inr (.inr
              ⟨_, .nullInOutput hSplits hName hWrite⟩)

theorem Begins.exists_stage_of_script
    {config : Configuration}
    {catalog : List Rule}
    (hBegins : Begins .standard o config catalog)
    {script : List Char}
    (hScript : readScript around o.file = .ok script) :
    (∃ cause, Fails .standard around o cause) ∨
      (∃ code, Completes .standard around o code) ∨
      ∃ e, Escapes .standard around o e := by
  cases hStatements :
      Script.statements script config.dialect with
  | error e =>
      exact .inl ⟨_, .extraction hBegins hScript hStatements⟩
  | ok texts =>
      have hSplits :
          Splits .standard around o config catalog texts :=
        ⟨hBegins, script, hScript, hStatements⟩
      exact hSplits.exists_stage

/- The script comes from a file or from standard input. -/
theorem Begins.exists_stage
    {config : Configuration}
    {catalog : List Rule}
    (hBegins : Begins .standard o config catalog)
    {input : List Char}
    (hInput : around.input = some input) :
    (∃ cause, Fails .standard around o cause) ∨
      (∃ code, Completes .standard around o code) ∨
      ∃ e, Escapes .standard around o e := by
  by_cases hNamed : ∃ name, Names o.file name
  · rcases hNamed with ⟨name, hName⟩
    have hScript := readScript_of_names around hName
    cases hRead : around.files.read (.ofText name) with
    | error e =>
        cases e with
        | refused cause path =>
            exact .inl ⟨_, .reading hBegins hName hRead⟩
        | nullInPath =>
            have hNull :=
              FileTree.read_eq_nullInPath_iff.mp hRead
            exact .inr (.inr
              ⟨_, .nullInFile hBegins hName hNull⟩)
    | ok bytes =>
        cases hDecode : Utf8.decode bytes with
        | error e =>
            exact .inr (.inr
              ⟨_, .undecodable hBegins hName hRead hDecode⟩)
        | ok text =>
            simp only [hRead, hDecode, Except.mapError,
              Except.bind] at hScript
            exact hBegins.exists_stage_of_script hScript
  · exact hBegins.exists_stage_of_script
      (readScript_of_input (not_exists.mp hNamed) hInput)

/- There is no other way for a run to end. -/
theorem exists_stage
    (hChoices : o.OfChoices)
    {input : List Char}
    (hInput : around.input = some input) :
    (∃ cause, Fails .standard around o cause) ∨
      (∃ code, Completes .standard around o code) ∨
      ∃ e, Escapes .standard around o e := by
  cases hSettings : o.settings.check with
  | error e => exact .inl ⟨_, .configuration hSettings⟩
  | ok config =>
      cases hList : o.listRules with
      | true =>
          exact .inr (.inl ⟨_, .listing hSettings hList⟩)
      | false =>
          cases hSelect : selectRules .standard o with
          | error e =>
              rcases (selectRules_eq_error_iff hChoices).mp
                hSelect with ⟨id, hUnknown, _⟩
              exact .inl
                ⟨_, .selection hSettings hList hUnknown⟩
          | ok catalog =>
              have hBegins :
                  Begins .standard o config catalog :=
                ⟨hSettings, hList, hSelect⟩
              exact hBegins.exists_stage hInput

/- Nothing escapes if files hold text. -/
theorem Legible.not_escapes
    (hLegible : Legible around o)
    {e : Ending} :
    ¬ Escapes .standard around o e := by
  intro hEscapes
  cases hEscapes with
  | undecodable _ hName hRead hDecode =>
      rcases hLegible.text _ _ hName hRead with ⟨s, hText⟩
      rw [hDecode] at hText
      cases hText
  | nullInFile _ hName hNull =>
      exact hLegible.file _ hName hNull
  | nullInOutput _ hName hWrite =>
      exact hLegible.output _ hName
        (FileTree.null_of_write hWrite)

end CommandLine

end SqlAudit

------------------------------------------------------------
-- Runs With Accepted Arguments
------------------------------------------------------------

namespace SqlAudit

namespace CommandLine

/-
  A run with accepted arguments returns 0, 1 or 2, as long as
  the file it reads holds text and no name holds a null
  character. It returns 2 exactly if a stage fails, and then
  it names the failure. If the file holds no text, or a name
  holds a null character, that ends the run unreported.
-/
theorem failures_return_two
    {arguments : List (List Char)}
    {o : Options}
    {around : Surroundings}
    {input : List Char}
    (hParse : Options.parse arguments = .ok o)
    (hInput : around.input = some input) :
    let out := run .standard around arguments
    (Legible around o →
      ∃ code, code ≤ 2 ∧ out.ending = .returned code) ∧
    (∀ cause,
      Fails .standard around o cause → out.Reports cause) ∧
    (out.ending = .returned 2 →
      ∃ cause, Fails .standard around o cause) ∧
    (∀ code,
      Completes .standard around o code →
        code ≤ 1 ∧ out.ending = .returned code) ∧
    (∀ e,
      Escapes .standard around o e → out.ending = e) ∧
    ((∃ cause, Fails .standard around o cause) ∨
      (∃ code, Completes .standard around o code) ∨
      ∃ e, Escapes .standard around o e) := by
  intro out
  have hOut : out = perform .standard around o := by
    simp [out, run, hParse]
  have hChoices := Options.ofChoices_of_parse hParse
  have hStage := exists_stage hChoices hInput
  rw [hOut]
  refine ⟨?_, fun _ => reports_of_fails hChoices, ?_,
    fun _ => ending_of_completes,
    fun _ => ending_of_escapes, hStage⟩
  · intro hLegible
    rcases hStage with
      ⟨cause, hFails⟩ | ⟨code, hCompletes⟩ | ⟨e, hEscapes⟩
    · exact ⟨2, le_rfl,
        (reports_of_fails hChoices hFails).ending⟩
    · rcases ending_of_completes hCompletes with
        ⟨hCode, hEnding⟩
      exact ⟨code, by omega, hEnding⟩
    · exact absurd hEscapes hLegible.not_escapes
  · intro hTwo
    rcases hStage with
      hFails | ⟨code, hCompletes⟩ | ⟨e, hEscapes⟩
    · exact hFails
    · rcases ending_of_completes hCompletes with
        ⟨hCode, hEnding⟩
      rw [hTwo] at hEnding
      cases hEnding
      omega
    · have hEnding := ending_of_escapes hEscapes
      rw [hTwo] at hEnding
      subst hEnding
      cases hEscapes

/-
  In the first tree, the last byte of the script belongs to
  no text; in the second one, nobody may open the script.
-/
theorem failures_return_two_of_script :
    let path : Path := .ofText "q.sql".toList
    let around := fun entry =>
      { files := ⟨[(path, entry)]⟩
        workingDirectory := "/".toList
        input := some [] : Surroundings }
    let bytes : List UInt8 :=
      [0x73, 0x65, 0x6c, 0x65, 0x63, 0x74, 0x20, 0xff]
    (run .standard (around (.file bytes))
        ["q.sql".toList]).ending =
      .undecodable ⟨7, 1, 0xff, .badStart⟩ ∧
    (run .standard (around .barred)
        ["q.sql".toList]).Reports (.files .denied path) := by
  intro path around bytes
  let o : Options := { file := some "q.sql".toList }
  have hParse : Options.parse ["q.sql".toList] = .ok o := by
    decide
  have hName : Names o.file "q.sql".toList :=
    ⟨rfl, by decide⟩
  have hBegins :
      Begins .standard o
        ⟨.info, .flag false, .flag false, .text "postgres"⟩
        Registry.standard.rules :=
    ⟨rfl, rfl, rfl⟩
  constructor
  · have hRead :
        (around (.file bytes)).files.read
          (.ofText "q.sql".toList) = .ok bytes := by
      decide
    have hDecode :
        Utf8.decode bytes =
          .error ⟨7, 1, 0xff, .badStart⟩ := by
      decide
    have hInput : (around (.file bytes)).input = some [] :=
      rfl
    have hEnds := failures_return_two hParse hInput
    exact hEnds.2.2.2.2.1 _
      (.undecodable hBegins hName hRead hDecode)
  · have hRead :
        (around .barred).files.read
          (.ofText "q.sql".toList) =
            .error (.refused .denied path) := by
      decide
    have hInput : (around .barred).input = some [] := rfl
    have hEnds := failures_return_two hParse hInput
    exact hEnds.2.1 _ (.reading hBegins hName hRead)

end CommandLine

end SqlAudit
