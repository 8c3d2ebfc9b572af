import SqlAudit.CommandLine.Argument
import SqlAudit.Configuration
import SqlAudit.Text.Integer

/-
  The options of a run, read from its arguments.

  Key definitions include:
    * `SqlAudit.Options`
    * `SqlAudit.Options.parse`
    * `SqlAudit.Options.settings`
-/

------------------------------------------------------------
-- Options
------------------------------------------------------------

namespace SqlAudit

/-
  What the arguments of a run ask for. The risk level or the
  dialect is missing if its option is left without a value.
-/
structure Options where
  file : Option (List Char) := none
  riskLevel : Option Int := some 1
  verbose : Bool := false
  color : Bool := false
  dialect : Option (List Char) := some "postgres".toList
  rules : List (List Char) := []
  categories : List (List Char) := []
  output : Option (List Char) := none
  listRules : Bool := false
  debug : Bool := false
  deriving Repr, DecidableEq

/- Why reading stops: help is asked for, or a misuse. -/
inductive Options.Stop where
| help
| misuse (e : Misuse)
  deriving Repr, DecidableEq

namespace Options

/- A setting, or an empty list in place of a missing one. -/
def setting : Option Value → Value
| some v => v
| none => .list []

/- The settings of the run. -/
def settings (o : Options) : Settings where
  riskLevel := setting (o.riskLevel.map .integer)
  verbose := .flag o.verbose
  color := .flag o.color
  dialect := setting
    (o.dialect.map fun s => .text (String.ofList s))

/- The number that the value of an option stands for. -/
def number
    (value : List Char) : Except Stop Int :=
  match Text.parseShortInt? value with
  | some n => .ok n
  | none => .error (.misuse (.notAnInteger value))

/- Take an option with its values into account. -/
def set
    (o : Options)
    (f : Flag)
    (values : List (List Char)) : Except Stop Options := do
  match f with
  | .help => .error .help
  | .riskLevel =>
      return { o with riskLevel := ← values.head?.mapM number }
  | .verbose => return { o with verbose := true }
  | .color => return { o with color := true }
  | .dialect => return { o with dialect := values.head? }
  | .rules => return { o with rules := values }
  | .categories =>
      match values.find? (!Flag.choices.contains ·) with
      | some bad => .error (.misuse (.notAChoice bad))
      | none => return { o with categories := values }
  | .output => return { o with output := values.head? }
  | .listRules => return { o with listRules := true }
  | .debug => return { o with debug := true }

end Options

end SqlAudit

------------------------------------------------------------
-- Values Of Options
------------------------------------------------------------

namespace SqlAudit

/-
  The options of one argument with their values, and the
  arguments after it that are left.
-/
structure Taken where
  options : List (Flag × List (List Char))
  run : List Argument
  deriving Repr, DecidableEq

namespace Taken

/- Take the values of an option from what follows it. -/
def following
    (f : Flag)
    (run : List Argument) : Except Misuse Taken :=
  match f.arity with
  | .none => .ok ⟨[(f, [])], run⟩
  | .one =>
      match run with
      | .plain s :: rest => .ok ⟨[(f, [s])], rest⟩
      | _ => .error (.expectedValue f)
  | .many =>
      let values := run.takeWhile Argument.isPlain
      .ok ⟨[(f, values.map Argument.text)],
        run.dropWhile Argument.isPlain⟩

/- Two dashes attached to an option leave it without value. -/
def attachedValues
    (s : List Char) : List (List Char) :=
  if s == ['-', '-'] then [] else [s]

/-
  Take an option with text attached to it. The text is its
  value, or for a short option without values the letters of
  more short options.
-/
def attached
    (run : List Argument) :
    Flag → (short : Bool) → List Char → Except Misuse Taken
| f, _, [] =>
    if f.arity == .none then
      .error (.unexpectedValue f [])
    else
      .ok ⟨[(f, [[]])], run⟩
| f, short, c :: rest =>
    let unexpected := Misuse.unexpectedValue f (c :: rest)
    if f.arity != .none then
      .ok ⟨[(f, attachedValues (c :: rest))], run⟩
    else if !short then
      .error unexpected
    else
      match Flag.ofSpelling? ['-', c] with
      | none => .error unexpected
      | some g => do
          let t ←
            match rest with
            | [] => following g run
            | p :: more => attached run g true (p :: more)
          return { t with options := (f, []) :: t.options }

/- Take an option as it is given. -/
def ofUse
    (use : OptionUse)
    (run : List Argument) : Except Misuse Taken :=
  match use.value with
  | some value => attached run use.flag use.short value
  | none => following use.flag run

end Taken

end SqlAudit

------------------------------------------------------------
-- Parsing
------------------------------------------------------------

namespace SqlAudit

/-
  The options so far, whether the file has been named, and
  the arguments that were not understood.
-/
structure Options.Progress where
  options : Options := {}
  named : Bool := false
  extras : List (List Char) := []
  deriving Repr, DecidableEq

namespace Options

/- Arguments that are not understood. -/
def Progress.leave
    (p : Progress)
    (arguments : List Argument) : Progress :=
  { p with extras := p.extras ++ arguments.map Argument.text }

/- The file to read. -/
def Progress.name
    (p : Progress)
    (file : Argument) : Progress :=
  { p with
    options := { p.options with file := some file.text }
    named := true }

/-
  The arguments that no option takes: the first one names
  the file. Two dashes may stand before or after it.
-/
def Progress.positional
    (p : Progress)
    (run : List Argument) : Progress :=
  if p.named then
    p.leave run
  else
    match run with
    | [] => p
    | .separator :: [] => p
    | .separator :: file :: rest => (p.name file).leave rest
    | file :: .separator :: rest => (p.name file).leave rest
    | file :: rest => (p.name file).leave rest

/- Take an option and what follows it into account. -/
def Progress.add
    (p : Progress)
    (a : Argument)
    (run : List Argument) : Except Stop Progress :=
  match a with
  | .option use =>
      match Taken.ofUse use run with
      | .error e => .error (.misuse e)
      | .ok taken => do
          let options ← taken.options.foldlM
            (fun o (f, values) => o.set f values) p.options
          return { p with options := options }.positional
            taken.run
  | a => .ok ((p.leave [a]).positional run)

/- The options that arguments stand for. -/
def parse
    (arguments : List (List Char)) : Except Stop Options :=
  match Argument.classifyAll arguments with
  | .error e => .error (.misuse e)
  | .ok classified => do
      let (run, segments) := Argument.segments classified
      let start := ({} : Progress).positional run
      let p ← segments.foldlM
        (fun p (a, run) => p.add a run) start
      if p.extras.isEmpty then
        return p.options
      else
        .error (.misuse (.unrecognized p.extras))

end Options

end SqlAudit
