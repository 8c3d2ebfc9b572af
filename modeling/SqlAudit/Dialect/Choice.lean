import SqlAudit.Configuration
import SqlAudit.Dialect.Known
import SqlAudit.Text.Blank
import SqlAudit.Text.Cut

/-
  Choosing a dialect by its name.

  Four dialects have a name here, and without a name the
  generic one is meant. A name may have blanks around it, and
  settings may follow it after commas. Of these only the one
  is covered that makes the comparison of names mind their
  case, which is of no account for tokens. Tokenizers know
  more names and settings; here all others are reported as
  unknown.

  Key definitions include:
    * `SqlAudit.Dialect.ofName?`
    * `SqlAudit.Dialect.choose`
-/

------------------------------------------------------------
-- Names of Dialects
------------------------------------------------------------

namespace SqlAudit.Dialect

/- The dialects that are covered, by their names. -/
def named : List (List Char × Dialect) :=
  [ ([], generic),
    ("postgres".toList, postgres),
    ("mysql".toList, mysql),
    ("sqlite".toList, sqlite),
    ("duckdb".toList, duckdb) ]

/- The dialect of a name. -/
def ofName?
    (name : List Char) : Option Dialect :=
  (named.find? (·.1 == name)).map (·.2)

/- The one setting that is covered. -/
def isSetting
    (part : List Char) : Bool :=
  (Text.cutAt '=' part).map Text.trim ==
    [ "normalization_strategy".toList,
      "case_sensitive".toList ]

end SqlAudit.Dialect

------------------------------------------------------------
-- Choice
------------------------------------------------------------

namespace SqlAudit.Dialect

/-
  The dialect that a value names. A name or a setting that is
  not covered is unknown.
-/
def choose
    (value : Value) : Except Configuration.Error Dialect :=
  if !value.isTruthy then
    .ok generic
  else
    match value with
    | .text name =>
        match Text.cutAt ',' name.toList with
        | first :: settings =>
            match ofName? (Text.trim first) with
            | some d =>
                if settings.all isSetting then .ok d
                else .error (.unknownDialect value)
            | none => .error (.unknownDialect value)
        | [] => .error (.unknownDialect value)
    | _ => .error (.unknownDialect value)

end SqlAudit.Dialect
