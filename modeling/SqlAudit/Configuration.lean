import SqlAudit.Risk

/-
  How a run is configured.

  Settings may be any values. The risk level has to be one of
  the levels of the risk tiers, and the dialect has to be
  given; whether there is such a dialect is seen when a
  script is split.

  Key definitions include:
    * `SqlAudit.Settings`
    * `SqlAudit.Configuration`
    * `SqlAudit.Settings.check`
-/

------------------------------------------------------------
-- Settings And Configurations
------------------------------------------------------------

namespace SqlAudit

/- The settings of a run before they are checked. -/
structure Settings where
  riskLevel : Value := .integer 1
  verbose : Value := .flag false
  color : Value := .flag false
  dialect : Value := .text "postgres"
  deriving Repr

/- The settings of a run after they have been checked. -/
structure Configuration where
  minRisk : Risk
  verbose : Value
  color : Value
  dialect : Value
  deriving Repr

/- Why settings are no configuration. -/
inductive Configuration.Error where
| badRiskLevel (got : Value)
| noDialect
| unknownDialect (dialect : Value)
  deriving Repr

/- The wording of an error. -/
def Configuration.Error.message :
    Configuration.Error → List Char
| .badRiskLevel got =>
    let levels := Risk.all.map fun r =>
      Value.integer r.level
    "Unrecognized risk level ".toList ++ got.literal ++
      "; expected one of ".toList ++
      (Value.list levels).literal
| .noDialect => "A SQL dialect name is required".toList
| .unknownDialect dialect =>
    "Unknown SQL dialect ".toList ++ dialect.literal

namespace Settings

/- The risk tier of a level; a truth value is no level. -/
def risk? : Value → Option Risk
| .integer n => Risk.ofLevel? n
| _ => none

/- The configuration that settings describe. -/
def check
    (settings : Settings) :
    Except Configuration.Error Configuration := do
  match risk? settings.riskLevel with
  | none => .error (.badRiskLevel settings.riskLevel)
  | some minRisk =>
      if !settings.dialect.isTruthy then
        .error .noDialect
      return {
        minRisk := minRisk
        verbose := settings.verbose
        color := settings.color
        dialect := settings.dialect }

end Settings

end SqlAudit
