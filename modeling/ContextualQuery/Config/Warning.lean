import ContextualQuery.Config.Settings

/-!
# Warnings about configurations

Settings that are accepted but cannot have the effect that was meant: modifier names without the only
one that is understood, names that are never accepted, and a missing `=`, without which no boost can be
written and no query converted.
-/

namespace ContextualQuery.Config

/-- A setting without the effect that was meant. -/
inductive Warning where
  | boostNotAllowed
  | modifierNeverAccepted (name : String)
  | equalsDisabled
deriving DecidableEq, Repr

namespace Warning

/-- The wording of a warning. -/
def message : Warning → String
  | boostNotAllowed =>
    "modifier_names does not include '" ++ boostModifier ++ "'; every modifier will be rejected"
  | modifierNeverAccepted name =>
    "modifier '" ++ name ++ "' is allowed but only '" ++ boostModifier ++ "' is supported"
  | equalsDisabled => "comparitor '=' is disabled; queries cannot be converted to Lucene"

/-- What to change to get rid of a warning. -/
def hint : Warning → String
  | boostNotAllowed | modifierNeverAccepted _ =>
    "Set modifier_names = [\"boost\"] or remove it to allow boosting."
  | equalsDisabled => "Add \"=\" to [parser] comparitors."

end Warning

/-- The warnings about a list of modifier names. -/
def nameWarnings (names : List String) : List Warning :=
  (if names.contains boostModifier then [] else [.boostNotAllowed]) ++
    (names.filter (· != boostModifier)).map .modifierNeverAccepted

/-- The warnings about a configuration. -/
def warnings (config : Config) : List Warning :=
  config.modifierNames?.elim [] nameWarnings ++
    if config.comparitors.contains "=" then [] else [.equalsDisabled]

/-- The standard configuration gives no reason for a warning. -/
theorem warnings_standard : standard.warnings = [] := by decide

end ContextualQuery.Config
