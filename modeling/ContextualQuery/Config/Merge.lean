import ContextualQuery.Config.Error
import ContextualQuery.Config.Settings

/-!
# Merging the settings of several files

Every setting comes from the closest file that defines it, and lists are replaced as a whole. The
comparitors of every file are checked, also where a closer file replaces them; the farthest file that
fails the check is reported.
-/

namespace ContextualQuery.Config

/-- Texts without those that came before. -/
def withoutRepeats (texts : List String) : List String :=
  texts.foldl (fun kept text => if kept.contains text then kept else kept ++ [text]) []

/-- The comparitors of a file in lower case and each once. They must be known, and there must be
some. -/
def checkComparitors (path : Path) (names : List String) : Except ConfigError (List String) :=
  if names.isEmpty then .error (.noComparitors path)
  else
    match names.find? fun name => !isComparitor name with
    | some name => .error (.unknownComparitor name path)
    | none => .ok (withoutRepeats (names.map Text.lower))

/-- The configuration with the settings of a closer file in front of it. -/
def override (config : Config) (source : Source) : Except ConfigError Config := do
  let comparitors ← match source.settings.comparitors? with
    | none => pure config.comparitors
    | some names => checkComparitors source.path names
  return {
    comparitors
    modifierNames? := (source.settings.modifierNames?.map (·.map Text.lower)).or config.modifierNames?
    format := source.settings.format?.getD config.format
    sources := source.path :: config.sources }

/-- The configuration of some files, the closest first. -/
def merge : List Source → Except ConfigError Config
  | [] => .ok standard
  | source :: farther => do override (← merge farther) source

/-- Without files the configuration is the standard one. -/
theorem merge_nil : merge [] = .ok standard := rfl

end ContextualQuery.Config
