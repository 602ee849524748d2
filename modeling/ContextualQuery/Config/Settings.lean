import ContextualQuery.Options
import ContextualQuery.Path

/-!
# Settings

A configuration says which comparitors and modifier names the parser accepts and how expressions are
printed, and from which files that was read. A single file may leave every setting open.
-/

namespace ContextualQuery

/-- How an expression is printed: as a tree, on one line, or as JSON. -/
inductive OutputFormat where
  | pretty
  | compact
  | json
deriving DecidableEq, Repr

namespace OutputFormat

/-- The name of a format. -/
def name : OutputFormat → String
  | pretty => "pretty"
  | compact => "compact"
  | json => "json"

/-- The format of a name. -/
def ofName? (name : String) : Option OutputFormat :=
  if name = "pretty" then some .pretty
  else if name = "compact" then some .compact
  else if name = "json" then some .json
  else none

/-- The name of a format is read as that format. -/
theorem ofName?_name (format : OutputFormat) : ofName? format.name = some format := by
  cases format <;> rfl

end OutputFormat

namespace Config

/-- The parser settings of one file. -/
structure ParserSection where
  comparitors? : Option (List String) := none
  modifierNames? : Option (List String) := none
deriving DecidableEq, Repr

/-- The output settings of one file. -/
structure OutputSection where
  format? : Option OutputFormat := none
deriving DecidableEq, Repr

/-- What one file says. A root file ends the search for further files. -/
structure FileSettings where
  root? : Option Bool := none
  parser? : Option ParserSection := none
  output? : Option OutputSection := none
deriving DecidableEq, Repr

/-- The comparitors that a file enables. -/
def FileSettings.comparitors? (settings : FileSettings) : Option (List String) :=
  settings.parser?.bind (·.comparitors?)

/-- The modifier names that a file allows. -/
def FileSettings.modifierNames? (settings : FileSettings) : Option (List String) :=
  settings.parser?.bind (·.modifierNames?)

/-- The output format that a file chooses. -/
def FileSettings.format? (settings : FileSettings) : Option OutputFormat :=
  settings.output?.bind (·.format?)

/-- The file says that it is a root file. -/
def FileSettings.isRoot (settings : FileSettings) : Bool := settings.root? == some true

/-- The settings of one file with its path. -/
structure Source where
  path : Path
  settings : FileSettings

end Config

/-- A configuration: the enabled comparitors, the allowed modifier names if they are limited, the
output format, and the files it was read from, the closest first. -/
structure Config where
  comparitors : List String
  modifierNames? : Option (List String)
  format : OutputFormat
  sources : List Path
deriving DecidableEq, Repr

namespace Config

/-- The configuration without files: every comparitor, any modifier name, and trees. -/
def standard : Config :=
  { comparitors := ContextualQuery.comparitors
    modifierNames? := none
    format := .pretty
    sources := [] }

/-- The parser options of a configuration. -/
def options (config : Config) : Options :=
  (Options.standard.withComparitors config.comparitors).withModifierNames
    (config.modifierNames?.elim .any AllowList.ofNames)

/-- The standard configuration reads queries with the standard options. -/
theorem options_standard : standard.options = Options.standard := rfl

end Config

end ContextualQuery
