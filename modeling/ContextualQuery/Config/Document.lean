import ContextualQuery.Config.Settings
import ContextualQuery.Toml.Document

/-!
# Settings as TOML

A file with settings is a TOML document with a key `root` and the tables `parser` and `output`. Other
keys are passed over, but a known key with a value of another type makes the document malformed. The
settings of a table may also stand in an array by position, and a date in place of a table has none of
them. The effective settings of a configuration are written in the same layout.
-/

namespace ContextualQuery

open Toml (Entries Value)

namespace Config

/-- An optional value of some type: absent, or of that type. -/
def readOptional? {α : Type} (read? : Value → Option α) : Option Value → Option (Option α)
  | none => some none
  | some value => (read? value).map some

/-- A truth value. -/
def readBoolean? : Value → Option Bool
  | .boolean value => some value
  | _ => none

/-- A text. -/
def readText? : Value → Option String
  | .string value => some value
  | _ => none

/-- A list of texts. -/
def readTexts? : Value → Option (List String)
  | .array _ items => items.mapM readText?
  | _ => none

/-- The table or array holds nothing. -/
def isEmptyValue : Value → Bool
  | .array _ items => items.isEmpty
  | .table _ entries => entries.isEmpty
  | _ => false

/-- A format: its name, or a table with its name alone over something empty. -/
def readFormat? : Value → Option OutputFormat
  | .string name => OutputFormat.ofName? name
  | .table _ [(name, value)] => if isEmptyValue value then OutputFormat.ofName? name else none
  | _ => none

/-- The parser settings of a file from their values. -/
def readParserParts? (comparitors? names? : Option Value) : Option ParserSection := do
  let comparitors? ← readOptional? readTexts? comparitors?
  let modifierNames? ← readOptional? readTexts? names?
  return { comparitors?, modifierNames? }

/-- The parser settings of a file, by key or by position. -/
def readParser? : Value → Option ParserSection
  | .table _ entries =>
    readParserParts? (Entries.value? entries "comparitors") (Entries.value? entries "modifier_names")
  | .array _ items => readParserParts? items[0]? items[1]?
  | .dateTime _ => some {}
  | _ => none

/-- The output settings of a file, by key or by position. -/
def readOutput? : Value → Option OutputSection
  | .table _ entries =>
    (readOptional? readFormat? (Entries.value? entries "format")).map OutputSection.mk
  | .array _ items => (readOptional? readFormat? items[0]?).map OutputSection.mk
  | .dateTime _ => some {}
  | _ => none

namespace FileSettings

/-- The settings of a TOML document. -/
def ofEntries? (entries : Entries) : Option FileSettings := do
  let root? ← readOptional? readBoolean? (entries.value? "root")
  let parser? ← readOptional? readParser? (entries.value? "parser")
  let output? ← readOptional? readOutput? (entries.value? "output")
  return { root?, parser?, output? }

/-- The settings in the text of a file. -/
def ofText? (text : String) : Option FileSettings := (Toml.read? text).bind ofEntries?

end FileSettings

/-- The effective settings of a configuration in the layout of a file. -/
def toToml (config : Config) : String :=
  "[parser]\ncomparitors = " ++ Toml.writeArray config.comparitors ++ "\n" ++
    (config.modifierNames?.elim "" fun names =>
      "modifier_names = " ++ Toml.writeArray names ++ "\n") ++
    "\n[output]\nformat = " ++ Toml.writeString config.format.name ++ "\n"

end Config

end ContextualQuery
