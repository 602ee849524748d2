import ContextualQuery.Command.Help
import ContextualQuery.Command.Log
import ContextualQuery.Config.Discovery
import ContextualQuery.Config.Template
import ContextualQuery.Config.Warning
import ContextualQuery.Expression.Mapping
import ContextualQuery.Expression.Normal
import ContextualQuery.Expression.Printer
import ContextualQuery.Json.Printer
import ContextualQuery.Tree.Lucene

/-!
# Running commands

A command runs at a place, with its files, working directory and home directory. It ends with a status,
what it printed, what it reported, and the files as they are afterwards. Every command but `init` loads
the configuration first and does nothing else if that fails.
-/

namespace ContextualQuery

/-- The path of a location. -/
def Path.ofLocation (location : Location) : Path := ⟨true, if location = [] then [""] else location⟩

namespace Command

/-- How a command ended: well, with a failure, with a query that is not supported, with a configuration
that cannot be loaded, or because the command line was refused. -/
inductive Status where
  | success
  | failure
  | unsupported
  | badConfig
  | refused
deriving DecidableEq, Repr

/-- The exit status of the process. -/
def Status.code : Status → Nat
  | success => 0
  | failure => 1
  | unsupported => 2
  | badConfig => 3
  | refused => 2

/-- What a command gives: its status, its output, its report of errors, and its log. -/
structure Answer where
  status : Status := .success
  output : String := ""
  report : String := ""
  log : List LogRecord := []

namespace Answer

/-- The answer of a command that printed a text. -/
def ofOutput (output : String) : Answer := { output }

/-- The answer of a command that failed. -/
def ofFailure (report : String) : Answer := { status := .failure, report }

/-- The answer to a query that failed. -/
def ofQueryError (error : QueryError) : Answer :=
  { status := if error.isUnsupported then .unsupported else .failure
    report := "error: " ++ error.display ++ "\n" ++
      error.suggestion?.elim "" fun hint => "hint: " ++ hint ++ "\n" }

/-- The answer for a configuration that cannot be loaded. -/
def ofConfigError (error : ConfigError) : Answer :=
  { status := .badConfig
    report := "error: failed to load configuration: " ++ error.message ++ "\n" }

/-- The answer with records in front of its log. -/
def logging (answer : Answer) (records : List LogRecord) : Answer :=
  { answer with log := records ++ answer.log }

end Answer

/-! ### Commands on queries -/

/-- The answer to a query: what a command makes of its tree, or the failure of the query. -/
def onTree (config : Config) (query : String) (answer : Tree → Answer) : Answer :=
  let reading := Reading.ofText config.options query
  let answered := match reading.outcome with
    | .ok tree => answer tree
    | .error error => Answer.ofQueryError error
  answered.logging (LogRecord.ofReading query reading)

/-- An expression in a format. -/
def printed (format : OutputFormat) (expression : Expression) : String :=
  match format with
  | .pretty => expression.pretty
  | .compact => expression.compact
  | .json => expression.toJson.pretty

/-- The records of normalizing a tree: one for every search clause. -/
def normalizing (tree : Tree) : List LogRecord :=
  tree.searchClauses.filterMap fun clause =>
    match clause.toExpression with
    | .ok expression => some (LogRecord.ofSearchClause expression.compact)
    | .error _ => none

/-- The expression of a tree in a format. -/
def answerExpression (format : OutputFormat) (tree : Tree) : Answer :=
  let answered := match tree.toExpression with
    | .ok expression => Answer.ofOutput (printed format expression ++ "\n")
    | .error error => Answer.ofQueryError (.parse error)
  answered.logging (normalizing tree)

/-- A tree as a Lucene query. -/
def answerLucene (tree : Tree) : Answer :=
  match tree.toLucene with
  | .ok rendered => Answer.ofOutput (rendered ++ "\n")
  | .error error => Answer.ofQueryError (.unsupported error)

/-! ### The check of a configuration -/

/-- The list of the files of a configuration. -/
def describeSources (place : Config.Place) (config : Config) : String :=
  if config.sources = [] then
    "No configuration files found, using defaults.\n" ++
      "Run cql init to create a configuration file.\n"
  else
    let line (path : Path) : String :=
      "   " ++ path.text ++ (if place.isGlobal path then " (global)\n" else " (local)\n")
    "Config files:\n" ++ String.join (config.sources.map line)

/-- The hints on some warnings in order, each once. -/
def hints (warnings : List Config.Warning) : List String :=
  warnings.foldl (fun hints warning => insertName warning.hint hints) []

/-- The warnings about a configuration with hints. -/
def describeWarnings (warnings : List Config.Warning) : String :=
  if warnings = [] then "No issues found.\n"
  else
    "Warnings (" ++ toString warnings.length ++ "):\n" ++
      String.join (warnings.map fun warning => "   " ++ warning.message ++ "\n") ++
      "\nHints:\n" ++ String.join ((hints warnings).map fun hint => "   - " ++ hint ++ "\n")

/-- The files, the warnings and the effective settings of a configuration. -/
def answerCheck (place : Config.Place) (config : Config) : Answer :=
  Answer.ofOutput <|
    describeSources place config ++ "\n" ++ describeWarnings config.warnings ++
      "\nEffective settings:\n" ++ config.toToml

/-! ### A new settings file -/

/-- The path of a new settings file: the global one if it is asked for or if the working directory is
the home directory, else one in the working directory. -/
def newFile? (place : Config.Place) (global : Bool) : Option Path :=
  let directory := Path.ofLocation place.working
  let atHome := ((place.globalPath?.bind Path.parent?).map (·.same directory)).getD false
  if global || atHome then place.globalPath? else some (directory.child Config.fileName)

/-- Writes a new settings file. An existing one is kept unless it is to be overwritten. -/
def createFile (place : Config.Place) (global force : Bool) : Answer × FileSystem :=
  match newFile? place global with
  | none => (Answer.ofFailure "error: could not determine home directory\n", place.files)
  | some path =>
    if place.files.hasEntry place.working path && !force then
      (Answer.ofFailure ("error: configuration file already exists: " ++ path.text ++
        "\nuse --force to overwrite\n"), place.files)
    else
      match place.files.writeText place.working path Config.template with
      | .error error =>
        (Answer.ofFailure ("error: failed to write " ++ path.text ++ ": " ++ error.message ++ "\n"),
          place.files)
      | .ok files =>
        (Answer.ofOutput ("Created " ++ path.text ++ "\n\nConfiguration written:\n" ++
          Config.template), files)

/-! ### Whole command lines -/

/-- The configuration for a run: that of the given file alone, or the one found around the working
directory. -/
def configFor (place : Config.Place) (path? : Option Path) : Except ConfigError Config :=
  match path? with
  | some path => place.loadFrom [path]
  | none => place.load (Path.ofLocation place.working)

/-- The answer of an action under a configuration. -/
def answerWith (place : Config.Place) (config : Config) : Action → Answer
  | .parse query => onTree config query fun tree => Answer.ofOutput (tree.pretty ++ "\n")
  | .expr query format? => onTree config query (answerExpression (format?.getD config.format))
  | .format query => onTree config query fun tree => Answer.ofOutput (tree.toCql ++ "\n")
  | .lucene query => onTree config query answerLucene
  | .check => answerCheck place config
  | .init _ _ => {}

namespace Invocation

/-- The answer of an invocation, and the files afterwards. -/
def run (place : Config.Place) (invocation : Invocation) : Answer × FileSystem :=
  match invocation.action with
  | .init global force => createFile place global force
  | action =>
    match configFor place invocation.config? with
    | .error error => (Answer.ofConfigError error, place.files)
    | .ok config =>
      ((answerWith place config action).logging [LogRecord.ofSources config.sources], place.files)

end Invocation

/-- The paths whose files a run can depend on: those of the settings files and of the given file. -/
def consulted (place : Config.Place) (arguments : List String) : List Path :=
  let given := match Request.ofArguments arguments with
    | .run invocation => invocation.config?.toList
    | _ => []
  Config.Place.candidates (Path.ofLocation place.working) ++ place.globalPath?.toList ++ given

/-- The end of a run: its status, both outputs, and the files afterwards. -/
structure Outcome where
  status : Status
  output : String
  errors : String
  files : FileSystem

/-- The end of a run without further effects on files. -/
def Outcome.quiet (place : Config.Place) (status : Status) (output errors : String) : Outcome :=
  { status, output, errors, files := place.files }

/-- Runs a command line. -/
def run (place : Config.Place) (arguments : List String) : Outcome :=
  match Request.ofArguments arguments with
  | .refused =>
    Outcome.quiet place .refused ""
      "error: the arguments are not understood\n\nFor more information, try '--help'.\n"
  | .help topic? => Outcome.quiet place .success (helpText topic?) ""
  | .run invocation =>
    let (answer, files) := invocation.run place
    { status := answer.status
      output := answer.output
      errors := LogRecord.shown invocation.verbosity answer.log ++ answer.report
      files }

end Command

end ContextualQuery
