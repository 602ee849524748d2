import ContextualQuery.Parser
import ContextualQuery.Path

/-!
# Log records

What happens on the way is logged in records with a level, a target and a message. How much of it is
shown depends on the verbosity. The further lines of a message are indented below its first one.
-/

namespace ContextualQuery.Command

/-- The importance of a record: records for debugging come before mere traces. -/
inductive LogLevel where
  | debug
  | trace
deriving DecidableEq, Repr

namespace LogLevel

/-- The name of a level. -/
def name : LogLevel → String
  | debug => "DEBUG"
  | trace => "TRACE"

/-- The verbosity from which on a level is shown. -/
def verbosity : LogLevel → Nat
  | debug => 1
  | trace => 2

end LogLevel

/-- A record of the log. -/
structure LogRecord where
  level : LogLevel
  target : String
  message : String
deriving DecidableEq, Repr

namespace LogRecord

/-- A line end, with the indentation of the line behind it. -/
def indentAfter (c : Char) : List Char := if c = '\n' then "\n    ".toList else [c]

/-- A record as it is shown. -/
def line (record : LogRecord) : String :=
  "[" ++ record.level.name ++ " " ++ record.target ++ "] " ++
    String.ofList (record.message.toList.flatMap indentAfter) ++ "\n"

/-- The records that are shown at a verbosity. -/
def shown (verbosity : Nat) (records : List LogRecord) : String :=
  String.join ((records.filter fun record => record.level.verbosity ≤ verbosity).map line)

/-- The record of the files that a configuration was loaded from. -/
def ofSources (paths : List Path) : LogRecord :=
  { level := .debug
    target := "cql::cli::context"
    message := "configuration loaded from [" ++
      ", ".intercalate (paths.map fun path => Text.quoted path.text) ++ "]" }

/-- The record of a query that is to be read. -/
def ofQuery (query : String) : LogRecord :=
  { level := .trace
    target := "cql_query::parser"
    message := "parsing CQL query " ++ Text.quoted query }

/-- The record of a chain that was read. -/
def ofChain (size : Tree.ChainSize) : LogRecord :=
  { level := .trace
    target := "cql_query::parser"
    message := "folding " ++ toString size.links ++ " boolean links into " ++ toString size.runs ++
      " OR runs" }

/-- The record of a query that is given up. -/
def ofRejection (rejection : Rejection) : LogRecord :=
  { level := .debug
    target := "cql_query::parser"
    message := "rejecting unsupported CQL at token " ++ toString rejection.position ++ ": " ++
      rejection.feature.wording }

/-- The records of reading a query. -/
def ofReading (query : String) (reading : Reading) : List LogRecord :=
  ofQuery query :: reading.chains.map ofChain ++ reading.rejection?.toList.map ofRejection

/-- The record of a search clause with its expression as printed. -/
def ofSearchClause (expression : String) : LogRecord :=
  { level := .trace
    target := "cql_query::normalize"
    message := "normalized search clause to " ++ expression }

end LogRecord

end ContextualQuery.Command
