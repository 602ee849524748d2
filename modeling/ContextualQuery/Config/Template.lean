/-!
# The template of a settings file

A new settings file shows every setting with its meaning, but sets none: the lines with settings are
commented out.
-/

namespace ContextualQuery.Config

/-- The lines of a settings file with every setting. -/
def templateLines : List String :=
  ["# Configuration for the cql query tool.",
    "",
    "# Stop looking for .cql.toml files in parent directories and ignore ~/.cql.toml.",
    "root = false",
    "",
    "[parser]",
    "# Comparitors accepted in relations. Any other CQL comparitor is rejected as unsupported.",
    "comparitors = [\"=\", \">\", \"<\", \">=\", \"<=\", \"<>\", \"==\", \"any\", \"all\", " ++
      "\"adj\", \"within\", \"encloses\", \"exact\"]",
    "",
    "# Modifier names accepted on relations. Leave unset to allow any name; only \"boost\" is " ++
      "understood.",
    "modifier_names = [\"boost\"]",
    "",
    "[output]",
    "# How `cql expr` prints query expressions: \"pretty\", \"compact\" or \"json\".",
    "format = \"pretty\""]

/-- A line as a comment. Empty lines and comments stay as they are. -/
def commentLine (line : String) : String :=
  if line.isEmpty ∨ line.toList.head? = some '#' then line else "# " ++ line

/-- The template of a settings file. -/
def template : String := String.join (templateLines.map fun line => commentLine line ++ "\n")

end ContextualQuery.Config
