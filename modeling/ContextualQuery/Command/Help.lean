import ContextualQuery.Command.Arguments

/-!
# Help

The help on a command says what it does, how it is called, and what its arguments are; the help without
a command lists the commands.
-/

namespace ContextualQuery.Command

/-- An argument as it is written, with what it does. -/
structure Description where
  written : String
  meaning : String

/-- Descriptions below a title, with the meanings in one column. -/
def Description.section (title : String) (descriptions : List Description) : String :=
  let width := (descriptions.map (·.written.length)).foldl max 0
  let line (description : Description) : String :=
    let gap := String.ofList (List.replicate (width - description.written.length + 2) ' ')
    "  " ++ description.written ++ gap ++ description.meaning ++ "\n"
  title ++ ":\n" ++ String.join (descriptions.map line)

namespace Topic

/-- What a command does. -/
def about : Topic → String
  | parse => "Parse a query and print its syntax tree"
  | expr => "Normalize a query into a boolean query expression"
  | format => "Print a query in canonical CQL form"
  | lucene => "Convert a query to Lucene query syntax"
  | check => "Validate configuration and show effective settings"
  | init => "Initialize cql configuration in current directory"
  | help => "Print this message or the help of the given subcommand(s)"

/-- The flags that only one command has. -/
def ownFlags : Topic → List Description
  | expr => [⟨"    --json", "Output the JSON mapping form"⟩]
  | init => [⟨"    --global", "Create global ~/.cql.toml instead"⟩]
  | _ => []

/-- The second flag that only one command has. -/
def secondFlags : Topic → List Description
  | expr => [⟨"    --compact", "Output the single-line form"⟩]
  | init => [⟨"    --force", "Overwrite existing configuration file"⟩]
  | _ => []

/-- What is said behind the flags of a command. -/
def epilogue : Topic → String
  | expr =>
    "\nOUTPUT FORMATS:\n" ++
      "  pretty     Indented tree, negated operands prefixed with '!' (default)\n" ++
      "  compact    Single line, e.g. OR[AND[a, b], !c]\n" ++
      "  json       The mapping form \x7boperator, operands, must_not\x7d / " ++
      "\x7bindex, relation, term, boost, must_not\x7d\n" ++
      "\nEXAMPLES:\n" ++
      "  cql expr 'a and b or c'\n" ++
      "  cql expr --compact 'title = dune not author = frank'\n" ++
      "  cql expr --json 'title =/boost=2 dune'\n"
  | _ => ""

/-- The list of the commands. -/
def listing : String :=
  Description.section "Commands" (all.map fun topic => ⟨topic.name, topic.about⟩)

end Topic

/-- The flag for the configuration file. -/
def configFlag : Description :=
  ⟨"    --config <PATH>",
    "Use this configuration file instead of discovering .cql.toml files"⟩

/-- The flag for logging. -/
def verboseFlag : Description :=
  ⟨"-v, --verbose...", "Verbosity level (-v for debug logging, -vv for trace)"⟩

/-- The flag for help. -/
def helpFlag : Description := ⟨"-h, --help", "Print help"⟩

/-- The flags of a command. -/
def options (topic? : Option Topic) : String :=
  Description.section "Options" <|
    [configFlag] ++ topic?.elim [] Topic.ownFlags ++ topic?.elim [] Topic.secondFlags ++
      [verboseFlag, helpFlag]

/-- The help on a command, or on all of them. -/
def helpText : Option Topic → String
  | none =>
    "Parse, normalize and convert Contextual Query Language queries\n\n" ++
      "Usage: cql [OPTIONS] <COMMAND>\n\n" ++ Topic.listing ++ "\n" ++ options none
  | some .help =>
    Topic.about .help ++ "\n\nUsage: cql help [COMMAND]\n\n" ++ Topic.listing
  | some topic =>
    let usage := "Usage: cql " ++ topic.name ++ " [OPTIONS]"
    let arguments := Description.section "Arguments" [⟨"<QUERY>", "CQL query text"⟩]
    topic.about ++ "\n\n" ++
      (if topic.takesQuery then usage ++ " <QUERY>\n\n" ++ arguments else usage ++ "\n") ++ "\n" ++
      options (some topic) ++ topic.epilogue

end ContextualQuery.Command
