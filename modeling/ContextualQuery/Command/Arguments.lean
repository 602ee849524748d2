import ContextualQuery.Config.Settings

/-!
# Command lines

A command line is a command with its own flags and at most one word, and around it the flags that
every command has. Words behind two dashes are no flags. A flag with a value takes it from behind an
equals sign or from the next argument. A help flag ends the reading where it stands; anything that is
unknown, missing or repeated is refused.
-/

namespace ContextualQuery.Command

/-- The names of the commands. -/
inductive Topic where
  | parse
  | expr
  | format
  | lucene
  | check
  | init
  | help
deriving DecidableEq, Repr

namespace Topic

/-- The topics in the order in which they are listed. -/
def all : List Topic := [parse, expr, format, lucene, check, init, help]

/-- The name of a topic. -/
def name : Topic → String
  | parse => "parse"
  | expr => "expr"
  | format => "format"
  | lucene => "lucene"
  | check => "check"
  | init => "init"
  | help => "help"

/-- The topic of a name. -/
def ofName? (name : String) : Option Topic := all.find? (·.name == name)

/-- The command takes a query. -/
def takesQuery : Topic → Bool
  | parse | expr | format | lucene => true
  | check | init | help => false

end Topic

/-- What to do. -/
inductive Action where
  | parse (query : String)
  | expr (query : String) (format? : Option OutputFormat)
  | format (query : String)
  | lucene (query : String)
  | check
  | init (global force : Bool)
deriving DecidableEq, Repr

/-- A command line that was understood: the configuration file to use, if one is given, how much to
log, and what to do. -/
structure Invocation where
  config? : Option Path
  verbosity : Nat
  action : Action
deriving DecidableEq, Repr

/-- A command line: something to do, a request for help, or neither. -/
inductive Request where
  | run (invocation : Invocation)
  | help (topic? : Option Topic)
  | refused
deriving DecidableEq, Repr

/-- A flag without a value. -/
inductive Flag where
  | json
  | compact
  | global
  | force
deriving DecidableEq, Repr

/-- The flag of a long name that a command has. -/
def Flag.ofName? (topic : Topic) (name : String) : Option Flag :=
  match topic, name with
  | .expr, "json" => some .json
  | .expr, "compact" => some .compact
  | .init, "global" => some .global
  | .init, "force" => some .force
  | _, _ => none

/-- What was read of the arguments of one level: the value of the flag for the configuration file, the
number of flags for logging, the flags without a value, and the words. -/
structure Level where
  config? : Option String := none
  verbosity : Nat := 0
  flags : List Flag := []
  words : List String := []
deriving DecidableEq, Repr

/-- The end of reading the arguments of one level. -/
inductive LevelEnd where
  | done (level : Level)
  | command (level : Level) (name : String) (rest : List String)
  | help
  | refused
deriving DecidableEq, Repr

namespace Level

/-- The level with a configuration file, unless it has one or the value is empty. -/
def setConfig? (level : Level) (value : String) : Option Level :=
  if level.config?.isSome ∨ value = "" then none else some { level with config? := some value }

/-- The level with a flag, unless it has it. -/
def setFlag? (level : Level) (flag : Flag) : Option Level :=
  if level.flags.contains flag then none else some { level with flags := level.flags ++ [flag] }

/-- The level with one more word, if a word is expected. -/
def addWord? (topic : Topic) (level : Level) (word : String) : Option Level :=
  if topic.takesQuery ∧ level.words = [] then some { level with words := [word] } else none

/-- The level after short flags, or none if there is an unknown one. A help flag among them is found
first. -/
def shortFlags : Level → List Char → LevelEnd
  | level, [] => .done level
  | level, c :: rest =>
    if c = 'v' then shortFlags { level with verbosity := level.verbosity + 1 } rest
    else if c = 'h' then .help
    else .refused

/-- An argument that can be the value of a flag: one that does not look like a flag. -/
def isValue (argument : String) : Bool := argument = "-" || argument.toList.head? != some '-'

/-- Reads the words behind two dashes. -/
def readWords (topic? : Option Topic) : Level → List String → LevelEnd
  | level, [] => .done level
  | level, word :: rest =>
    match topic?.bind fun topic => level.addWord? topic word with
    | some level => readWords topic? level rest
    | none => .refused

/-- Reads the arguments of a level. Without a topic the first word names the command, and the
arguments behind it are left for its level. -/
def read (topic? : Option Topic) : Level → List String → LevelEnd
  | level, [] => .done level
  | level, argument :: rest =>
    match argument.toList with
    | ['-', '-'] => readWords topic? level rest
    | '-' :: '-' :: long =>
      let name := String.ofList (long.takeWhile (· ≠ '='))
      match long.dropWhile (· ≠ '=') with
      | _ :: value =>
        if name = "config" then
          match level.setConfig? (String.ofList value) with
          | some level => read topic? level rest
          | none => .refused
        else .refused
      | [] =>
        if name = "help" then .help
        else if name = "verbose" then
          read topic? { level with verbosity := level.verbosity + 1 } rest
        else if name = "config" then
          match rest with
          | [] => .refused
          | value :: rest =>
            if isValue value then
              match level.setConfig? value with
              | some level => read topic? level rest
              | none => .refused
            else .refused
        else
          match (topic?.bind (Flag.ofName? · name)).bind level.setFlag? with
          | some level => read topic? level rest
          | none => .refused
    | '-' :: c :: more =>
      match level.shortFlags (c :: more) with
      | .done level => read topic? level rest
      | ended => ended
    | _ =>
      match topic? with
      | none => .command level argument rest
      | some topic =>
        match level.addWord? topic argument with
        | some level => read topic? level rest
        | none => .refused

/-- The action of a command whose arguments were read, if none is missing and no two exclude each
other. -/
def action? (level : Level) : Topic → Option Action
  | .parse => level.words.head?.map .parse
  | .format => level.words.head?.map .format
  | .lucene => level.words.head?.map .lucene
  | .expr => do
    let query ← level.words.head?
    match level.flags.contains .json, level.flags.contains .compact with
    | true, true => none
    | true, false => return .expr query (some .json)
    | false, true => return .expr query (some .compact)
    | false, false => return .expr query none
  | .check => some .check
  | .init => some (.init (level.flags.contains .global) (level.flags.contains .force))
  | .help => none

end Level

namespace Request

/-- The request for help on the topic of some names. -/
def ofHelpNames : List String → Request
  | [] => .help none
  | [name] =>
    match Topic.ofName? name with
    | some topic => .help (some topic)
    | none => .refused
  | _ => .refused

/-- The request of a command and the arguments behind it. The flags that every command has count where
they stand behind the command, or else where they stand before it. -/
def ofCommand (outer : Level) (topic : Topic) (arguments : List String) : Request :=
  match Level.read (some topic) {} arguments with
  | .help => .help (some topic)
  | .done level =>
    match level.action? topic with
    | none => .refused
    | some action =>
      .run {
        config? := (level.config?.or outer.config?).map Path.ofText
        verbosity := if level.verbosity = 0 then outer.verbosity else level.verbosity
        action }
  | _ => .refused

/-- The request of a command line. -/
def ofArguments (arguments : List String) : Request :=
  match Level.read none {} arguments with
  | .help => .help none
  | .command outer name rest =>
    match Topic.ofName? name with
    | none => .refused
    | some .help => ofHelpNames rest
    | some topic => ofCommand outer topic rest
  | _ => .refused

/-- Without arguments there is no command to run. -/
theorem ofArguments_nil : ofArguments [] = .refused := rfl

end Request

end ContextualQuery.Command
