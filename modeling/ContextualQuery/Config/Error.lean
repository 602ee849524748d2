import ContextualQuery.FileSystem

/-!
# Configuration errors

A configuration cannot be loaded if one of its files cannot be read, is no TOML document with settings
of the right types, enables an unknown comparitor, or enables none.
-/

namespace ContextualQuery

/-- Why a configuration cannot be loaded. Every cause names its file. -/
inductive ConfigError where
  | unreadable (path : Path) (error : FileError)
  | malformed (path : Path)
  | unknownComparitor (comparitor : String) (path : Path)
  | noComparitors (path : Path)
deriving DecidableEq, Repr

/-- The wording of a configuration error. -/
def ConfigError.message : ConfigError → String
  | .unreadable path error => "failed to read config file " ++ path.text ++ ": " ++ error.message
  | .malformed path => "failed to parse config file " ++ path.text ++ ": TOML parse error"
  | .unknownComparitor comparitor path =>
    "unknown comparitor '" ++ comparitor ++ "' in " ++ path.text
  | .noComparitors path => "no comparitors enabled in " ++ path.text

end ContextualQuery
