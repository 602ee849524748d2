import ContextualQuery.Config.Document
import ContextualQuery.Config.Merge

/-!
# Finding and loading configurations

Settings files are looked for in the working directory and in the directories around it, the closest
first. A root file ends the search. If none was met, the global file in the home directory comes last,
unless it was found already.
-/

namespace ContextualQuery.Config

/-- The name of a settings file. -/
def fileName : String := ".cql.toml"

/-- Where settings are looked for: the files, the working directory that relative paths start from, and
the home directory if it is known. -/
structure Place where
  files : FileSystem
  working : Location
  home? : Option Path

namespace Place

/-- The path of the global settings file. -/
def globalPath? (place : Place) : Option Path := place.home?.map (·.child fileName)

/-- A path is that of the global settings file. -/
def isGlobal (place : Place) (path : Path) : Bool :=
  (place.globalPath?.map path.same).getD false

/-- There is a file at a path. -/
def isFile (place : Place) (path : Path) : Bool := place.files.isFile place.working path

/-- The file at a path can be read and says that it is a root file. -/
def isRoot (place : Place) (path : Path) : Bool :=
  match place.files.readText place.working path with
  | .ok text => ((FileSettings.ofText? text).map (·.isRoot)).getD false
  | .error _ => false

/-- The settings files among some paths up to the first root file, and whether there was one. -/
def searchAmong (place : Place) : List Path → List Path × Bool
  | [] => ([], false)
  | path :: farther =>
    if place.isFile path then
      if place.isRoot path then ([path], true)
      else
        let (found, rooted) := place.searchAmong farther
        (path :: found, rooted)
    else place.searchAmong farther

/-- The paths where the settings files of a directory and of those around it can be. -/
def candidates (directory : Path) : List Path := directory.ancestors.map (·.child fileName)

/-- The global file, if it is to be added to the files that were found. -/
def additional (place : Place) (found : List Path) : List Path :=
  place.globalPath?.toList.filter fun path => place.isFile path && !found.any (·.same path)

/-- The settings files for a directory, the closest first. -/
def discover (place : Place) (directory : Path) : List Path :=
  let (found, rooted) := place.searchAmong (candidates directory)
  if rooted then found else found ++ place.additional found

/-- The settings in the file at a path. -/
def readSource (place : Place) (path : Path) : Except ConfigError Source :=
  match place.files.readText place.working path with
  | .error error => .error (.unreadable path error)
  | .ok text =>
    match FileSettings.ofText? text with
    | none => .error (.malformed path)
    | some settings => .ok { path, settings }

/-- The configuration of the files at some paths, the closest first. The first file that cannot be read
is reported, before any setting is checked. -/
def loadFrom (place : Place) (paths : List Path) : Except ConfigError Config := do
  merge (← paths.mapM place.readSource)

/-- The configuration for a directory. -/
def load (place : Place) (directory : Path) : Except ConfigError Config :=
  place.loadFrom (place.discover directory)

end Place

end ContextualQuery.Config
