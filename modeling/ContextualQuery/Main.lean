import ContextualQuery.Command.Run

/-!
# The program

Reads what is there in the files that a run can depend on, runs the command line, writes the files that
it changed, and prints its output and errors.
-/

namespace ContextualQuery.Program

/-- The text of the path of a location. -/
def pathText (location : Location) : String := (Path.ofLocation location).text

/-- What stands at a location on the disk. -/
def entryAt (location : Location) : IO (Option Entry) := do
  try
    let path ← IO.FS.realPath (pathText location)
    if ← path.isDir then return some .directory
    return some (.file (← IO.FS.readBinFile path))
  catch _ => return none

/-- The part of the disk that some paths lead through, from a working directory. -/
def survey (working : Location) (paths : List Path) : IO FileSystem := do
  let locations := paths.flatMap fun path =>
    Location.route (path.origin working) path.segments
  let mut files := FileSystem.empty
  for location in locations.eraseDups do
    match ← entryAt location with
    | some entry => files := files.put location entry
    | none => pure ()
  return files

/-- Writes the files that differ between two states. -/
def writeChanges (before after : FileSystem) : IO Unit := do
  for (location, content) in after.contents do
    let same := match before.get? location with
      | some (.file old) => old == content
      | _ => false
    unless same do
      IO.FS.writeBinFile (pathText location) content

/-- Runs a command line in a working directory. -/
def runIn (working : Location) (arguments : List String) : IO UInt32 := do
  let home? := ((← IO.getEnv "HOME").filter (· ≠ "")).map Path.ofText
  let place : Config.Place := { files := FileSystem.empty, working, home? }
  let files ← survey working (Command.consulted place arguments)
  let outcome := Command.run { place with files } arguments
  try
    writeChanges files outcome.files
    IO.print outcome.output
    IO.eprint outcome.errors
    return UInt32.ofNat outcome.status.code
  catch error =>
    IO.eprintln ("error: " ++ toString error)
    return 1

end ContextualQuery.Program

/-- The program. -/
def main (arguments : List String) : IO UInt32 := do
  let directory ← IO.currentDir
  let working := (ContextualQuery.Path.ofText directory.toString).components
  ContextualQuery.Program.runIn working arguments
