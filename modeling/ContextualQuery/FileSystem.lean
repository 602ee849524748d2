import ContextualQuery.Path

/-!
# File systems

A file system says what stands at a location, a list of names from the root. A path is followed from
the root or from a working directory, segment by segment, and every segment needs a directory to be
looked up in. Files hold bytes; text is read from them as UTF-8.
-/

namespace ContextualQuery

/-- The names on the way from the root. -/
abbrev Location := List String

/-- The location that a segment leads to. Two dots lead back. -/
def Location.advance (location : Location) (segment : String) : Location :=
  if segment = "" ∨ segment = "." then location
  else if segment = ".." then location.dropLast
  else location ++ [segment]

/-- The locations that a path leads through, if all of them are directories. -/
def Location.route (location : Location) : List String → List Location
  | [] => [location]
  | segment :: rest => location :: Location.route (Location.advance location segment) rest

/-- The location at which a path starts: the root or the working directory. -/
def Path.origin (path : Path) (working : Location) : Location :=
  if path.absolute then [] else working

/-- What stands at a location. -/
inductive Entry where
  | file (content : ByteArray)
  | directory

/-- A reason why a file cannot be read or written. -/
inductive FileError where
  | notFound
  | notDirectory
  | isDirectory
  | notText
deriving DecidableEq, Repr

/-- The wording of a file error. -/
def FileError.message : FileError → String
  | .notFound => "No such file or directory (os error 2)"
  | .notDirectory => "Not a directory (os error 20)"
  | .isDirectory => "Is a directory (os error 21)"
  | .notText => "stream did not contain valid UTF-8"

/-- A file system, by its entries below the root. An entry hides others behind it at its location. -/
structure FileSystem where
  entries : List (Location × Entry)

namespace FileSystem

/-- The file system without entries. -/
def empty : FileSystem := ⟨[]⟩

/-- What stands at a location. The root is a directory. -/
def get? (files : FileSystem) (location : Location) : Option Entry :=
  if location = [] then some .directory
  else (files.entries.find? (·.1 == location)).map Prod.snd

/-- The file system with an entry at a location. -/
def put (files : FileSystem) (location : Location) (entry : Entry) : FileSystem :=
  ⟨(location, entry) :: files.entries⟩

/-- The files with their locations. -/
def contents (files : FileSystem) : List (Location × ByteArray) :=
  (files.entries.eraseDupsBy fun left right => left.1 == right.1).filterMap fun (location, entry) =>
    match entry with
    | .file content => some (location, content)
    | .directory => none

/-- One step on the way to a location, for which a directory must have been reached. -/
def step (files : FileSystem) (location : Location) (segment : String) :
    Except FileError Location :=
  match files.get? location with
  | none => .error .notFound
  | some (.file _) => .error .notDirectory
  | some .directory => .ok (Location.advance location segment)

/-- The location of a path, seen from a working directory. What stands there may be missing. The empty
path leads nowhere. -/
def locate (files : FileSystem) (working : Location) (path : Path) : Except FileError Location :=
  if path.text = "" then .error .notFound
  else path.segments.foldlM files.step (path.origin working)

/-- What stands at a path. -/
def lookUp (files : FileSystem) (working : Location) (path : Path) : Except FileError Entry := do
  match files.get? (← files.locate working path) with
  | none => throw .notFound
  | some entry => return entry

/-- There is something at a path. -/
def hasEntry (files : FileSystem) (working : Location) (path : Path) : Bool :=
  match files.lookUp working path with
  | .ok _ => true
  | .error _ => false

/-- There is a file at a path. -/
def isFile (files : FileSystem) (working : Location) (path : Path) : Bool :=
  match files.lookUp working path with
  | .ok (.file _) => true
  | _ => false

/-- The text of the file at a path. -/
def readText (files : FileSystem) (working : Location) (path : Path) : Except FileError String := do
  match ← files.lookUp working path with
  | .directory => throw .isDirectory
  | .file content =>
    match String.fromUTF8? content with
    | none => throw .notText
    | some text => return text

/-- The location at which a file can be written. Only a directory stands in the way. -/
def writable (files : FileSystem) (working : Location) (path : Path) :
    Except FileError Location := do
  let location ← files.locate working path
  match files.get? location with
  | some .directory => throw .isDirectory
  | _ => return location

/-- The file system with a text in the file at a path. -/
def writeText (files : FileSystem) (working : Location) (path : Path) (text : String) :
    Except FileError FileSystem := do
  let location ← files.writable working path
  return files.put location (.file text.toUTF8)

/-- What was put at a location stands there. -/
theorem get?_put_same (files : FileSystem) {location : Location} (below : location ≠ [])
    (entry : Entry) : (files.put location entry).get? location = some entry := by
  simp [get?, put, below]

/-- Elsewhere everything stands where it stood. -/
theorem get?_put_other (files : FileSystem) {location other : Location} (differ : location ≠ other)
    (entry : Entry) : (files.put location entry).get? other = files.get? other := by
  simp [get?, put, beq_false_of_ne differ]

end FileSystem

end ContextualQuery
