import ContextualQuery.Config.Discovery
import ContextualQuery.Proofs.Path
import Mathlib

/-!
# Which settings files matter

The settings files for a directory are the files among the candidates up to the closest root file.
Only where no candidate is a root file, the global file comes last, if it is a file and not listed
already. No file is listed twice.

So a root file shields a directory from everything farther away. Whether a candidate is listed,
whether it ends the search and what it says all depend on its content alone, and nothing behind a
root file is looked at. Two places in which the candidates up to a root file have the same contents
therefore give the same configuration, or the same error.
-/

namespace ContextualQuery.Config

/-- The name of a settings file says something in every place of a path. -/
theorem isSignificant_fileName : ∀ first, Path.isSignificant first fileName = true := by decide

namespace Place

variable {place other : Place} {directory path root : Path} {front behind paths : List Path}

/-! ### Contents -/

/-- The content of the file at a path. -/
def content? (place : Place) (path : Path) : Option ByteArray :=
  match place.files.lookUp place.working path with
  | .ok (.file content) => some content
  | _ => none

/-- The content at a path is that of the file that stands there. -/
theorem content?_eq_some_iff {content : ByteArray} :
    place.content? path = some content ↔
      place.files.lookUp place.working path = .ok (.file content) := by
  rw [content?]
  split <;> simp_all

/-- There is a file at a path exactly if there is a content. -/
theorem isFile_eq (place : Place) (path : Path) :
    place.isFile path = (place.content? path).isSome := by
  rw [isFile, FileSystem.isFile, content?]
  split <;> simp_all

/-- The text of a file is decoded from its content. -/
theorem readText_of_content? {content : ByteArray} (found : place.content? path = some content) :
    place.files.readText place.working path =
      (String.fromUTF8? content).elim (.error .notText) .ok := by
  rw [FileSystem.readText, content?_eq_some_iff.mp found]
  cases decoded : String.fromUTF8? content with
  | none => simp [bind, Except.bind, decoded, throw, throwThe, MonadExceptOf.throw]
  | some text => simp [bind, Except.bind, decoded, pure, Except.pure]

/-- Where there is no file, no text is read. -/
theorem exists_content?_of_readText {text : String}
    (read : place.files.readText place.working path = .ok text) :
    ∃ content, place.content? path = some content := by
  rw [FileSystem.readText] at read
  cases entry : place.files.lookUp place.working path with
  | error error => simp [entry, bind, Except.bind] at read
  | ok found =>
    cases found with
    | file content => exact ⟨content, content?_eq_some_iff.mpr entry⟩
    | directory => simp [entry, bind, Except.bind, throw, throwThe, MonadExceptOf.throw] at read

/-- A root file is a file. -/
theorem exists_content?_of_isRoot (isRoot : place.isRoot path = true) :
    ∃ content, place.content? path = some content := by
  rw [Place.isRoot] at isRoot
  split at isRoot
  case h_1 text read => exact exists_content?_of_readText read
  case h_2 => simp at isRoot

/-- Only a file can be a root file. -/
theorem isFile_of_isRoot (isRoot : place.isRoot path = true) : place.isFile path = true := by
  obtain ⟨content, found⟩ := exists_content?_of_isRoot isRoot
  rw [isFile_eq, found]
  rfl

/-! ### Files with the same content -/

/-- Where the contents at a path agree, both places have a file there or neither has. -/
theorem isFile_congr (same : other.content? path = place.content? path) :
    other.isFile path = place.isFile path := by
  rw [isFile_eq, isFile_eq, same]

/-- Files with the same content have the same text. -/
theorem readText_congr (same : other.content? path = place.content? path)
    (isFile : place.isFile path = true) :
    other.files.readText other.working path = place.files.readText place.working path := by
  rw [isFile_eq] at isFile
  obtain ⟨content, found⟩ := Option.isSome_iff_exists.mp isFile
  rw [readText_of_content? found, readText_of_content? (same.trans found)]

/-- Where the contents at a path agree, the path is a root file for both places or for neither. -/
theorem isRoot_congr (same : other.content? path = place.content? path) :
    other.isRoot path = place.isRoot path := by
  by_cases isFile : place.isFile path = true
  · rw [isRoot, isRoot, readText_congr same isFile]
  · have noRoot : place.isRoot path ≠ true := fun isRoot => isFile (isFile_of_isRoot isRoot)
    have otherNoRoot : other.isRoot path ≠ true := fun isRoot =>
      isFile (isFile_congr same ▸ isFile_of_isRoot isRoot)
    rw [Bool.eq_false_iff.mpr noRoot, Bool.eq_false_iff.mpr otherNoRoot]

/-- Where the contents at a path agree, the same settings are read from it. -/
theorem readSource_congr (same : other.content? path = place.content? path)
    (isFile : place.isFile path = true) : other.readSource path = place.readSource path := by
  rw [readSource, readSource, readText_congr same isFile]

/-! ### The search -/

/-- The search ends at the closest root file. -/
theorem searchAmong_of_root (before : ∀ path ∈ front, place.isRoot path = false)
    (isRoot : place.isRoot root = true) :
    place.searchAmong (front ++ root :: behind) = (front.filter place.isFile ++ [root], true) := by
  induction front with
  | nil => simp [searchAmong, isFile_of_isRoot isRoot, isRoot]
  | cons path farther inductionHypothesis =>
    obtain ⟨noRoot, others⟩ := List.forall_mem_cons.mp before
    rw [List.cons_append, searchAmong, inductionHypothesis others, List.filter_cons]
    split
    case isTrue => simp [noRoot]
    case isFalse => simp

/-- Where there is no root file, the search passes all candidates. -/
theorem searchAmong_of_no_root (noRoot : ∀ path ∈ paths, place.isRoot path = false) :
    place.searchAmong paths = (paths.filter place.isFile, false) := by
  induction paths with
  | nil => rfl
  | cons path farther inductionHypothesis =>
    obtain ⟨noRoot, others⟩ := List.forall_mem_cons.mp noRoot
    rw [searchAmong, inductionHypothesis others, List.filter_cons]
    split
    case isTrue => simp [noRoot]
    case isFalse => simp

/-! ### The listed files -/

/-- The root file is the closest one for the directory, and the candidates before it are those in
front of it. -/
structure ClosestRoot (place : Place) (directory : Path) (front : List Path) (root : Path) :
    Prop where
  among : front ++ [root] <+: candidates directory
  before : ∀ path ∈ front, place.isRoot path = false
  isRoot : place.isRoot root = true

/-- The settings files for a directory: those up to the closest root file; or, without a root file,
all of them, and behind them the global file, if it is a file that is not among them. -/
inductive Lists (place : Place) (directory : Path) : List Path → Prop
  | rooted {front : List Path} {root : Path} (closest : place.ClosestRoot directory front root) :
      Lists place directory (front.filter place.isFile ++ [root])
  | plain (noRoot : ∀ path ∈ candidates directory, place.isRoot path = false)
      (nothing : ∀ path, place.globalPath? = some path → place.isFile path = true →
        ∃ listed ∈ (candidates directory).filter place.isFile, listed.same path = true) :
      Lists place directory ((candidates directory).filter place.isFile)
  | global {path : Path} (noRoot : ∀ path ∈ candidates directory, place.isRoot path = false)
      (isGlobal : place.globalPath? = some path) (isFile : place.isFile path = true)
      (unlisted : ∀ listed ∈ (candidates directory).filter place.isFile,
        listed.same path = false) :
      Lists place directory ((candidates directory).filter place.isFile ++ [path])

/-- A directory has a closest root file, or none of its candidates is a root file. -/
theorem exists_closestRoot (place : Place) (directory : Path) :
    (∃ front root, place.ClosestRoot directory front root) ∨
      ∀ path ∈ candidates directory, place.isRoot path = false := by
  cases found : (candidates directory).find? place.isRoot with
  | none =>
    right
    intro path member
    simpa using List.find?_eq_none.mp found path member
  | some root =>
    left
    obtain ⟨isRoot, front, behind, split, before⟩ := List.find?_eq_some_iff_append.mp found
    refine ⟨front, root, ⟨behind, ?_⟩, fun path member => by simpa using before path member, isRoot⟩
    rw [List.append_assoc, split]
    rfl

/-- If there is a root file on the way up, the files in front of it and the root file are found, and
nothing else. -/
theorem ClosestRoot.discover_eq (closest : place.ClosestRoot directory front root) :
    place.discover directory = front.filter place.isFile ++ [root] := by
  obtain ⟨behind, split⟩ := closest.among
  rw [List.append_assoc, List.singleton_append] at split
  rw [discover, ← split, searchAmong_of_root closest.before closest.isRoot]
  rfl

/-- Without a root file, the global file is added if it may be. -/
theorem discover_of_no_root (noRoot : ∀ path ∈ candidates directory, place.isRoot path = false) :
    place.discover directory = (candidates directory).filter place.isFile ++
      place.additional ((candidates directory).filter place.isFile) := by
  rw [discover, searchAmong_of_no_root noRoot]
  rfl

/-- The global file is added exactly if it is a file that is not among those found. -/
theorem additional_eq_singleton {found : List Path} (isGlobal : place.globalPath? = some path)
    (isFile : place.isFile path = true) (unlisted : ∀ listed ∈ found, listed.same path = false) :
    place.additional found = [path] := by
  have fresh : found.any (·.same path) = false := by simpa [List.any_eq_false] using unlisted
  simp [additional, isGlobal, isFile, fresh]

/-- No global file is added if the file there was found already, or if there is none. -/
theorem additional_eq_nil {found : List Path}
    (nothing : ∀ path, place.globalPath? = some path → place.isFile path = true →
      ∃ listed ∈ found, listed.same path = true) : place.additional found = [] := by
  rw [additional, List.filter_eq_nil_iff]
  intro path member permitted
  have isGlobal : place.globalPath? = some path := by simpa using member
  simp only [Bool.and_eq_true, Bool.not_eq_true', List.any_eq_false] at permitted
  obtain ⟨listed, isListed, same⟩ := nothing path isGlobal permitted.1
  exact permitted.2 listed isListed same

/-- There is no other way to list settings files. -/
theorem Lists.discover_eq (lists : place.Lists directory paths) :
    place.discover directory = paths := by
  cases lists with
  | rooted closest => exact closest.discover_eq
  | plain noRoot nothing =>
    rw [discover_of_no_root noRoot, additional_eq_nil nothing, List.append_nil]
  | global noRoot isGlobal isFile unlisted =>
    rw [discover_of_no_root noRoot, additional_eq_singleton isGlobal isFile unlisted]

/-- The files that are found are listed. -/
theorem lists_discover (place : Place) (directory : Path) :
    place.Lists directory (place.discover directory) := by
  rcases place.exists_closestRoot directory with ⟨front, root, closest⟩ | noRoot
  · rw [closest.discover_eq]
    exact .rooted closest
  · by_cases permitted : ∃ path, place.globalPath? = some path ∧ place.isFile path = true ∧
        ∀ listed ∈ (candidates directory).filter place.isFile, listed.same path = false
    · obtain ⟨path, isGlobal, isFile, unlisted⟩ := permitted
      rw [discover_of_no_root noRoot, additional_eq_singleton isGlobal isFile unlisted]
      exact .global noRoot isGlobal isFile unlisted
    · have nothing : ∀ path, place.globalPath? = some path → place.isFile path = true →
          ∃ listed ∈ (candidates directory).filter place.isFile, listed.same path = true := by
        intro path isGlobal isFile
        by_contra fresh
        refine permitted ⟨path, isGlobal, isFile, fun listed member => ?_⟩
        exact Bool.eq_false_iff.mpr fun same => fresh ⟨listed, member, same⟩
      rw [discover_of_no_root noRoot, additional_eq_nil nothing, List.append_nil]
      exact .plain noRoot nothing

/-! ### No file twice -/

/-- No two of the paths where the settings of a directory can be are the same. -/
theorem candidates_pairwise (directory : Path) :
    (candidates directory).Pairwise fun closer farther => closer.same farther = false :=
  directory.children_pairwise isSignificant_fileName

/-- No two of the listed paths say the same. -/
theorem Lists.pairwise (lists : place.Lists directory paths) :
    paths.Pairwise fun closer farther => closer.same farther = false := by
  have found : ((candidates directory).filter place.isFile).Pairwise fun closer farther =>
      closer.same farther = false :=
    (candidates_pairwise directory).sublist (List.filter_sublist)
  cases lists with
  | @rooted front root closest =>
    refine (candidates_pairwise directory).sublist (List.Sublist.trans ?_ closest.among.sublist)
    exact List.filter_sublist.append (List.Sublist.refl _)
  | plain => exact found
  | @global path _ _ _ unlisted =>
    refine List.pairwise_append.mpr ⟨found, List.pairwise_singleton _ _, ?_⟩
    intro listed member last isLast
    obtain rfl := List.mem_singleton.mp isLast
    exact unlisted listed member

/-! ### Two places -/

/-- A root file is the closest one wherever the candidates up to it have the same contents. -/
theorem ClosestRoot.congr (closest : place.ClosestRoot directory front root)
    (agree : ∀ path ∈ front ++ [root], other.content? path = place.content? path) :
    other.ClosestRoot directory front root := by
  obtain ⟨frontAgree, rootAgree⟩ := List.forall_mem_append.mp agree
  refine ⟨closest.among, fun path member => ?_, ?_⟩
  · rw [isRoot_congr (frontAgree path member)]
    exact closest.before path member
  · rw [isRoot_congr (rootAgree root (by simp))]
    exact closest.isRoot

/-- Up to a root file, the same files are listed. -/
theorem ClosestRoot.discover_congr (closest : place.ClosestRoot directory front root)
    (agree : ∀ path ∈ front ++ [root], other.content? path = place.content? path) :
    other.discover directory = place.discover directory := by
  have frontAgree := (List.forall_mem_append.mp agree).1
  rw [(closest.congr agree).discover_eq, closest.discover_eq,
    List.filter_congr fun path member => isFile_congr (frontAgree path member)]

/-- Files that say the same one by one are read with the same result. -/
theorem readSources_congr
    (each : ∀ path ∈ paths, other.readSource path = place.readSource path) :
    paths.mapM other.readSource = paths.mapM place.readSource := by
  induction paths with
  | nil => rfl
  | cons path farther inductionHypothesis =>
    obtain ⟨first, others⟩ := List.forall_mem_cons.mp each
    rw [List.mapM_cons, List.mapM_cons, first, inductionHypothesis others]

/-- Up to a root file, the listed files say the same. -/
theorem ClosestRoot.load_congr (closest : place.ClosestRoot directory front root)
    (agree : ∀ path ∈ front ++ [root], other.content? path = place.content? path) :
    other.load directory = place.load directory := by
  have each : ∀ path ∈ front.filter place.isFile ++ [root],
      other.readSource path = place.readSource path := by
    intro path member
    rcases List.mem_append.mp member with inFront | isRoot
    · obtain ⟨inFront, isFile⟩ := List.mem_filter.mp inFront
      exact readSource_congr (agree path (by simp [inFront])) isFile
    · obtain rfl := List.mem_singleton.mp isRoot
      exact readSource_congr (agree path (by simp)) (isFile_of_isRoot closest.isRoot)
  rw [load, load, closest.discover_congr agree, closest.discover_eq, loadFrom, loadFrom,
    readSources_congr each]

end Place

/-- Discovery lists exactly the files up to the closest root file, or without a root file all of
them and the global file; it lists no file twice; and files behind the closest root file never
matter: with the same contents up to it, another place gives the same list and the same
configuration or error. -/
theorem discover_exact (place : Place) (directory : Path) :
    (∀ files, place.Lists directory files ↔ place.discover directory = files) ∧
    ((place.discover directory).Pairwise fun closer farther => closer.same farther = false) ∧
    ∀ front root, place.ClosestRoot directory front root →
      ∀ other : Place, (∀ path ∈ front ++ [root], other.content? path = place.content? path) →
        other.discover directory = place.discover directory ∧
          other.load directory = place.load directory := by
  refine ⟨fun files => ⟨Place.Lists.discover_eq, ?_⟩, (place.lists_discover directory).pairwise, ?_⟩
  · rintro rfl
    exact place.lists_discover directory
  · intro front root closest other agree
    exact ⟨closest.discover_congr agree, closest.load_congr agree⟩

/-- The file around the root file is also the global one, and it enables no comparitors, which would
be an error. Behind the root file it does not matter. -/
theorem discover_exact_shielded :
    ∃ (near far : List (Location × Entry)) (place other : Place),
      near =
        [(["a"], .directory), (["a", "b"], .directory),
          (["a", ".cql.toml"], .file "root = true".toUTF8),
          (["a", "b", ".cql.toml"], .file "[output]\nformat = \"json\"".toUTF8)] ∧
      far = [([".cql.toml"], .file "[parser]\ncomparitors = []".toUTF8)] ∧
      place = { files := ⟨near⟩, working := [], home? := none } ∧
      other = { files := ⟨far ++ near⟩, working := [], home? := some (Path.ofText "/") } ∧
      other.isFile (Path.ofText "/.cql.toml") = true ∧
      place.ClosestRoot (Path.ofText "/a/b") [Path.ofText "/a/b/.cql.toml"]
        (Path.ofText "/a/.cql.toml") ∧
      (∀ path ∈ [Path.ofText "/a/b/.cql.toml"] ++ [Path.ofText "/a/.cql.toml"],
        other.content? path = place.content? path) ∧
      other.discover (Path.ofText "/a/b") = place.discover (Path.ofText "/a/b") ∧
      other.load (Path.ofText "/a/b") = place.load (Path.ofText "/a/b") := by
  refine ⟨_, _, _, _, rfl, rfl, rfl, rfl, by cbv, ?closest, ?agree,
    (discover_exact _ _).2.2 _ _ ?closest _ ?agree⟩
  case closest =>
    have candidates : Place.candidates (Path.ofText "/a/b") =
        [Path.ofText "/a/b/.cql.toml", Path.ofText "/a/.cql.toml", Path.ofText "/.cql.toml"] := by
      cbv
    refine ⟨⟨[Path.ofText "/.cql.toml"], candidates.symm⟩, ?_, by cbv⟩
    intro path member
    obtain rfl := List.mem_singleton.mp member
    cbv
  case agree =>
    intro path member
    simp only [List.cons_append, List.nil_append, List.mem_cons, List.not_mem_nil, or_false]
      at member
    rcases member with rfl | rfl
    · cbv
    · cbv

end ContextualQuery.Config
