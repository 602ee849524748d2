import ContextualQuery.Proofs.Config.Discovery
import ContextualQuery.Proofs.Config.Merge
import ContextualQuery.Proofs.Config.Template
import ContextualQuery.Proofs.FileSystem

/-!
# A new settings file changes no setting

The template is put where nothing stood. Then every path that leads there is a file that says nothing,
and every other path is as it was. So the search meets the same root file or none, and lists what it
listed before and possibly paths to the new file between. The global file is not mistaken for the new
one: if a listed path says the same as its path, both lead to the same location. When the files are
taken in, the new one adds its path to the sources and leaves the settings alone. The same files fail
to be read or to pass a check as before, and the first of them is reported.
-/

namespace ContextualQuery.Config

/-! ### Results that agree -/

/-- Both fail with the same error, or both give results that are related. -/
inductive Agree {ε α β : Type} (related : α → β → Prop) : Except ε α → Except ε β → Prop
  | error (error : ε) : Agree related (.error error) (.error error)
  | ok {left : α} {right : β} (both : related left right) : Agree related (.ok left) (.ok right)

/-- Computations that agree so far and go on in agreement agree to the end. -/
theorem Agree.bind {ε α β γ δ : Type} {related : α → β → Prop} {related' : γ → δ → Prop}
    {left : Except ε α} {right : Except ε β} {next : α → Except ε γ} {next' : β → Except ε δ}
    (agree : Agree related left right)
    (continued : ∀ value value', related value value' → Agree related' (next value) (next' value')) :
    Agree related' (left >>= next) (right >>= next') := by
  cases agree with
  | error error => exact .error error
  | ok both => exact continued _ _ both

/-- One side goes on and the other one stays. -/
theorem Agree.bind_left {ε α β γ : Type} {related : α → β → Prop} {related' : γ → β → Prop}
    {left : Except ε α} {right : Except ε β} {next : α → Except ε γ} (agree : Agree related left right)
    (continued : ∀ value value', related value value' → Agree related' (next value) (.ok value')) :
    Agree related' (left >>= next) right := by
  cases agree with
  | error error => exact .error error
  | ok both => exact continued _ _ both

/-! ### Merging -/

variable {added : Path → Bool}

/-- The settings are the same, and the sources are, but for some that were added. -/
structure SameSettings (added : Path → Bool) (after before : Config) : Prop where
  comparitors : after.comparitors = before.comparitors
  modifierNames : after.modifierNames? = before.modifierNames?
  format : after.format = before.format
  sources : after.sources.filter (fun path => !added path) = before.sources

/-- The sources are the same, but for some that were added and say nothing. -/
structure Extends (added : Path → Bool) (after before : List Source) : Prop where
  kept : after.filter (fun source => !added source.path) = before
  silent : ∀ source ∈ after, added source.path = true → source.settings = {}

/-- Taking in a file that says nothing adds its path only. -/
theorem override_silent {source : Source} (silent : source.settings = {}) (config : Config) :
    override config source = .ok { config with sources := source.path :: config.sources } := by
  rw [override, silent]
  rfl

/-- A file changes equal settings in the same way. -/
theorem SameSettings.override {after before : Config} {source : Source}
    (same : SameSettings added after before) (isOld : added source.path = false) :
    Agree (SameSettings added) (override after source) (override before source) := by
  obtain ⟨comparitors, modifierNames, format, sources⟩ := same
  have listed : (source.path :: after.sources).filter (fun path => !added path) =
      source.path :: before.sources := by
    simp [isOld, sources]
  rw [Config.override, Config.override, comparitors, modifierNames, format]
  split
  case h_1 => exact .ok ⟨rfl, rfl, rfl, listed⟩
  case h_2 names _ =>
    cases checkComparitors source.path names with
    | error error => exact .error error
    | ok checked => exact .ok ⟨rfl, rfl, rfl, listed⟩

/-- Files that say nothing do not matter for merging. -/
theorem Extends.merge {after before : List Source} (extended : Extends added after before) :
    Agree (SameSettings added) (merge after) (merge before) := by
  induction after generalizing before with
  | nil =>
    obtain rfl := extended.kept
    exact .ok ⟨rfl, rfl, rfl, rfl⟩
  | cons source farther inductionHypothesis =>
    obtain ⟨kept, silent⟩ := extended
    obtain ⟨first, others⟩ := List.forall_mem_cons.mp silent
    have agree := inductionHypothesis ⟨rfl, others⟩
    cases isAdded : added source.path with
    | true =>
      obtain rfl : farther.filter (fun source => !added source.path) = before := by
        simpa [isAdded] using kept
      refine agree.bind_left fun config config' same => ?_
      rw [override_silent (first isAdded)]
      refine .ok ⟨same.comparitors, same.modifierNames, same.format, ?_⟩
      simpa [isAdded] using same.sources
    | false =>
      obtain rfl : source :: farther.filter (fun source => !added source.path) = before := by
        simpa [isAdded] using kept
      exact agree.bind fun config config' same => same.override isAdded

namespace Place

variable {place : Place} {location : Location} {path directory : Path} {paths : List Path}

/-! ### Contents -/

/-- The place with the template as the file at a location. -/
def withTemplate (place : Place) (location : Location) : Place :=
  { place with files := place.files.put location (.file template.toUTF8) }

/-- The path leads to the location. -/
def leadsTo (place : Place) (location : Location) (path : Path) : Bool :=
  place.files.leadsTo place.working location path

/-- A source that was read names the path that it was read from. -/
theorem path_of_readSource {source : Source} (read : place.readSource path = .ok source) :
    source.path = path := by
  rw [readSource] at read
  split at read
  case h_1 => cases read
  case h_2 =>
    split at read
    case h_1 => cases read
    case h_2 =>
      obtain rfl := Except.ok.inj read
      rfl

/-- Only files are listed. -/
theorem isFile_of_mem_discover (listed : path ∈ place.discover directory) :
    place.isFile path = true := by
  rcases place.exists_closestRoot directory with ⟨front, root, closest⟩ | noRoot
  · rw [closest.discover_eq] at listed
    rcases List.mem_append.mp listed with inFront | isRoot
    · exact (List.mem_filter.mp inFront).2
    · obtain rfl := List.mem_singleton.mp isRoot
      exact isFile_of_isRoot closest.isRoot
  · rw [discover_of_no_root noRoot] at listed
    rcases List.mem_append.mp listed with candidate | isGlobal
    · exact (List.mem_filter.mp candidate).2
    · have permitted := (List.mem_filter.mp isGlobal).2
      simp only [Bool.and_eq_true] at permitted
      exact permitted.1

/-- A candidate that says the same as the path of the global file leads where that path leads. -/
theorem leadsTo_of_same (absolute : directory.absolute = true) {global : Path}
    (candidate : path ∈ candidates directory) (isGlobal : place.globalPath? = some global)
    (same : path.same global = true) :
    place.leadsTo location path = place.leadsTo location global := by
  obtain ⟨around, isAncestor, rfl⟩ := List.mem_map.mp candidate
  obtain ⟨home, _, rfl⟩ := Option.map_eq_some_iff.mp isGlobal
  exact FileSystem.leadsTo_congr ((Path.absolute_of_mem_ancestors isAncestor).trans absolute)
    (isSignificant_fileName false) same

/-- The bytes of a text are read back as the text. -/
theorem fromUTF8?_toUTF8 (text : String) : String.fromUTF8? text.toUTF8 = some text := by
  simp only [String.fromUTF8?, Option.dite_none_right_eq_some]
  exact ⟨text.isValidUTF8, rfl⟩

/-- A file is read by its text. It is said of all texts, because a given text is slow to evaluate. -/
theorem readSource_of_readText {text : String} {settings : FileSettings}
    (read : place.files.readText place.working path = .ok text)
    (parsed : FileSettings.ofText? text = some settings) :
    place.readSource path = .ok ⟨path, settings⟩ := by
  rw [readSource, read]
  dsimp only
  rw [parsed]

section New

variable (missing : place.files.get? location = none)

include missing

/-- At the paths that lead to the new file, the content is the template. -/
theorem content?_of_leadsTo (leads : place.leadsTo location path = true) :
    (place.withTemplate location).content? path = some template.toUTF8 :=
  content?_eq_some_iff.mpr (FileSystem.lookUp_put_of_leadsTo missing leads)

/-- At the paths that lead elsewhere, the content is what it was. -/
theorem content?_of_elsewhere (elsewhere : place.leadsTo location path = false) :
    (place.withTemplate location).content? path = place.content? path := by
  ext content
  rw [content?_eq_some_iff, content?_eq_some_iff]
  exact FileSystem.lookUp_put_of_not_leadsTo missing elsewhere

/-- Where the template is put, there was no file. -/
theorem isFile_of_leadsTo (leads : place.leadsTo location path = true) : place.isFile path = false := by
  have nothing := FileSystem.hasEntry_of_leadsTo missing leads
  rw [isFile, FileSystem.isFile]
  rw [FileSystem.hasEntry] at nothing
  split
  case h_1 found => simp [found] at nothing
  case h_2 => rfl

/-- A path is a file as before, or it leads to the template. -/
theorem isFile_withTemplate (path : Path) :
    (place.withTemplate location).isFile path = (place.leadsTo location path || place.isFile path) := by
  cases leads : place.leadsTo location path with
  | true => rw [isFile_eq, content?_of_leadsTo missing leads]; rfl
  | false => rw [isFile_congr (content?_of_elsewhere missing leads), Bool.false_or]

/-- The new file is read back as the template. -/
theorem readText_template (leads : place.leadsTo location path = true) :
    (place.withTemplate location).files.readText (place.withTemplate location).working path =
      .ok template := by
  rw [readText_of_content? (content?_of_leadsTo missing leads), fromUTF8?_toUTF8]
  rfl

/-- The template is read as a file without settings. -/
theorem readSource_template (leads : place.leadsTo location path = true) :
    (place.withTemplate location).readSource path = .ok ⟨path, {}⟩ :=
  readSource_of_readText (readText_template missing leads) ofText?_template

/-- The template is no root file, so that the same paths are root files as before. -/
theorem isRoot_withTemplate (path : Path) :
    (place.withTemplate location).isRoot path = place.isRoot path := by
  cases leads : place.leadsTo location path with
  | true =>
    have noFile := isFile_of_leadsTo missing leads
    have noRoot : place.isRoot path = false := by
      rw [Bool.eq_false_iff]
      intro isRoot
      rw [isFile_of_isRoot isRoot] at noFile
      cases noFile
    rw [noRoot, isRoot, readText_template missing leads]
    dsimp only
    rw [ofText?_template]
    rfl
  | false => exact isRoot_congr (content?_of_elsewhere missing leads)

/-! ### The search -/

/-- Without the paths to the template, the same paths are files. -/
theorem filter_isFile_withTemplate (paths : List Path) :
    (paths.filter (place.withTemplate location).isFile).filter
      (fun path => !place.leadsTo location path) = paths.filter place.isFile := by
  rw [List.filter_filter]
  apply List.filter_congr
  intro path _
  rw [isFile_withTemplate missing]
  cases leads : place.leadsTo location path with
  | true => simp [isFile_of_leadsTo missing leads]
  | false => simp

/-- The global file is added as before, unless it is the template. -/
theorem additional_withTemplate (absolute : directory.absolute = true) :
    ((place.withTemplate location).additional
        ((candidates directory).filter (place.withTemplate location).isFile)).filter
      (fun path => !place.leadsTo location path) =
        place.additional ((candidates directory).filter place.isFile) := by
  rw [additional, additional, List.filter_filter]
  apply List.filter_congr
  intro global member
  have isGlobal : place.globalPath? = some global := Option.mem_toList.mp member
  rw [isFile_withTemplate missing]
  cases leads : place.leadsTo location global with
  | true => simp [isFile_of_leadsTo missing leads]
  | false =>
    have listed :
        ((candidates directory).filter (place.withTemplate location).isFile).any (·.same global) =
          ((candidates directory).filter place.isFile).any (·.same global) := by
      rw [Bool.eq_iff_iff, List.any_eq_true, List.any_eq_true]
      apply exists_congr
      intro path
      rw [List.mem_filter, List.mem_filter, and_assoc, and_assoc]
      apply and_congr_right
      intro candidate
      apply and_congr_left
      intro same
      rw [isFile_withTemplate missing, leadsTo_of_same absolute candidate isGlobal same, leads,
        Bool.false_or]
    simp [listed]

/-- Without the paths to the template, the same files are listed. -/
theorem discover_withTemplate (absolute : directory.absolute = true) :
    ((place.withTemplate location).discover directory).filter
      (fun path => !place.leadsTo location path) = place.discover directory := by
  have old := filter_isFile_withTemplate missing
  rcases place.exists_closestRoot directory with ⟨front, root, closest⟩ | noRoot
  · have closest' : (place.withTemplate location).ClosestRoot directory front root := by
      refine ⟨closest.among, fun path member => ?_, ?_⟩
      · rw [isRoot_withTemplate missing]
        exact closest.before path member
      · rw [isRoot_withTemplate missing]
        exact closest.isRoot
    have elsewhere : place.leadsTo location root = false := by
      rw [Bool.eq_false_iff]
      intro leads
      have noFile := isFile_of_leadsTo missing leads
      rw [isFile_of_isRoot closest.isRoot] at noFile
      cases noFile
    rw [closest'.discover_eq, closest.discover_eq, List.filter_append, old]
    simp [elsewhere]
  · have noRoot' : ∀ path ∈ candidates directory,
        (place.withTemplate location).isRoot path = false := by
      intro path member
      rw [isRoot_withTemplate missing]
      exact noRoot path member
    rw [discover_of_no_root noRoot', discover_of_no_root noRoot, List.filter_append, old,
      additional_withTemplate missing absolute]

/-! ### Loading -/

/-- Files are read as before, and the template between them says nothing. By induction on the paths: a
path leads to the new file, which says nothing, or it leads elsewhere and is read as before. -/
theorem readSources_withTemplate
    (isFile : ∀ path ∈ paths, (place.withTemplate location).isFile path = true) :
    Agree (Extends (place.leadsTo location)) (paths.mapM (place.withTemplate location).readSource)
      ((paths.filter fun path => !place.leadsTo location path).mapM place.readSource) := by
  induction paths with
  | nil => exact .ok ⟨rfl, by simp⟩
  | cons path farther inductionHypothesis =>
    obtain ⟨first, others⟩ := List.forall_mem_cons.mp isFile
    have agree := inductionHypothesis others
    rw [List.mapM_cons]
    cases leads : place.leadsTo location path with
    | true =>
      rw [readSource_template missing leads, List.filter_cons_of_neg (by simp [leads])]
      refine agree.bind_left fun sources sources' extended => .ok ⟨?_, ?_⟩
      · simpa [leads] using extended.kept
      · exact List.forall_mem_cons.mpr ⟨fun _ => rfl, extended.silent⟩
    | false =>
      have wasFile : place.isFile path = true := by
        simpa [isFile_withTemplate missing, leads] using first
      rw [readSource_congr (content?_of_elsewhere missing leads) wasFile,
        List.filter_cons_of_pos (by simp [leads]), List.mapM_cons]
      cases read : place.readSource path with
      | error error => exact .error error
      | ok source =>
        have isOld : place.leadsTo location source.path = false := by
          rw [path_of_readSource read, leads]
        refine agree.bind fun sources sources' extended => .ok ⟨?_, ?_⟩
        · simpa [isOld] using extended.kept
        · exact List.forall_mem_cons.mpr ⟨by simp [isOld], extended.silent⟩

/-- With the template as a new file, the configuration has the same settings, or loading it fails with
the same error. -/
theorem load_withTemplate (absolute : directory.absolute = true) :
    Agree (SameSettings (place.leadsTo location)) ((place.withTemplate location).load directory)
      (place.load directory) := by
  have isFile : ∀ path ∈ (place.withTemplate location).discover directory,
      (place.withTemplate location).isFile path = true := fun path => isFile_of_mem_discover
  have read := readSources_withTemplate missing isFile
  rw [discover_withTemplate missing absolute] at read
  exact read.bind fun _ _ extended => extended.merge

end New

end Place

end ContextualQuery.Config
