import ContextualQuery.Command.Run
import ContextualQuery.Proofs.Config.NewFile

/-!
# A new settings file is neutral

The command that makes a settings file keeps an existing one unless it is told to overwrite it. Where
there was none, it puts the template there and touches nothing else. As the template says nothing, the
configuration of the working directory keeps its settings, or cannot be loaded for the same reason as
before. Only the list of its sources may have grown, by paths that lead to the new file.
-/

namespace ContextualQuery

variable {place : Config.Place} {global force : Bool} {target : Path}

namespace Config.Place

/-- The path of the working directory. -/
def directory (place : Place) : Path := Path.ofLocation place.working

/-- The working directory is the home directory. -/
def isAtHome (place : Place) : Bool := place.home?.any (·.same place.directory)

/-- The path of a new settings file: that of the global file, if it is asked for or the working directory
is the home directory, and else that in the working directory. -/
def target? (place : Place) (global : Bool) : Option Path :=
  if global || place.isAtHome then place.globalPath? else some (place.directory.child fileName)

end Config.Place

namespace Command

/-- The directory around the global file is the home directory. -/
theorem newFile?_eq (place : Config.Place) (global : Bool) :
    newFile? place global = place.target? global := by
  have atHome : ((place.globalPath?.bind Path.parent?).map (·.same place.directory)).getD false =
      place.isAtHome := by
    rw [Config.Place.globalPath?, Config.Place.isAtHome]
    cases place.home? with
    | none => rfl
    | some home =>
      obtain ⟨parent, found, alike⟩ := home.parent?_child Config.isSignificant_fileName
      simp [found, Path.same_congr alike]
  rw [Config.Place.target?, ← atHome]
  rfl

/-- Unless a new settings file was written, nothing changes. -/
theorem files_createFile (failed : (createFile place global force).1.status ≠ .success) :
    (createFile place global force).2 = place.files := by
  unfold createFile at failed ⊢
  split
  case h_1 => rfl
  case h_2 path isTarget =>
    simp only [isTarget] at failed
    split
    case isTrue => rfl
    case isFalse absent =>
      rw [if_neg absent] at failed
      split
      case h_1 => rfl
      case h_2 files written =>
        rw [written] at failed
        exact absurd rfl failed

/-- An existing file is kept, unless it is to be overwritten. -/
theorem status_createFile_of_existing (isTarget : place.target? global = some target)
    (existing : place.files.hasEntry place.working target = true) :
    (createFile place global false).1.status = .failure := by
  rw [createFile, newFile?_eq, isTarget]
  simp only [existing]
  rfl

/-- Where there was nothing, the template is put. -/
theorem createFile_of_new (isTarget : place.target? global = some target)
    (new : place.files.hasEntry place.working target = false)
    (succeeded : (createFile place global force).1.status = .success) :
    ∃ location, place.files.locate place.working target = .ok location ∧
      place.files.get? location = none ∧
      (createFile place global force).2 = (place.withTemplate location).files := by
  rw [createFile, newFile?_eq, isTarget] at succeeded ⊢
  simp only [new, Bool.false_and, Bool.false_eq_true, if_false] at succeeded ⊢
  cases written : place.files.writeText place.working target Config.template with
  | error error => simp [written, Answer.ofFailure] at succeeded
  | ok files => exact FileSystem.writeText_of_new new written

/-- Making a settings file keeps an existing one unless it is to be overwritten. Where there was none, it
changes nothing but the new file, and loading the configuration of the working directory gives the same
settings as before, from the same sources and possibly the new file, or the same error.

Proof: the new file holds the template, which defines no setting. Discovery finds the files from before
and possibly the new one, and a source that says nothing changes no merged setting. -/
theorem run_init_neutral (place : Config.Place) (arguments : List String) (invocation : Invocation)
    (global force : Bool) (target : Path)
    (understood : Request.ofArguments arguments = .run invocation)
    (isInit : invocation.action = .init global force) (isTarget : place.target? global = some target) :
    (force = false → place.files.hasEntry place.working target = true →
      (run place arguments).status = .failure ∧ (run place arguments).files = place.files) ∧
    (place.files.hasEntry place.working target = false → (run place arguments).status = .success →
      ∃ location, place.files.locate place.working target = .ok location ∧
        (run place arguments).files.get? location = some (.file Config.template.toUTF8) ∧
        (∀ other, other ≠ location → (run place arguments).files.get? other = place.files.get? other) ∧
        Config.Agree (Config.SameSettings (place.leadsTo location))
          (Config.Place.load { place with files := (run place arguments).files } place.directory)
          (place.load place.directory)) := by
  have ran : (run place arguments).status = (createFile place global force).1.status ∧
      (run place arguments).files = (createFile place global force).2 := by
    rw [run, understood]
    simp only [Invocation.run, isInit, and_self]
  obtain ⟨status, files⟩ := ran
  rw [status, files]
  constructor
  · rintro rfl existing
    have failed := status_createFile_of_existing isTarget existing
    exact ⟨failed, files_createFile (by rw [failed]; decide)⟩
  · intro new succeeded
    obtain ⟨location, located, missing, written⟩ := createFile_of_new isTarget new succeeded
    rw [written]
    refine ⟨location, located, ?_, fun other differs => ?_, ?_⟩
    · exact FileSystem.get?_put_same place.files (FileSystem.ne_root_of_missing missing) _
    · exact FileSystem.get?_put_other place.files differs.symm _
    · exact Config.Place.load_withTemplate missing rfl

/-- The outer directory has a settings file already. In the inner one, the home directory is written in
another way than the working directory, so that the new file is listed twice. -/
theorem run_init_neutral_nested :
    let files : FileSystem := ⟨[(["a"], .directory), (["a", "b"], .directory),
      (["a", ".cql.toml"], .file "[output]\nformat = \"json\"".toUTF8)]⟩
    let outer : Config.Place := ⟨files, ["a"], some ⟨true, ["a", "b", "..", "b"]⟩⟩
    let inner : Config.Place := { outer with working := ["a", "b"] }
    let after : Config.Place := { inner with files := (run inner ["init"]).files }
    ((run outer ["init"]).status = .failure ∧ (run outer ["init"]).files = files) ∧
      ∃ location, files.locate inner.working ⟨true, ["a", "b", ".cql.toml"]⟩ = .ok location ∧
        after.files.get? location = some (.file Config.template.toUTF8) ∧
        (∀ other, other ≠ location → after.files.get? other = files.get? other) ∧
        Config.Agree (Config.SameSettings (inner.leadsTo location)) (after.load inner.directory)
          (inner.load inner.directory) := by
  intro files outer inner after
  have understood : Request.ofArguments ["init"] = .run ⟨none, 0, .init false false⟩ := by
    decide +kernel
  have outerTarget : outer.target? false = some ⟨true, ["a", ".cql.toml"]⟩ := by cbv
  have innerTarget : inner.target? false = some ⟨true, ["a", "b", ".cql.toml"]⟩ := by cbv
  have existing : files.hasEntry ["a"] ⟨true, ["a", ".cql.toml"]⟩ = true := by cbv
  have new : files.hasEntry ["a", "b"] ⟨true, ["a", "b", ".cql.toml"]⟩ = false := by cbv
  have succeeded : (run inner ["init"]).status = .success := rfl
  exact ⟨(run_init_neutral outer ["init"] _ false false _ understood rfl outerTarget).1 rfl existing,
    (run_init_neutral inner ["init"] _ false false _ understood rfl innerTarget).2 new succeeded⟩

end Command

end ContextualQuery
