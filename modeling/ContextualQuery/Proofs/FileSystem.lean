import ContextualQuery.FileSystem
import ContextualQuery.Proofs.Path

/-!
# Adding a file

A file that is put where nothing stood changes nothing else. Paths lead to the same locations as
before: a way through the new file ended there before, since nothing stood there, and ends there now,
since it is no directory. So what is found at a path changes only for the paths that lead to the new
file. Paths that say the same lead to the same location.
-/

namespace ContextualQuery.FileSystem

variable {files : FileSystem} {working location found : Location} {content : ByteArray}
  {path other : Path} {segment : String} {segments : List String}

/-- A location without an entry is not the root. -/
theorem ne_root_of_missing (missing : files.get? location = none) : location ≠ [] := by
  rintro rfl
  cases missing

/-- A step succeeds in a directory only. -/
theorem step_eq_ok_iff {start : Location} :
    files.step start segment = .ok found ↔
      files.get? start = some .directory ∧ Location.advance start segment = found := by
  rw [step]
  cases files.get? start with
  | none => simp
  | some entry => cases entry <;> simp

/-- Nothing can be walked through at a new file, as before. -/
theorem step_put_eq_ok_iff (missing : files.get? location = none) {start : Location} :
    (files.put location (.file content)).step start segment = .ok found ↔
      files.step start segment = .ok found := by
  rw [step_eq_ok_iff, step_eq_ok_iff]
  by_cases same : location = start
  · subst same
    simp [get?_put_same files (ne_root_of_missing missing), missing]
  · rw [get?_put_other files same]

/-- Two walks end alike if every step does. -/
theorem foldlM_eq_ok_iff {walk walk' : Location → String → Except FileError Location}
    (steps : ∀ start segment found, walk start segment = .ok found ↔ walk' start segment = .ok found)
    (start : Location) :
    segments.foldlM walk start = .ok found ↔ segments.foldlM walk' start = .ok found := by
  induction segments generalizing start with
  | nil => rfl
  | cons segment rest inductionHypothesis =>
    have step := steps start segment
    rw [List.foldlM_cons, List.foldlM_cons]
    cases first : walk start segment with
    | ok reached =>
      rw [(step reached).mp first]
      exact inductionHypothesis reached
    | error error =>
      cases first' : walk' start segment with
      | ok reached => rw [(step reached).mpr first'] at first; cases first
      | error error' => simp [bind, Except.bind]

/-- Paths lead to the same locations with a new file and without it. -/
theorem locate_put_eq_ok_iff (missing : files.get? location = none) :
    (files.put location (.file content)).locate working path = .ok found ↔
      files.locate working path = .ok found := by
  rw [locate, locate]
  split
  case isTrue => simp
  case isFalse => exact foldlM_eq_ok_iff (fun _ _ _ => step_put_eq_ok_iff missing) _

/-- The path leads to the location. -/
def leadsTo (files : FileSystem) (working location : Location) (path : Path) : Bool :=
  match files.locate working path with
  | .ok found => found == location
  | .error _ => false

/-- A path leads to a location exactly if following it ends there. -/
theorem leadsTo_iff :
    files.leadsTo working location path = true ↔ files.locate working path = .ok location := by
  rw [leadsTo]
  split <;> simp_all

/-- What stands at a path is what stands at the location that the path leads to. -/
theorem lookUp_eq_ok_iff {entry : Entry} :
    files.lookUp working path = .ok entry ↔
      ∃ found, files.locate working path = .ok found ∧ files.get? found = some entry := by
  rw [lookUp]
  cases files.locate working path with
  | error error => simp [bind, Except.bind]
  | ok found =>
    cases present : files.get? found with
    | none => simp [bind, Except.bind, present, throw, throwThe, MonadExceptOf.throw]
    | some entry => simp [bind, Except.bind, present, pure, Except.pure]

/-- There is something at a path exactly if looking it up gives an entry. -/
theorem hasEntry_iff :
    files.hasEntry working path = true ↔ ∃ entry, files.lookUp working path = .ok entry := by
  rw [hasEntry]
  cases files.lookUp working path <;> simp

/-- At a path to the new file stands the file. -/
theorem lookUp_put_of_leadsTo (missing : files.get? location = none)
    (leads : files.leadsTo working location path = true) :
    (files.put location (.file content)).lookUp working path = .ok (.file content) := by
  have present := get?_put_same files (ne_root_of_missing missing) (.file content)
  have located := leadsTo_iff.mp leads
  exact lookUp_eq_ok_iff.mpr ⟨location, (locate_put_eq_ok_iff missing).mpr located, present⟩

/-- At every other path stands what stood there before. -/
theorem lookUp_put_of_not_leadsTo (missing : files.get? location = none)
    (elsewhere : files.leadsTo working location path = false) {entry : Entry} :
    (files.put location (.file content)).lookUp working path = .ok entry ↔
      files.lookUp working path = .ok entry := by
  rw [lookUp_eq_ok_iff, lookUp_eq_ok_iff]
  apply exists_congr
  intro found
  rw [locate_put_eq_ok_iff missing]
  apply and_congr_right
  intro located
  have other : location ≠ found := by
    rintro rfl
    rw [leadsTo_iff.mpr located] at elsewhere
    cases elsewhere
  rw [get?_put_other files other]

/-- Where the new file was put, nothing was found before. -/
theorem hasEntry_of_leadsTo (missing : files.get? location = none)
    (leads : files.leadsTo working location path = true) :
    files.hasEntry working path = false := by
  rw [Bool.eq_false_iff]
  intro present
  obtain ⟨entry, lookedUp⟩ := hasEntry_iff.mp present
  obtain ⟨found, located, present⟩ := lookUp_eq_ok_iff.mp lookedUp
  rw [leadsTo_iff.mp leads] at located
  obtain rfl := Except.ok.inj located
  rw [missing] at present
  cases present

/-! ### Writing -/

/-- A text that is written where there was nothing is put there as a file. -/
theorem writeText_of_new {text : String} {after : FileSystem}
    (new : files.hasEntry working path = false)
    (written : files.writeText working path text = .ok after) :
    ∃ location, files.locate working path = .ok location ∧ files.get? location = none ∧
      after = files.put location (.file text.toUTF8) := by
  rw [writeText, writable] at written
  cases located : files.locate working path with
  | error error => simp [located, bind, Except.bind] at written
  | ok location =>
    cases present : files.get? location with
    | none =>
      simp only [located, present, bind, Except.bind, pure, Except.pure, Except.ok.injEq] at written
      exact ⟨location, rfl, present, written.symm⟩
    | some entry =>
      have lookedUp := lookUp_eq_ok_iff.mpr ⟨location, located, present⟩
      rw [hasEntry_iff.mpr ⟨entry, lookedUp⟩] at new
      cases new

/-! ### Paths that say the same -/

/-- Segments that say nothing need a directory, as the next segment does anyway. By induction on the
segments. One that says nothing stays where it is, and fails at a file as the next one would. -/
theorem foldlM_step_filter {last : String} (significant : Path.isSignificant false last = true)
    (segments : List String) (start : Location) :
    (segments ++ [last]).foldlM files.step start =
      ((segments ++ [last]).filter (Path.isSignificant false)).foldlM files.step start := by
  induction segments generalizing start with
  | nil => rw [List.nil_append, List.filter_cons_of_pos significant, List.filter_nil]
  | cons segment rest inductionHypothesis =>
    by_cases speaks : Path.isSignificant false segment = true
    case pos =>
      rw [List.cons_append, List.filter_cons_of_pos speaks, List.foldlM_cons, List.foldlM_cons]
      congr
      funext reached
      exact inductionHypothesis reached
    case neg =>
      have stays : Location.advance start segment = start := by
        have silent : ¬segment = "" → segment = "." := by simpa [Path.isSignificant] using speaks
        by_cases empty : segment = ""
        · exact if_pos (.inl empty)
        · exact if_pos (.inr (silent empty))
      rw [List.cons_append, List.filter_cons_of_neg speaks, ← inductionHypothesis, List.foldlM_cons]
      obtain ⟨next, others, shape⟩ := List.exists_cons_of_ne_nil
        (List.append_ne_nil_of_right_ne_nil rest (List.cons_ne_nil last []))
      cases present : files.get? start with
      | none => simp [shape, step, present, bind, Except.bind]
      | some entry =>
        cases entry with
        | file content => simp [shape, step, present, bind, Except.bind]
        | directory => simp [step, present, stays, bind, Except.bind]

variable {name : String}

/-- The way to a child ends with its name. -/
theorem exists_segments_child (path : Path) (name : String) :
    ∃ before, (path.child name).segments = before ++ [name] := by
  rw [Path.child]
  split
  · exact ⟨_, rfl⟩
  · exact ⟨_, rfl⟩

/-- From the root, the components of a path are its segments without the empty ones and the dots. -/
theorem components_of_absolute (absolute : path.absolute = true) :
    path.components = path.segments.filter (Path.isSignificant false) := by
  rw [Path.components, absolute]
  cases path.segments with
  | nil => rfl
  | cons head tail => exact (List.filter_append [head] tail).symm

/-- An absolute path to a child leads where its components lead. -/
theorem locate_child (absolute : path.absolute = true)
    (significant : Path.isSignificant false name = true) :
    files.locate working (path.child name) =
      (path.child name).components.foldlM files.step [] := by
  have isAbsolute : (path.child name).absolute = true := (Path.absolute_child path name).trans absolute
  have nonempty : (path.child name).text ≠ "" := by simp [Path.text, isAbsolute]
  obtain ⟨before, shape⟩ := exists_segments_child path name
  rw [locate, if_neg nonempty, Path.origin, if_pos isAbsolute, components_of_absolute isAbsolute, shape]
  exact foldlM_step_filter significant before []

/-- Children that say the same lead to the same location. -/
theorem leadsTo_congr (absolute : path.absolute = true)
    (significant : Path.isSignificant false name = true)
    (same : (path.child name).same (other.child name) = true) :
    files.leadsTo working location (path.child name) =
      files.leadsTo working location (other.child name) := by
  simp only [Path.same, Bool.and_eq_true, beq_iff_eq, Path.absolute_child] at same
  obtain ⟨sameAbsolute, sameComponents⟩ := same
  have located : files.locate working (path.child name) = files.locate working (other.child name) := by
    rw [locate_child absolute significant, locate_child (sameAbsolute ▸ absolute) significant,
      sameComponents]
  rw [leadsTo, leadsTo, located]

end ContextualQuery.FileSystem
