/-!
# Paths

A path is a text that is split at slashes into segments. Empty segments, and single dots except one at
the start of a relative path, say nothing: two paths are the same when their other segments are. The
text of a path is kept as it was written.
-/

namespace ContextualQuery

/-- A path by its segments. An absolute path starts with a slash, which belongs to no segment. -/
structure Path where
  absolute : Bool
  segments : List String
deriving DecidableEq, Repr

namespace Path

/-- The pieces of a text between its slashes. -/
def splitSlashes : List Char → List (List Char)
  | [] => [[]]
  | c :: rest =>
    if c = '/' then [] :: splitSlashes rest
    else
      match splitSlashes rest with
      | [] => [[c]]
      | piece :: pieces => (c :: piece) :: pieces

/-- The path of a text. -/
def ofText (text : String) : Path :=
  match text.toList with
  | '/' :: rest => ⟨true, (splitSlashes rest).map String.ofList⟩
  | chars => ⟨false, (splitSlashes chars).map String.ofList⟩

/-- The text of a path. -/
def text (path : Path) : String :=
  (if path.absolute then "/" else "") ++ "/".intercalate path.segments

/-- The path of a name in the directory of a path. -/
def child (path : Path) (name : String) : Path :=
  if path.segments.getLast? = some "" then
    { path with segments := path.segments.dropLast ++ [name] }
  else { path with segments := path.segments ++ [name] }

/-- A segment that says something, where `first` tells that it starts a relative path. -/
def isSignificant (first : Bool) (segment : String) : Bool :=
  segment != "" && (segment != "." || first)

/-- The segments that say something. -/
def components (path : Path) : List String :=
  match path.segments with
  | [] => []
  | head :: tail =>
    [head].filter (isSignificant !path.absolute) ++ tail.filter (isSignificant false)

/-- Two paths say the same, without a look at the files they lead to. -/
def same (left right : Path) : Bool :=
  left.absolute == right.absolute && left.components == right.components

/-- Segments in backward order, without those at the end of the path that say nothing. -/
def trimBackward (absolute : Bool) : List String → List String
  | [] => []
  | segment :: before =>
    if isSignificant (!absolute && before.isEmpty) segment then segment :: before
    else trimBackward absolute before

/-- The path of the directory around a path. The root and the empty path have none. -/
def parent? (path : Path) : Option Path :=
  match trimBackward path.absolute path.segments.reverse with
  | [] => none
  | _ :: before => some { path with segments := (trimBackward path.absolute before).reverse }

/-- Trimming a path backward leaves at most the segments it had. -/
theorem trimBackward_length (absolute : Bool) (segments : List String) :
    (trimBackward absolute segments).length ≤ segments.length := by
  induction segments with
  | nil => simp [trimBackward]
  | cons segment before inductionHypothesis =>
    rw [trimBackward]
    split
    · simp
    · simp only [List.length_cons]
      omega

/-- A parent has fewer segments than the path, so walking up ends. -/
theorem parent?_length {path parent : Path} (found : path.parent? = some parent) :
    parent.segments.length < path.segments.length := by
  unfold parent? at found
  split at found
  · simp at found
  next last before trimmed =>
    cases found
    have whole := trimBackward_length path.absolute path.segments.reverse
    have rest := trimBackward_length path.absolute before
    rw [trimmed, List.length_cons, List.length_reverse] at whole
    simp only [List.length_reverse]
    omega

/-- A path and the directories around it, the closest first. -/
def ancestors (path : Path) : List Path :=
  match _found : path.parent? with
  | none => [path]
  | some parent => path :: parent.ancestors
termination_by path.segments.length
decreasing_by exact parent?_length _found

/-- Every path is the same as itself. -/
theorem same_refl (path : Path) : path.same path = true := by simp [same]

/-- Which of two paths is named first does not matter. -/
theorem same_comm (left right : Path) : left.same right = right.same left := by
  rw [Bool.eq_iff_iff]
  simp only [same, Bool.and_eq_true, beq_iff_eq]
  exact ⟨fun both => ⟨both.1.symm, both.2.symm⟩, fun both => ⟨both.1.symm, both.2.symm⟩⟩

end Path

end ContextualQuery
