import ContextualQuery.Path

/-!
# Paths and the directories around them

A file in the directory of a path has one component more than the path, and the directory around a
path has one less. So the files of one name in a directory and in those around it are pairwise
different, however the path of the directory is written.
-/

namespace ContextualQuery.Path

variable {absolute : Bool} {segment name : String} {path parent : Path}

/-- The last segment is the last component, if it says something where it stands. -/
theorem components_append (absolute : Bool) (before : List String) (segment : String) :
    components ⟨absolute, before ++ [segment]⟩ =
      components ⟨absolute, before⟩ ++
        if isSignificant (!absolute && before.isEmpty) segment then [segment] else [] := by
  cases before with
  | nil => simp [components, List.filter_cons]
  | cons head tail => simp [components, List.filter_cons]

/-- The segments at the end that are trimmed are no components. -/
theorem components_trimBackward (absolute : Bool) (segments : List String) :
    components ⟨absolute, (trimBackward absolute segments).reverse⟩ =
      components ⟨absolute, segments.reverse⟩ := by
  induction segments with
  | nil => rfl
  | cons segment before inductionHypothesis =>
    rw [trimBackward]
    split
    case isTrue => rfl
    case isFalse insignificant =>
      rw [inductionHypothesis, List.reverse_cons, components_append, List.isEmpty_reverse,
        if_neg insignificant, List.append_nil]

/-- A trimmed path ends in a component. -/
theorem isSignificant_of_trimBackward {segments before : List String}
    (trimmed : trimBackward absolute segments = segment :: before) :
    isSignificant (!absolute && before.isEmpty) segment = true := by
  induction segments with
  | nil => simp [trimBackward] at trimmed
  | cons head tail inductionHypothesis =>
    rw [trimBackward] at trimmed
    split at trimmed
    case isTrue significant =>
      obtain ⟨rfl, rfl⟩ := List.cons.inj trimmed
      exact significant
    case isFalse => exact inductionHypothesis trimmed

/-- The directory around a path has all components of the path but the last. -/
theorem components_of_parent? (found : path.parent? = some parent) :
    ∃ last, path.components = parent.components ++ [last] := by
  unfold parent? at found
  split at found
  case h_1 => simp at found
  case h_2 last before trimmed =>
    obtain rfl := Option.some.inj found
    have significant := isSignificant_of_trimBackward trimmed
    have whole := components_trimBackward path.absolute path.segments.reverse
    rw [trimmed, List.reverse_cons, components_append, List.isEmpty_reverse, if_pos significant,
      List.reverse_reverse] at whole
    exact ⟨last, by rw [components_trimBackward, whole]⟩

/-- A name in the directory of a path is one component more. -/
theorem components_child (path : Path) (significant : ∀ first, isSignificant first name = true) :
    (path.child name).components = path.components ++ [name] := by
  rw [child]
  split
  case isTrue ends =>
    obtain ⟨before, shape⟩ := List.getLast?_eq_some_iff.mp ends
    have whole := components_append path.absolute before ""
    rw [if_neg (by simp [isSignificant]), List.append_nil, ← shape] at whole
    rw [shape, List.dropLast_concat, components_append, if_pos (significant _), ← whole]
  case isFalse => rw [components_append, if_pos (significant _)]

/-- A parent starts from the root exactly if the path does. -/
theorem absolute_of_parent? (found : path.parent? = some parent) : parent.absolute = path.absolute := by
  unfold parent? at found
  split at found
  case h_1 => simp at found
  case h_2 =>
    obtain rfl := Option.some.inj found
    rfl

/-- A child starts from the root exactly if the path does. -/
theorem absolute_child (path : Path) (name : String) :
    (path.child name).absolute = path.absolute := by
  rw [child]
  split <;> rfl

/-- The directory around a name in a directory is that directory, possibly written otherwise. -/
theorem parent?_child (path : Path) (significant : ∀ first, isSignificant first name = true) :
    ∃ parent, (path.child name).parent? = some parent ∧ parent.same path = true := by
  have components := components_child path significant
  cases found : (path.child name).parent? with
  | none =>
    unfold parent? at found
    split at found
    case h_1 trimmed =>
      have whole := components_trimBackward (path.child name).absolute (path.child name).segments.reverse
      rw [trimmed, List.reverse_reverse] at whole
      have nothing : (path.child name).components = [] := whole.symm
      simp [components] at nothing
    case h_2 => cases found
  | some parent =>
    obtain ⟨last, split⟩ := components_of_parent? found
    refine ⟨parent, rfl, ?_⟩
    rw [components] at split
    have sameComponents : parent.components = path.components :=
      (List.append_inj_left' split rfl).symm
    rw [same, sameComponents, absolute_of_parent? found, absolute_child]
    simp

/-- Paths that say the same are the same as the same paths. -/
theorem same_congr {left right : Path} (alike : left.same right = true) (other : Path) :
    left.same other = right.same other := by
  simp only [same, Bool.and_eq_true, beq_iff_eq] at alike
  rw [same, same, alike.1, alike.2]

/-! ### Ancestors -/

/-- A path without a parent is the only one on its way up. -/
theorem ancestors_of_none (outermost : path.parent? = none) : path.ancestors = [path] := by
  rw [ancestors]
  split <;> simp_all

/-- The way up from a path is the path, and the way up from its parent. -/
theorem ancestors_of_some (found : path.parent? = some parent) :
    path.ancestors = path :: parent.ancestors := by
  rw [ancestors]
  split <;> simp_all

/-- The directories around an absolute path are absolute, and those around a relative one relative. -/
theorem absolute_of_mem_ancestors {farther : Path} (member : farther ∈ path.ancestors) :
    farther.absolute = path.absolute := by
  induction path using ancestors.induct with
  | case1 path outermost =>
    rw [ancestors_of_none outermost] at member
    rw [List.mem_singleton.mp member]
  | case2 path parent found inductionHypothesis =>
    rw [ancestors_of_some found] at member
    rcases List.mem_cons.mp member with rfl | member
    · rfl
    · rw [inductionHypothesis member, absolute_of_parent? found]

/-- No directory around a path has more components than the path. -/
theorem components_length_le {farther : Path} (member : farther ∈ path.ancestors) :
    farther.components.length ≤ path.components.length := by
  induction path using ancestors.induct with
  | case1 path outermost =>
    rw [ancestors_of_none outermost] at member
    obtain rfl := List.mem_singleton.mp member
    exact Nat.le_refl _
  | case2 path parent found inductionHypothesis =>
    obtain ⟨last, split⟩ := components_of_parent? found
    rw [ancestors_of_some found] at member
    rcases List.mem_cons.mp member with rfl | member
    · exact Nat.le_refl _
    · have below := inductionHypothesis member
      rw [split, List.length_append]
      omega

/-- A directory has fewer components than those inside it. -/
theorem ancestors_pairwise (path : Path) :
    path.ancestors.Pairwise fun closer farther =>
      farther.components.length < closer.components.length := by
  induction path using ancestors.induct with
  | case1 path outermost =>
    rw [ancestors_of_none outermost]
    exact List.pairwise_singleton _ _
  | case2 path parent found inductionHypothesis =>
    rw [ancestors_of_some found]
    refine List.pairwise_cons.mpr ⟨?_, inductionHypothesis⟩
    intro farther member
    obtain ⟨last, split⟩ := components_of_parent? found
    have bounded := components_length_le member
    rw [split, List.length_append, List.length_singleton]
    omega

/-- Files of one name in a directory and in those around it are different. -/
theorem children_pairwise (path : Path) (significant : ∀ first, isSignificant first name = true) :
    (path.ancestors.map (·.child name)).Pairwise fun closer farther =>
      closer.same farther = false := by
  rw [List.pairwise_map]
  refine (ancestors_pairwise path).imp fun {closer farther} shorter => ?_
  have differ : (closer.child name).components ≠ (farther.child name).components := by
    intro equal
    rw [components_child _ significant, components_child _ significant] at equal
    rw [List.append_cancel_right equal] at shorter
    exact Nat.lt_irrefl _ shorter
  rw [same, beq_false_of_ne differ, Bool.and_false]

end ContextualQuery.Path
