import ContextualQuery.Text.LetterCase

/-!
# Sets of names

Names are compared without regard to letter case: a set keeps the lower case of its names, in
increasing order and each once, and a name belongs to it when its lower case does.
-/

namespace ContextualQuery

/-- Puts a name into an increasing list, unless it is there already. -/
def insertName (name : String) : List String → List String
  | [] => [name]
  | head :: tail =>
    if name < head then name :: head :: tail
    else if name = head then head :: tail
    else head :: insertName name tail

/-- Inserting a name adds this name and keeps the others. -/
theorem mem_insertName (name other : String) (names : List String) :
    other ∈ insertName name names ↔ other = name ∨ other ∈ names := by
  induction names with
  | nil => simp [insertName]
  | cons head tail inductionHypothesis =>
    rw [insertName]
    split
    · simp
    · split
      case isTrue same => simp [same]
      case isFalse => simp only [List.mem_cons, inductionHypothesis]; grind

/-- Names that are in order stay in order when one is inserted. -/
theorem insertName_ordered (name : String) (names : List String)
    (ordered : names.Pairwise (· < ·)) : (insertName name names).Pairwise (· < ·) := by
  induction names with
  | nil => simp [insertName]
  | cons head tail inductionHypothesis =>
    obtain ⟨above, tailOrdered⟩ := List.pairwise_cons.mp ordered
    rw [insertName]
    split
    case isTrue before =>
      refine List.pairwise_cons.mpr ⟨?_, ordered⟩
      intro other member
      rcases List.mem_cons.mp member with rfl | member
      · exact before
      · exact String.lt_trans before (above other member)
    case isFalse notBefore =>
      split
      · exact ordered
      case isFalse differ =>
        refine List.pairwise_cons.mpr ⟨?_, inductionHypothesis tailOrdered⟩
        intro other member
        rcases (mem_insertName name other tail).mp member with rfl | member
        · have notAfter : ¬ other < head := notBefore
          have below : head ≤ other := String.not_lt.mp notAfter
          exact Decidable.byContradiction fun notLess =>
            differ (String.le_antisymm (String.not_lt.mp notLess) below)
        · exact above other member

/-- A set of names in lower case. -/
structure NameSet where
  names : List String
  ordered : names.Pairwise (· < ·) := by decide

namespace NameSet

/-- The set without names. -/
def empty : NameSet := ⟨[], List.Pairwise.nil⟩

/-- The set with one more name. -/
def insert (set : NameSet) (name : String) : NameSet :=
  ⟨insertName (Text.lower name) set.names, insertName_ordered _ _ set.ordered⟩

/-- The set of the names of a list. -/
def ofList (names : List String) : NameSet := names.foldl insert empty

/-- A name belongs to the set, in any mixture of cases. -/
def contains (set : NameSet) (name : String) : Bool := set.names.contains (Text.lower name)

/-- Sets of names are equal if their lists are. -/
instance : DecidableEq NameSet := fun left right =>
  if same : left.names = right.names then
    isTrue (by cases left; cases right; simpa using same)
  else isFalse (by rintro rfl; exact same rfl)

/-- The empty set contains no name. -/
theorem contains_empty (name : String) : empty.contains name = false := rfl

/-- A set contains what was inserted, in any letter case, and what it contained before. -/
theorem contains_insert (set : NameSet) (name other : String) :
    (set.insert name).contains other =
      (Text.lower other == Text.lower name || set.contains other) := by
  rw [Bool.eq_iff_iff]
  simp [contains, insert, mem_insertName]

/-- A name belongs to the set of a list when some name of the list has the same lower case. -/
theorem contains_ofList (names : List String) (name : String) :
    (ofList names).contains name = true ↔ ∃ listed ∈ names, Text.lower listed = Text.lower name := by
  suffices general : ∀ set : NameSet, (names.foldl insert set).contains name = true ↔
      set.contains name = true ∨ ∃ listed ∈ names, Text.lower listed = Text.lower name by
    simpa [ofList, contains_empty] using general empty
  intro set
  induction names generalizing set with
  | nil => simp
  | cons head tail inductionHypothesis =>
    rw [List.foldl_cons, inductionHypothesis, contains_insert]
    simp only [Bool.or_eq_true, beq_iff_eq, List.mem_cons, exists_eq_or_imp]
    grind

end NameSet

end ContextualQuery
