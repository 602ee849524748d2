import Mathlib.Data.List.Basic

/-!
# Patterns

A pattern is put together from single characters by sequence, choice and repetition. A backtracking
search goes through the ways in which a pattern begins a text: of two alternatives the first is tried
first, and a repetition goes on for as long as it can before it gives up its last item. The search
finds the first way, and the others are what it falls back to when the rest of a larger pattern fails.
So the list of all ways in this order says what is matched.
-/

namespace ContextualQuery.Text

/-- A pattern for the beginning of a text. -/
inductive Pattern where
  | empty
  | one (accepts : Char → Bool)
  | sequence (first second : Pattern)
  | choice (preferred other : Pattern)
  | many (item : Pattern)

namespace Pattern

/-- A way to begin a text: the characters that are read, and the rest behind them. -/
abbrev Way := List Char × List Char

/-- The way with more characters in front of what it reads. -/
def Way.behind (word : List Char) (way : Way) : Way := (word ++ way.1, way.2)

/-- Reads on behind each of the ways. -/
def andThen (ways : List Way) (next : List Char → List Way) : List Way :=
  ways.flatMap fun way => (next way.2).map (Way.behind way.1)

/-- The ways to read an item any number of times, the larger numbers first. An item that reads nothing
is not repeated. -/
def repeated (item : List Char → List Way) (chars : List Char) : List Way :=
  (item chars).flatMap (fun way =>
    if way.2.length < chars.length then (repeated item way.2).map (Way.behind way.1) else []) ++
    [([], chars)]
termination_by chars.length

/-- The ways in which a pattern begins a text, in the order in which they are tried. -/
def ways : Pattern → List Char → List Way
  | empty, chars => [([], chars)]
  | one _, [] => []
  | one accepts, c :: rest => if accepts c then [([c], rest)] else []
  | sequence first second, chars => andThen (first.ways chars) second.ways
  | choice preferred other, chars => preferred.ways chars ++ other.ways chars
  | many item, chars => repeated item.ways chars

/-- What is matched at the front of a text. -/
def first? (pattern : Pattern) (chars : List Char) : Option Way := (pattern.ways chars).head?

/-- The item once or several times. -/
def atLeastOnce (item : Pattern) : Pattern := sequence item (many item)

/-- Exactly these characters. -/
def literal : List Char → Pattern
  | [] => empty
  | c :: rest => sequence (one (· == c)) (literal rest)

/-- One of the patterns, the earlier ones preferred. -/
def anyOf : List Pattern → Pattern
  | [] => one fun _ => false
  | pattern :: others => choice pattern (anyOf others)

section Ways

variable {chars rest : List Char} {c : Char} {item first second third last : Pattern}
  {accepts : Char → Bool}

/-- Nothing in front changes no way. -/
@[simp] theorem behind_nil : Way.behind [] = id := rfl

/-- What is put in front twice is put in front together. -/
@[simp] theorem behind_behind (front word : List Char) (way : Way) :
    (way.behind word).behind front = way.behind (front ++ word) := by
  simp [Way.behind]

/-- What is put in front twice is put in front together, as a map on ways. -/
@[simp] theorem behind_comp_behind (front word : List Char) :
    Way.behind front ∘ Way.behind word = Way.behind (front ++ word) :=
  funext (behind_behind front word)

/-- Without a way nothing is read on. -/
@[simp] theorem andThen_nil (next : List Char → List Way) : andThen [] next = [] := rfl

/-- Behind a single way everything is read on with its characters in front. -/
@[simp] theorem andThen_singleton (way : Way) (next : List Char → List Way) :
    andThen [way] next = (next way.2).map (Way.behind way.1) := by
  simp [andThen]

/-- Reading on behind more ways gives more ways, in the same order. -/
theorem andThen_append (ways others : List Way) (next : List Char → List Way) :
    andThen (ways ++ others) next = andThen ways next ++ andThen others next := by
  simp [andThen]

/-- What is read in front of all ways stays in front. -/
theorem andThen_map (word : List Char) (ways : List Way) (next : List Char → List Way) :
    andThen (ways.map (Way.behind word)) next = (andThen ways next).map (Way.behind word) := by
  simp [andThen, List.flatMap_map, List.map_flatMap, Way.behind]

/-- Reading on twice is reading on once with both. -/
theorem andThen_assoc (ways : List Way) (next later : List Char → List Way) :
    andThen (andThen ways next) later = andThen ways fun rest => andThen (next rest) later := by
  induction ways with
  | nil => rfl
  | cons way others inductionHypothesis =>
    rw [← List.singleton_append, andThen_append, andThen_append, andThen_append,
      inductionHypothesis, andThen_singleton, andThen_singleton, andThen_map]

/-- At the end no character is read. -/
@[simp] theorem ways_one_nil : (one accepts).ways [] = [] := rfl

/-- A character is read if it is accepted, and in one way. -/
@[simp] theorem ways_one_cons :
    (one accepts).ways (c :: rest) = if accepts c then [([c], rest)] else [] := rfl

/-- A sequence reads its second part behind each way of its first. -/
theorem ways_sequence : (sequence first second).ways chars =
    andThen (first.ways chars) second.ways := rfl

/-- A choice has the ways of the preferred alternative, and then those of the other. -/
theorem ways_choice (preferred other : Pattern) : (choice preferred other).ways chars =
    preferred.ways chars ++ other.ways chars := rfl

/-- Sequences are read from left to right, however they are grouped. -/
theorem ways_sequence_assoc : (sequence (sequence first second) third).ways chars =
    (sequence first (sequence second third)).ways chars :=
  andThen_assoc _ _ _

/-- Every way divides the text. By induction on the pattern, and on the length of the text within a
repetition. -/
theorem append_of_mem_ways {pattern : Pattern} {way : Way} (member : way ∈ pattern.ways chars) :
    way.1 ++ way.2 = chars := by
  induction pattern generalizing chars way with
  | empty => simp_all [ways]
  | one accepts =>
    cases chars with
    | nil => simp at member
    | cons c rest => simp_all
  | sequence first second firstHypothesis secondHypothesis =>
    simp only [ways_sequence, andThen, List.mem_flatMap, List.mem_map] at member
    obtain ⟨front, frontMember, back, backMember, rfl⟩ := member
    rw [← firstHypothesis frontMember, ← secondHypothesis backMember]
    simp [Way.behind]
  | choice preferred other preferredHypothesis otherHypothesis =>
    rw [ways_choice, List.mem_append] at member
    exact member.elim preferredHypothesis otherHypothesis
  | many item itemHypothesis =>
    -- Each further item leaves a shorter text.
    induction size : chars.length using Nat.strongRecOn generalizing chars way with
    | ind size shorterHypothesis =>
      rw [ways, repeated, List.mem_append, List.mem_flatMap, List.mem_singleton] at member
      rcases member with ⟨front, frontMember, member⟩ | rfl
      · obtain ⟨shorter, inner⟩ : front.2.length < chars.length ∧
            way ∈ (repeated item.ways front.2).map (Way.behind front.1) := by
          split at member
          case isTrue shorter => exact ⟨shorter, member⟩
          case isFalse => simp at member
        obtain ⟨back, backMember, rfl⟩ := List.mem_map.mp inner
        have backSplit := shorterHypothesis _ (size ▸ shorter) backMember rfl
        rw [← itemHypothesis frontMember, ← backSplit]
        simp [Way.behind]
      · rfl

/-- A repetition reads an item and goes on, or stops. -/
theorem ways_many (solid : ∀ way ∈ item.ways chars, way.1 ≠ []) :
    (many item).ways chars = andThen (item.ways chars) (many item).ways ++ [([], chars)] := by
  rw [ways, repeated, andThen]
  congr 1
  refine (List.flatMap_congr fun way member => if_pos ?_)
  rw [← append_of_mem_ways member, List.length_append]
  have positive := List.length_pos_iff.mpr (solid way member)
  omega

/-- What follows a repetition stands behind a further item, or here. -/
theorem ways_sequence_many (solid : ∀ way ∈ item.ways chars, way.1 ≠ []) :
    (sequence (many item) last).ways chars =
      andThen (item.ways chars) (sequence (many item) last).ways ++ last.ways chars := by
  rw [ways_sequence, ways_many solid, andThen_append, andThen_assoc, andThen_singleton]
  simp only [behind_nil, List.map_id]
  rfl

/-- The other alternative is matched where the preferred one has no way. -/
theorem first?_choice (preferred other : Pattern) (chars : List Char) :
    (choice preferred other).first? chars = (preferred.first? chars).or (other.first? chars) :=
  List.head?_append

/-- A single character is something. -/
theorem one_solid (accepts : Char → Bool) (chars : List Char) :
    ∀ way ∈ (one accepts).ways chars, way.1 ≠ [] := by
  cases chars <;> simp_all

/-! ### Runs of characters -/

/-- A repetition of characters first takes the whole run. -/
theorem first?_many_one (accepts : Char → Bool) (chars : List Char) :
    (many (one accepts)).first? chars =
      some (chars.takeWhile accepts, chars.dropWhile accepts) := by
  induction chars with
  | nil => rw [first?, ways_many (one_solid accepts [])]; rfl
  | cons c rest inductionHypothesis =>
    rw [first?, ways_many (one_solid accepts _)]
    by_cases accepted : accepts c = true
    · rw [first?] at inductionHypothesis
      simp [accepted, inductionHypothesis, Way.behind]
    · simp [accepted]

/-- One character and the run behind it. -/
theorem first?_atLeastOnce_one (accepts : Char → Bool) (c : Char) (rest : List Char) :
    (atLeastOnce (one accepts)).first? (c :: rest) =
      if accepts c then some (c :: rest.takeWhile accepts, rest.dropWhile accepts) else none := by
  have run := first?_many_one accepts rest
  rw [first?] at run
  rw [first?, atLeastOnce, ways_sequence, ways_one_cons]
  split <;> simp [run, Way.behind]

/-- Where nothing that follows starts with a character of a run, no character of the run is given up:
the only ways are those behind the whole run. -/
theorem ways_run (refused : ∀ c rest, accepts c = true → last.ways (c :: rest) = [])
    (chars : List Char) :
    (sequence (many (one accepts)) last).ways chars =
      (last.ways (chars.dropWhile accepts)).map (Way.behind (chars.takeWhile accepts)) := by
  induction chars with
  | nil => simp [ways_sequence_many (one_solid accepts [])]
  | cons c rest inductionHypothesis =>
    rw [ways_sequence_many (one_solid accepts _)]
    by_cases accepted : accepts c = true
    · simp [accepted, refused c rest accepted, inductionHypothesis, Function.comp_def]
    · simp [accepted]

/-! ### Literals -/

/-- A literal has one way where the text begins with it, and none elsewhere. -/
theorem ways_literal (word chars : List Char) :
    (literal word).ways chars =
      if word.isPrefixOf chars then [(word, chars.drop word.length)] else [] := by
  induction word generalizing chars with
  | nil => simp [literal, ways]
  | cons d word inductionHypothesis =>
    cases chars with
    | nil => simp [literal, ways_sequence]
    | cons c rest =>
      rw [literal, ways_sequence, ways_one_cons]
      by_cases same : c = d
      · subst same
        by_cases begins : word.isPrefixOf rest = true <;>
          simp_all [Way.behind, List.isPrefixOf]
      · have differs : (d == c) = false := by simpa using Ne.symm same
        simp [same, differs, List.isPrefixOf]

/-- Of several literals the first one that begins the text is matched. -/
theorem first?_anyOf_literal (words : List (List Char)) (chars : List Char) :
    (anyOf (words.map literal)).first? chars =
      (words.find? (·.isPrefixOf chars)).map fun word => (word, chars.drop word.length) := by
  induction words with
  | nil => cases chars <;> rfl
  | cons word others inductionHypothesis =>
    rw [first?] at inductionHypothesis
    rw [List.map_cons, anyOf, first?, ways_choice, List.head?_append, ways_literal,
      inductionHypothesis, List.find?_cons]
    cases word.isPrefixOf chars <;> simp

end Ways

end Pattern

end ContextualQuery.Text
