import ContextualQuery.Toml.Reader

/-!
# What readers read

Each way to combine readers gives a rule: from what the parts read at the front of a text it follows what
the whole reads there. A reader that repeats an item stops where the item is refused first. How often
it repeats the item is bounded by the length of the text, which is enough, since every item that was
read leaves a shorter text.
-/

namespace ContextualQuery.Toml.Reader

variable {α β : Type} {chars front rest last : List Char} {c : Char}

/-! ### Sequences and alternatives -/

/-- Behind what the first reader read, the next one goes on. -/
theorem bind_of_read {first : Reader α} {next : α → Reader β} {value : α}
    (read : first chars = some (value, rest)) : (first >>= next) chars = next value rest := by
  change (first chars).bind (fun found => next found.1 found.2) = _
  rw [read]
  rfl

/-- A sequence is refused where its first part is. -/
theorem bind_of_refused {first : Reader α} {next : α → Reader β} (refused : first chars = none) :
    (first >>= next) chars = none := by
  change (first chars).bind (fun found => next found.1 found.2) = _
  rw [refused]
  rfl

/-- The first of two readers that does not refuse the text counts. -/
theorem orElse_of_read {first second : Reader α} {value : α}
    (read : first chars = some (value, rest)) :
    (first <|> second) chars = some (value, rest) := by
  change (first chars).orElse (fun _ => second chars) = _
  rw [read]
  rfl

/-- An alternative is tried where the first one is refused. -/
theorem orElse_of_refused {first second : Reader α} (refused : first chars = none) :
    (first <|> second) chars = second chars := by
  change (first chars).orElse (fun _ => second chars) = _
  rw [refused]
  rfl

/-- What can be left out is read where it can be read. -/
theorem optional_of_read {item : Reader α} {value : α} (read : item chars = some (value, rest)) :
    optional item chars = some (some value, rest) := by
  rw [optional, read]

/-- What can be left out is left out where it cannot be read. -/
theorem optional_of_refused {item : Reader α} (refused : item chars = none) :
    optional item chars = some (none, chars) := by
  rw [optional, refused]

/-! ### Characters -/

/-- A character with the property is read. -/
theorem one_of_accepted {accepts : Char → Bool} (accepted : accepts c = true) (rest : List Char) :
    one accepts (c :: rest) = some (c, rest) := by
  rw [one, if_pos accepted]

/-- A character without the property is refused, and so is the end. -/
theorem one_of_refused {accepts : Char → Bool} (refused : ∀ c ∈ chars.head?, accepts c = false) :
    one accepts chars = none := by
  cases chars with
  | nil => rfl
  | cons head tail => rw [one, refused head rfl, if_neg Bool.false_ne_true]

/-- The given character is read where it stands. -/
theorem char_cons (c : Char) (rest : List Char) : char c (c :: rest) = some ((), rest) := by
  rw [char, one, if_pos (beq_self_eq_true c)]
  rfl

/-- A reader of one character refuses a text that starts with another. -/
theorem char_of_other (other : chars.head? ≠ some c) : char c chars = none := by
  rw [char, one_of_refused]
  · rfl
  · intro head isHead
    exact beq_false_of_ne fun same => other (same ▸ isHead)

/-- The given characters are read where they stand. -/
theorem exactly_append (expected rest : List Char) :
    exactly expected (expected ++ rest) = some ((), rest) := by
  have isFront : expected.isPrefixOf (expected ++ rest) = true :=
    List.isPrefixOf_iff_prefix.mpr (List.prefix_append expected rest)
  rw [exactly, if_pos isFront, List.drop_left]

/-- Given characters are refused where the text starts with others. -/
theorem exactly_of_other {expected : List Char} (differs : ¬ expected <+: chars) :
    exactly expected chars = none := by
  rw [exactly, if_neg]
  exact fun isFront => differs (List.isPrefixOf_iff_prefix.mp isFront)

/-- A run of characters with a property is read up to the first character without it. -/
theorem takeWhile_append {accepts : Char → Bool} (run : ∀ c ∈ front, accepts c = true)
    (stop : ∀ c ∈ rest.head?, accepts c = false) :
    takeWhile accepts (front ++ rest) = some (front, rest) := by
  have behind : rest.takeWhile accepts = [] ∧ rest.dropWhile accepts = rest := by
    cases rest with
    | nil => exact ⟨rfl, rfl⟩
    | cons head tail => simp [stop head rfl]
  rw [takeWhile, List.takeWhile_append_of_pos run, List.dropWhile_append_of_pos run, behind.1,
    behind.2, List.append_nil]

/-! ### Repetitions -/

/-- An item can be read some times at the front of a text, and then no more. -/
inductive Repeats (item : Reader α) : List Char → List α → List Char → Prop
  | stop {chars : List Char} (refused : item chars = none) : Repeats item chars [] chars
  | step {chars rest last : List Char} {value : α} {values : List α}
      (read : item chars = some (value, rest)) (shorter : rest.length < chars.length)
      (others : Repeats item rest values last) : Repeats item chars (value :: values) last

/-- An item that is written as a word is read before the others. -/
theorem Repeats.append {item : Reader α} {word : List Char} {value : α} {values : List α}
    (nonempty : word ≠ []) (read : item (word ++ rest) = some (value, rest))
    (others : Repeats item rest values last) :
    Repeats item (word ++ rest) (value :: values) last := by
  refine .step read ?_ others
  have positive := List.length_pos_iff.mpr nonempty
  rw [List.length_append]
  omega

/-- All items are read, if as many are allowed as there are characters. -/
theorem Repeats.manyUpTo {item : Reader α} {values : List α}
    (repeats : Repeats item chars values last) {count : Nat} (enough : chars.length ≤ count) :
    manyUpTo item count chars = some (values, last) := by
  induction repeats generalizing count with
  | stop refused =>
    cases count with
    | zero => rfl
    | succ count => rw [Reader.manyUpTo, refused]
  | step read shorter others inductionHypothesis =>
    cases count with
    | zero => omega
    | succ count =>
      rw [Reader.manyUpTo, read]
      dsimp only
      rw [inductionHypothesis (by omega)]
      rfl

/-- What repeats is read by `many` up to where it stops. -/
theorem Repeats.many {item : Reader α} {values : List α}
    (repeats : Repeats item chars values last) : many item chars = some (values, last) :=
  repeats.manyUpTo (Nat.le_refl _)

/-- Items with separators are read up to where no separator with an item follows. -/
theorem separated_of_read {separator : Reader Unit} {item : Reader α} {value : α}
    {values : List α} (first : item chars = some (value, rest))
    (others : Repeats (do separator; item) rest values last) :
    separated separator item chars = some (value :: values, last) := by
  rw [separated, bind_of_read first, bind_of_read others.many]
  rfl

/-- A separated list is refused where its first item is. -/
theorem separated_of_refused {separator : Reader Unit} {item : Reader α}
    (refused : item chars = none) : separated separator item chars = none := by
  rw [separated, bind_of_refused refused]

end ContextualQuery.Toml.Reader
