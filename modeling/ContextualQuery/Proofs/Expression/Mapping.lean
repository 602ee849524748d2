import ContextualQuery.Expression.Mapping
import ContextualQuery.Proofs.Expression.Searches

/-!
# Expressions and their JSON

Reading undoes writing: an expression whose boosts are finite is read back from its JSON. In the
other direction a JSON value may write an expression in several ways, by field or by position and
with parts left out, but at every level it is a nested expression or a search, never both: as an
object, each of the two requires a field that the other refuses; as an array, the value at the third
place is a truth value for the one and a text for the other. Numbers of JSON are finite, so what was
read can be written and read again without a change.
-/

namespace ContextualQuery

/-- The value is one that JSON texts write: its numbers are finite. -/
inductive Json.Proper : Json → Prop
  | null : Proper .null
  | bool (value : Bool) : Proper (.bool value)
  | number {value : Binary64} (finite : value.isFinite = true) : Proper (.number value)
  | string (value : String) : Proper (.string value)
  | array {items : List Json} (each : ∀ item ∈ items, Proper item) : Proper (.array items)
  | object {fields : List (String × Json)} (each : ∀ field ∈ fields, Proper field.2) :
      Proper (.object fields)

/-- The items of an array. -/
def Json.items : Json → List Json
  | .array items => items
  | _ => []

/-- The values directly within a value. -/
def Json.parts : Json → List Json
  | .array items => items
  | .object fields => fields.map Prod.snd
  | _ => []

/-- The items of a value are parts of it. -/
theorem Json.items_subset_parts (json : Json) : json.items ⊆ json.parts := by
  cases json <;> simp [Json.items, Json.parts]

/-- The parts of a value that JSON texts write are such values. -/
theorem Json.Proper.of_mem_parts {json part : Json} (proper : json.Proper)
    (member : part ∈ json.parts) : part.Proper := by
  cases proper with
  | array each => exact each part member
  | object each =>
    obtain ⟨field, isField, rfl⟩ := List.mem_map.mp member
    exact each field isField
  | _ => simp [Json.parts] at member

/-- The parts of a value are smaller than the value. -/
theorem Json.sizeOf_lt_of_mem_parts {json part : Json} (member : part ∈ json.parts) :
    sizeOf part < sizeOf json := by
  cases json with
  | array items =>
    have smaller : sizeOf part < sizeOf items := List.sizeOf_lt_of_mem member
    rw [Json.array.sizeOf_spec]
    omega
  | object fields =>
    obtain ⟨⟨name, value⟩, isField, rfl⟩ := List.mem_map.mp member
    have smaller := List.sizeOf_lt_of_mem isField
    rw [Prod.mk.sizeOf_spec] at smaller
    rw [Json.object.sizeOf_spec]
    dsimp only
    omega
  | _ => simp [Json.parts] at member

namespace Expression

/-- The nested expression that a JSON value writes. -/
def nestedOfJson? : Json → Option Expression
  | .object fields => readNestedFields? fields (fieldOperands? fields)
  | .array items => readNestedItems? items (itemOperands? items)
  | _ => none

/-- The search that a JSON value writes. -/
def searchOfJson? : Json → Option Expression
  | .object fields => readSearchFields? fields
  | .array items => readSearchItems? items
  | _ => none

/-- A JSON value is read as a nested expression, or else as a search. -/
theorem ofJson?_eq (json : Json) : ofJson? json = (nestedOfJson? json <|> searchOfJson? json) := by
  cases json <;> simp [ofJson?, nestedOfJson?, searchOfJson?]

/-- The JSON values at the place of the operands. -/
def operandItems : Json → List Json
  | .object fields => ((field? "operands" fields).map Json.items).getD []
  | .array items => (items[1]?.map Json.items).getD []
  | _ => []

/-- The levels of a JSON value: the value itself, and what stands for an operand at a level. -/
inductive Level (outer : Json) : Json → Prop
  | self : Level outer outer
  | operand {inner item : Json} (level : Level outer inner) (member : item ∈ operandItems inner) :
      Level outer item

/-! ### Writing and reading -/

/-- Expressions are read back where each of them is. -/
theorem ofJsonAll?_toJsonAll {operands : List Expression}
    (each : ∀ operand ∈ operands, ofJson? operand.toJson = some operand) :
    ofJsonAll? (toJsonAll operands) = some operands := by
  induction operands with
  | nil => rfl
  | cons head tail inductionHypothesis =>
    obtain ⟨first, others⟩ := List.forall_mem_cons.mp each
    simp [toJsonAll, ofJsonAll?, first, inductionHypothesis others]

/-- A search with a finite boost is read back from its JSON. -/
theorem ofJson?_searchToJson {parts : Search}
    (finite : ∀ boost, parts.boost? = some boost → boost.isFinite = true) :
    ofJson? (searchToJson parts) = some (.search parts) := by
  obtain ⟨index?, relation?, term, boost?, mustNot⟩ := parts
  have written : boost?.map Json.ofBinary64 = boost?.map Json.number := by
    cases boost? with
    | none => rfl
    | some boost => simp [Json.ofBinary64_finite (finite boost rfl)]
  rw [searchToJson, written]
  cases index? <;> cases relation? <;> cases boost? <;>
    simp [optionalField, ofJson?, readNestedFields?, readSearchFields?, hasOnly, field?,
      readSearch?, readNullable?, readString?, readNumber?, readOrElse?, readBool?]

/-- An expression is read back from its JSON if its boosts can be written. -/
theorem ofJson?_toJson {expression : Expression} (finite : expression.HasFiniteBoosts) :
    ofJson? expression.toJson = some expression := by
  induction expression with
  | nested operator operands mustNot each =>
    have operandsFinite := hasFiniteBoosts_nested_iff.mp finite
    have operandsRead := ofJsonAll?_toJsonAll fun operand member =>
      each operand member (operandsFinite operand member)
    simp [toJson, ofJson?, readNestedFields?, hasOnly, fieldOperands?, operandsOfJson?,
      operandsRead, readNested?, field?, readOperator?, Operator.ofName?_name, readOrElse?,
      readBool?]
  | search parts =>
    apply ofJson?_searchToJson
    intro boost isBoost
    exact finite parts (by simp [searches]) boost isBoost

/-! ### What is read -/

variable {json : Json} {fields : List (String × Json)} {expression : Expression}

/-- The value that is found for a name is a field under this name. -/
theorem mem_of_field? {name : String} {value : Json} (found : field? name fields = some value) :
    (name, value) ∈ fields := by
  induction fields with
  | nil => simp [field?] at found
  | cons field rest inductionHypothesis =>
    obtain ⟨other, first⟩ := field
    rw [field?] at found
    split at found
    case isTrue same =>
      obtain rfl : first = value := by simpa using found
      simp [same]
    case isFalse => exact List.mem_cons_of_mem _ (inductionHypothesis found)

/-- A field that is there is one of the only names. -/
theorem mem_of_hasOnly {names : List String} {name : String} {value : Json}
    (only : hasOnly names fields = true) (found : field? name fields = some value) :
    name ∈ names := by
  have allowed := List.all_eq_true.mp only (name, value) (mem_of_field? found)
  simpa using allowed

/-- Expressions are read one by one. -/
theorem ofJsonAll?_eq_some_iff {items : List Json} {operands : List Expression} :
    ofJsonAll? items = some operands ↔ items.map ofJson? = operands.map some := by
  induction items generalizing operands with
  | nil => cases operands <;> simp [ofJsonAll?]
  | cons item rest inductionHypothesis =>
    rw [ofJsonAll?]
    cases head : ofJson? item with
    | none => cases operands <;> simp [head]
    | some first =>
      cases operands with
      | nil => simp
      | cons operand others =>
        simp only [Option.map_eq_some_iff, List.map_cons, List.cons.injEq, head,
          Option.some.injEq, ← inductionHypothesis]
        constructor
        · rintro ⟨_, restRead, rfl, rfl⟩
          exact ⟨rfl, restRead⟩
        · rintro ⟨rfl, restRead⟩
          exact ⟨others, restRead, rfl, rfl⟩

/-- If the operands of a value are read, they are what its items are read as, one by one. -/
theorem operandsOfJson?_eq_some {operands : List Expression}
    (read : operandsOfJson? json = some operands) :
    json.items.map ofJson? = operands.map some := by
  cases json with
  | array items => exact ofJsonAll?_eq_some_iff.mp read
  | _ => simp [operandsOfJson?] at read

/-- The operands of an object are those in its field, and there are none without the field. -/
theorem fieldOperands?_eq (fields : List (String × Json)) :
    fieldOperands? fields = ((field? "operands" fields).map operandsOfJson?).getD (some []) := by
  induction fields with
  | nil => rfl
  | cons field rest inductionHypothesis =>
    obtain ⟨name, value⟩ := field
    rw [fieldOperands?, field?]
    by_cases same : name = "operands"
    · simp [same]
    · simp [same, inductionHypothesis]

/-- The operands of an array are those at its second place, and there are none if it is shorter. -/
theorem itemOperands?_eq (items : List Json) :
    itemOperands? items = (items[1]?.map operandsOfJson?).getD (some []) := by
  match items with
  | [] => rfl
  | [_] => rfl
  | _ :: _ :: _ => simp [itemOperands?]

/-- If a nested expression is read, its operands are those that were given and its flag was a truth
value or missing. -/
theorem readNested?_eq_some {operator? mustNot? : Option Json}
    {operands? : Option (List Expression)}
    (read : readNested? operator? operands? mustNot? = some expression) :
    ∃ operator operands mustNot, expression = .nested operator operands mustNot ∧
      operands? = some operands ∧ readOrElse? false readBool? mustNot? = some mustNot := by
  obtain ⟨operator, _, read⟩ := Option.bind_eq_some_iff.mp read
  obtain ⟨operands, operandsRead, read⟩ := Option.bind_eq_some_iff.mp read
  obtain ⟨mustNot, mustNotRead, read⟩ := Option.bind_eq_some_iff.mp read
  exact ⟨operator, operands, mustNot, (Option.some.inj read).symm, operandsRead, mustNotRead⟩

/-- If a search is read, its term was a text, and its relation and boost were what they have to be
or missing. -/
theorem readSearch?_eq_some {index? relation? term? boost? mustNot? : Option Json}
    (read : readSearch? index? relation? term? boost? mustNot? = some expression) :
    ∃ parts, expression = .search parts ∧
      readNullable? readString? relation? = some parts.relation? ∧
      term?.bind readString? = some parts.term ∧
      readNullable? readNumber? boost? = some parts.boost? := by
  obtain ⟨index, _, read⟩ := Option.bind_eq_some_iff.mp read
  obtain ⟨relation, relationRead, read⟩ := Option.bind_eq_some_iff.mp read
  obtain ⟨term, termRead, read⟩ := Option.bind_eq_some_iff.mp read
  obtain ⟨boost, boostRead, read⟩ := Option.bind_eq_some_iff.mp read
  obtain ⟨mustNot, _, read⟩ := Option.bind_eq_some_iff.mp read
  exact ⟨_, (Option.some.inj read).symm, relationRead, termRead, boostRead⟩

/-- A nested expression has what its operand places write as its operands. Fields and items are read alike
once the place of the operands is found, which may be empty. -/
theorem nestedOfJson?_eq_some (read : nestedOfJson? json = some expression) :
    ∃ operator operands mustNot, expression = .nested operator operands mustNot ∧
      (operandItems json).map ofJson? = operands.map some := by
  have placed : ∀ (place? : Option Json) (operands : List Expression),
      (place?.map operandsOfJson?).getD (some []) = some operands →
        ((place?.map Json.items).getD []).map ofJson? = operands.map some := by
    intro place? operands operandsRead
    cases place? with
    | none =>
      obtain rfl : [] = operands := by simpa using operandsRead
      rfl
    | some place => exact operandsOfJson?_eq_some operandsRead
  cases json with
  | object fields =>
    rw [nestedOfJson?, readNestedFields?, fieldOperands?_eq] at read
    split at read
    case isTrue =>
      obtain ⟨operator, operands, mustNot, same, operandsRead, _⟩ := readNested?_eq_some read
      exact ⟨operator, operands, mustNot, same, placed _ _ operandsRead⟩
    case isFalse => simp at read
  | array items =>
    rw [nestedOfJson?, readNestedItems?, itemOperands?_eq] at read
    split at read
    case isTrue =>
      obtain ⟨operator, operands, mustNot, same, operandsRead, _⟩ := readNested?_eq_some read
      exact ⟨operator, operands, mustNot, same, placed _ _ operandsRead⟩
    case isFalse => simp at read
  | _ => simp [nestedOfJson?] at read

/-- An object with a field that only searches have is no nested expression, and neither is an array
with a text in the place of the truth value. -/
theorem nestedOfJson?_eq_none (read : searchOfJson? json = some expression) :
    nestedOfJson? json = none := by
  cases json with
  | object fields =>
    rw [searchOfJson?, readSearchFields?] at read
    split at read
    case isTrue =>
      obtain ⟨parts, _, _, termRead, _⟩ := readSearch?_eq_some read
      obtain ⟨term, isTerm, _⟩ := Option.bind_eq_some_iff.mp termRead
      have foreign : hasOnly ["operator", "operands", "must_not"] fields ≠ true := by
        intro only
        exact absurd (mem_of_hasOnly only isTerm) (by decide)
      rw [nestedOfJson?, readNestedFields?, if_neg foreign]
    case isFalse => simp at read
  | array items =>
    rw [searchOfJson?, readSearchItems?] at read
    split at read
    case isTrue =>
      obtain ⟨parts, _, _, termRead, _⟩ := readSearch?_eq_some read
      obtain ⟨term, isTerm, isText⟩ := Option.bind_eq_some_iff.mp termRead
      have noFlag : readOrElse? false readBool? items[2]? = none := by
        rw [isTerm]
        cases term <;> simp [readString?, readOrElse?, readBool?] at isText ⊢
      rw [nestedOfJson?, Option.eq_none_iff_forall_ne_some]
      intro nested nestedRead
      rw [readNestedItems?] at nestedRead
      split at nestedRead
      case isTrue =>
        obtain ⟨_, _, mustNot, _, _, mustNotRead⟩ := readNested?_eq_some nestedRead
        rw [noFlag] at mustNotRead
        simp at mustNotRead
      case isFalse => simp at nestedRead
    case isFalse => simp at read
  | _ => simp [searchOfJson?] at read

/-- A search has nothing at the place of the operands: the field is foreign to it, and a relation is
no array. -/
theorem operandItems_eq_nil (read : searchOfJson? json = some expression) :
    operandItems json = [] := by
  cases json with
  | object fields =>
    rw [searchOfJson?, readSearchFields?] at read
    split at read
    case isTrue only =>
      have absent : field? "operands" fields = none := by
        rw [Option.eq_none_iff_forall_ne_some]
        intro value found
        exact absurd (mem_of_hasOnly only found) (by decide)
      simp [operandItems, absent]
    case isFalse => simp at read
  | array items =>
    rw [searchOfJson?, readSearchItems?] at read
    split at read
    case isTrue =>
      obtain ⟨parts, _, relationRead, _⟩ := readSearch?_eq_some read
      rw [operandItems]
      generalize items[1]? = place? at relationRead ⊢
      cases place? with
      | none => rfl
      | some place =>
        cases place <;> simp [readNullable?, readString?] at relationRead <;> rfl
    case isFalse => simp at read
  | _ => rfl

/-! ### Levels -/

/-- What is read is a nested expression or a search, and not both. -/
theorem variant_of_read (read : ofJson? json = some expression) :
    (nestedOfJson? json = some expression ∧ searchOfJson? json = none) ∨
      (nestedOfJson? json = none ∧ searchOfJson? json = some expression) := by
  rw [ofJson?_eq] at read
  cases searched : searchOfJson? json with
  | none =>
    left
    simpa [searched] using read
  | some search =>
    right
    have notNested := nestedOfJson?_eq_none searched
    simpa [notNested, searched] using read

/-- What stands for an operand in a value that is read is read itself. -/
theorem exists_read_operand (read : ofJson? json = some expression) {item : Json}
    (member : item ∈ operandItems json) :
    ∃ operand, ofJson? item = some operand := by
  rcases variant_of_read read with ⟨nested, _⟩ | ⟨_, searched⟩
  · obtain ⟨operator, operands, mustNot, _, operandsRead⟩ := nestedOfJson?_eq_some nested
    have answered : ofJson? item ∈ operands.map some := by
      rw [← operandsRead]
      exact List.mem_map_of_mem member
    obtain ⟨operand, _, itemRead⟩ := List.mem_map.mp answered
    exact ⟨operand, itemRead.symm⟩
  · rw [operandItems_eq_nil searched] at member
    simp at member

/-- Every level of a value that is read is read. -/
theorem exists_read_level (read : ofJson? json = some expression) {level : Json}
    (isLevel : Level json level) : ∃ inner, ofJson? level = some inner := by
  induction isLevel with
  | self => exact ⟨expression, read⟩
  | operand _ member inductionHypothesis =>
    obtain ⟨inner, innerRead⟩ := inductionHypothesis
    exact exists_read_operand innerRead member

/-! ### Reading and writing -/

/-- What stands for an operand is a part of a part. -/
theorem exists_place_of_mem_operandItems {item : Json} (member : item ∈ operandItems json) :
    ∃ place ∈ json.parts, item ∈ place.parts := by
  cases json with
  | object fields =>
    rw [operandItems] at member
    cases found : field? "operands" fields with
    | none => simp [found] at member
    | some place =>
      rw [found] at member
      exact ⟨place, List.mem_map_of_mem (mem_of_field? found), place.items_subset_parts member⟩
  | array items =>
    rw [operandItems] at member
    cases found : items[1]? with
    | none => simp [found] at member
    | some place =>
      rw [found] at member
      exact ⟨place, List.mem_of_getElem? found, place.items_subset_parts member⟩
  | _ => simp [operandItems] at member

/-- To show a property of all JSON values, it is enough to show it of a value whenever all that
stand for its operands have it. -/
theorem operandItems_induct {motive : Json → Prop}
    (step : ∀ json, (∀ item ∈ operandItems json, motive item) → motive json) (json : Json) :
    motive json := by
  apply step
  intro item member
  have smaller : sizeOf item < sizeOf json := by
    obtain ⟨place, isPlace, isItem⟩ := exists_place_of_mem_operandItems member
    exact Nat.lt_trans (Json.sizeOf_lt_of_mem_parts isItem) (Json.sizeOf_lt_of_mem_parts isPlace)
  exact operandItems_induct step item
termination_by sizeOf json

/-- A boost that is read is a number where it stands. -/
theorem finite_of_boost {place? : Option Json} {boost? : Option Binary64}
    (proper : ∀ place ∈ place?, place.Proper)
    (read : readNullable? readNumber? place? = some boost?) :
    ∀ boost, boost? = some boost → boost.isFinite = true := by
  rintro boost rfl
  cases place? with
  | none => simp [readNullable?] at read
  | some place =>
    cases proper place rfl with
    | @number value finite =>
      obtain rfl : value = boost := by simpa [readNullable?, readNumber?] using read
      exact finite
    | _ => simp [readNullable?, readNumber?] at read

/-- What is read as a search has a finite boost, as the numbers of JSON are finite. In both forms the
boost is a part of the value, and what is proper has proper parts. -/
theorem hasFiniteBoosts_of_search (proper : json.Proper)
    (read : searchOfJson? json = some expression) : expression.HasFiniteBoosts := by
  have single : ∀ parts : Search, (∀ boost, parts.boost? = some boost → boost.isFinite = true) →
      (Expression.search parts).HasFiniteBoosts := by
    intro parts finite other member
    obtain rfl : other = parts := by simpa [searches] using member
    exact finite
  cases json with
  | object fields =>
    rw [searchOfJson?, readSearchFields?] at read
    split at read
    case isTrue =>
      obtain ⟨parts, rfl, _, _, boostRead⟩ := readSearch?_eq_some read
      apply single
      apply finite_of_boost _ boostRead
      intro place found
      exact proper.of_mem_parts (List.mem_map_of_mem (mem_of_field? found))
    case isFalse => simp at read
  | array items =>
    rw [searchOfJson?, readSearchItems?] at read
    split at read
    case isTrue =>
      obtain ⟨parts, rfl, _, _, boostRead⟩ := readSearch?_eq_some read
      apply single
      apply finite_of_boost _ boostRead
      intro place found
      exact proper.of_mem_parts (List.mem_of_getElem? found)
    case isFalse => simp at read
  | _ => simp [searchOfJson?] at read

/-- The boosts of what a proper value writes are finite. -/
theorem hasFiniteBoosts_of_read (proper : json.Proper) (read : ofJson? json = some expression) :
    expression.HasFiniteBoosts := by
  induction json using operandItems_induct generalizing expression with
  | step json each =>
    rcases variant_of_read read with ⟨nested, _⟩ | ⟨_, searched⟩
    · obtain ⟨operator, operands, mustNot, rfl, operandsRead⟩ := nestedOfJson?_eq_some nested
      rw [hasFiniteBoosts_nested_iff]
      intro operand member
      have answered : some operand ∈ (operandItems json).map ofJson? := by
        rw [operandsRead]
        exact List.mem_map_of_mem member
      obtain ⟨item, isItem, itemRead⟩ := List.mem_map.mp answered
      obtain ⟨place, isPlace, within⟩ := exists_place_of_mem_operandItems isItem
      exact each item isItem ((proper.of_mem_parts isPlace).of_mem_parts within) itemRead
    · exact hasFiniteBoosts_of_search proper searched

/-- An expression with finite boosts is read back from its JSON. A JSON value that is read is, at every
level, read as a nested expression or as a search and not as both; and what it writes is read back from
the JSON of that expression.

Proof: the JSON of an expression is read variant by variant, and none of its levels is read as the other
variant. What a proper value writes has finite boosts, so the first part applies to it. -/
theorem mapping_roundTrip :
    (∀ expression : Expression, expression.HasFiniteBoosts →
      ofJson? expression.toJson = some expression) ∧
    (∀ (json : Json) (expression : Expression), ofJson? json = some expression →
      ∀ level, Level json level → ∃ inner, ofJson? level = some inner ∧
        ((nestedOfJson? level = some inner ∧ searchOfJson? level = none) ∨
          (nestedOfJson? level = none ∧ searchOfJson? level = some inner))) ∧
    (∀ (json : Json) (expression : Expression), json.Proper → ofJson? json = some expression →
      ofJson? expression.toJson = some expression) := by
  refine ⟨?writing, ?levels, ?rewriting⟩
  case writing =>
    intro expression finite
    exact ofJson?_toJson finite
  case levels =>
    intro json expression read level isLevel
    obtain ⟨inner, innerRead⟩ := exists_read_level read isLevel
    exact ⟨inner, innerRead, variant_of_read innerRead⟩
  case rewriting =>
    intro json expression proper read
    exact ofJson?_toJson (hasFiniteBoosts_of_read proper read)

/-- An array with its values by position, an operator written as an object, a missing flag, and a
search with the boost `1.5` one level down. The negated expression has a JSON value of its own. -/
theorem mapping_roundTrip_positional :
    ∃ boost json level expression,
      Binary64.read? "1.5" = some boost ∧
      level = Json.array [.null, .null, .string "dune", .number boost] ∧
      json = Json.array
        [.object [("OR", .null)],
          .array [level, .object [("must_not", .bool true), ("term", .string "x")]]] ∧
      expression = .nested .or
        [.search { term := "dune", boost? := some boost },
          .search { term := "x", mustNot := true }] false ∧
      json.Proper ∧ ofJson? json = some expression ∧
      ofJson? expression.toJson = some expression ∧
      Level json level ∧
      (∃ inner, ofJson? level = some inner ∧
        ((nestedOfJson? level = some inner ∧ searchOfJson? level = none) ∨
          (nestedOfJson? level = none ∧ searchOfJson? level = some inner))) ∧
      expression.negated.HasFiniteBoosts ∧
      ofJson? expression.negated.toJson = some expression.negated := by
  obtain ⟨writing, levels, rewriting⟩ := mapping_roundTrip
  have oneAndAHalf : Binary64.read? "1.5" = some (.finite false
      ⟨6755399441055744, -52, by decide, by decide, by decide, .inl (by decide)⟩) := by
    decide +kernel
  refine ⟨_, _, _, _, oneAndAHalf, rfl, rfl, rfl, ?proper, ?read, rewriting _ _ ?proper ?read,
    ?isLevel, levels _ _ ?read _ ?isLevel, ?finite, writing _ ?finite⟩
  case proper =>
    have level (magnitude : Binary64.Magnitude) : Json.Proper
        (.array [.null, .null, .string "dune", .number (.finite false magnitude)]) := by
      have boost : Json.Proper (.number (.finite false magnitude)) := .number rfl
      exact .array (by simpa [Json.Proper.null, Json.Proper.string] using boost)
    have search : Json.Proper (.object [("must_not", .bool true), ("term", .string "x")]) :=
      .object (by simp [Json.Proper.bool, Json.Proper.string])
    have operator : Json.Proper (.object [("OR", .null)]) := .object (by simp [Json.Proper.null])
    exact .array (by simpa using ⟨operator, .array (by simpa using ⟨level _, search⟩)⟩)
  case read => rfl
  case isLevel => exact .operand .self (by simp [operandItems, Json.items])
  case finite =>
    simp [HasFiniteBoosts, negated, setMustNot, searches, searchesAll, Binary64.isFinite]

end Expression

end ContextualQuery
