import ContextualQuery.Expression.Basic
import ContextualQuery.Json.Basic

/-!
# Expressions as JSON

An expression is written as a JSON object: an operator with its operands, or a term with the other
parts of its search, leaving out absent parts. Reading accepts an object with fields in any order, and
an array with the same values by position. Optional fields may be missing, and values at the end of an
array too; an unknown field, a value too many or a value of the wrong type is refused.
-/

namespace ContextualQuery.Expression

/-- The report on a value that is no expression. -/
def mappingError : String := "data did not match any variant of untagged enum QueryExpression"

/-- An optional part as a field, left out when it is absent. -/
def optionalField (name : String) : Option Json → List (String × Json)
  | none => []
  | some value => [(name, value)]

/-- The parts of a search as an object, with the fields in alphabetical order. -/
def searchToJson (parts : Search) : Json :=
  .object (optionalField "boost" (parts.boost?.map Json.ofBinary64) ++
    optionalField "index" (parts.index?.map Json.string) ++
    [("must_not", .bool parts.mustNot)] ++
    optionalField "relation" (parts.relation?.map Json.string) ++
    [("term", .string parts.term)])

mutual

/-- An expression as JSON. -/
def toJson : Expression → Json
  | .nested operator operands mustNot =>
    .object [("must_not", .bool mustNot), ("operands", .array (toJsonAll operands)),
      ("operator", .string operator.name)]
  | .search parts => searchToJson parts

/-- Expressions as JSON. -/
def toJsonAll : List Expression → List Json
  | [] => []
  | head :: tail => toJson head :: toJsonAll tail

end

/-- The JSON of some operands is the JSON of each of them. -/
theorem toJsonAll_eq_map (operands : List Expression) : toJsonAll operands = operands.map toJson := by
  induction operands with
  | nil => rfl
  | cons head tail inductionHypothesis => simp [toJsonAll, inductionHypothesis]

/-! ### Reading -/

/-- The value of a field. -/
def field? (name : String) : List (String × Json) → Option Json
  | [] => none
  | (other, value) :: rest => if other = name then some value else field? name rest

/-- Every field has one of the given names. -/
def hasOnly (names : List String) (fields : List (String × Json)) : Bool :=
  fields.all fun (name, _) => names.contains name

/-- A text. -/
def readString? : Json → Option String
  | .string value => some value
  | _ => none

/-- A truth value. -/
def readBool? : Json → Option Bool
  | .bool value => some value
  | _ => none

/-- A number. -/
def readNumber? : Json → Option Binary64
  | .number value => some value
  | _ => none

/-- A value that may be absent, or `null` where it stands. -/
def readNullable? {α : Type} (read? : Json → Option α) : Option Json → Option (Option α)
  | none => some none
  | some .null => some none
  | some value => (read? value).map some

/-- A value that may be absent. -/
def readOrElse? {α : Type} (default : α) (read? : Json → Option α) : Option Json → Option α
  | none => some default
  | some value => read? value

/-- An operator: its name, or an object with its name and `null`. -/
def readOperator? : Json → Option Operator
  | .string name => Operator.ofName? name
  | .object [(name, .null)] => Operator.ofName? name
  | _ => none

/-- A search from its parts. -/
def readSearch? (index? relation? term? boost? mustNot? : Option Json) : Option Expression := do
  let index? ← readNullable? readString? index?
  let relation? ← readNullable? readString? relation?
  let term ← term?.bind readString?
  let boost? ← readNullable? readNumber? boost?
  let mustNot ← readOrElse? false readBool? mustNot?
  return .search { index?, relation?, term, boost?, mustNot }

/-- A nested expression from its parts, the operands being read already. -/
def readNested? (operator? : Option Json) (operands? : Option (List Expression))
    (mustNot? : Option Json) : Option Expression := do
  let operator ← operator?.bind readOperator?
  let operands ← operands?
  let mustNot ← readOrElse? false readBool? mustNot?
  return .nested operator operands mustNot

/-- The fields of a search. -/
def readSearchFields? (fields : List (String × Json)) : Option Expression :=
  if hasOnly ["index", "relation", "term", "boost", "must_not"] fields then
    readSearch? (field? "index" fields) (field? "relation" fields) (field? "term" fields)
      (field? "boost" fields) (field? "must_not" fields)
  else none

/-- The values of a search by position. -/
def readSearchItems? (items : List Json) : Option Expression :=
  if items.length ≤ 5 then readSearch? items[0]? items[1]? items[2]? items[3]? items[4]? else none

/-- The fields of a nested expression, the operands being read already. -/
def readNestedFields? (fields : List (String × Json)) (operands? : Option (List Expression)) :
    Option Expression :=
  if hasOnly ["operator", "operands", "must_not"] fields then
    readNested? (field? "operator" fields) operands? (field? "must_not" fields)
  else none

/-- The values of a nested expression by position, the operands being read already. -/
def readNestedItems? (items : List Json) (operands? : Option (List Expression)) :
    Option Expression :=
  if items.length ≤ 3 then readNested? items[0]? operands? items[2]? else none

mutual

/-- The expression that a JSON value writes: a nested expression, or else a search. -/
def ofJson? : Json → Option Expression
  | .object fields => readNestedFields? fields (fieldOperands? fields) <|> readSearchFields? fields
  | .array items => readNestedItems? items (itemOperands? items) <|> readSearchItems? items
  | _ => none

/-- The expressions that the items of an array write. -/
def operandsOfJson? : Json → Option (List Expression)
  | .array items => ofJsonAll? items
  | _ => none

/-- The expressions that JSON values write. -/
def ofJsonAll? : List Json → Option (List Expression)
  | [] => some []
  | head :: tail =>
    match ofJson? head with
    | none => none
    | some head => (ofJsonAll? tail).map (head :: ·)

/-- The operands among the fields of an object, none when the field is absent. -/
def fieldOperands? : List (String × Json) → Option (List Expression)
  | [] => some []
  | (name, value) :: rest => if name = "operands" then operandsOfJson? value else fieldOperands? rest

/-- The operands at the second place of an array, none when it is absent. -/
def itemOperands? : List Json → Option (List Expression)
  | _ :: value :: _ => operandsOfJson? value
  | _ => some []

end

end ContextualQuery.Expression
