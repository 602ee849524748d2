import ContextualQuery.Expression.Normal

/-!
# Values of expressions

Under an assignment of truth values to searches, every expression has a truth value: an operator
over the values of its operands, flipped where the expression is negated. Joining two sides under
an operator gives the value that the operator gives to their values. The operands of a side may
only take its place where the side is not negated and has the same operator; otherwise the side
itself is an operand.
-/

namespace ContextualQuery

namespace Operator

/-- The operator between two values. -/
def both : Operator → Bool → Bool → Bool
  | and, left, right => left && right
  | or, left, right => left || right

/-- The operator over any number of values. -/
def holds : Operator → List Bool → Bool
  | and, values => values.all id
  | or, values => values.any id

/-- An operator holds of a list exactly as it holds of its two parts together. -/
theorem holds_append (operator : Operator) (left right : List Bool) :
    operator.holds (left ++ right) =
      operator.both (operator.holds left) (operator.holds right) := by
  cases operator <;> simp [holds, both]

/-- With one operand, an operator holds exactly if the operand does. -/
@[simp] theorem holds_singleton (operator : Operator) (value : Bool) :
    operator.holds [value] = value := by
  cases operator <;> simp [holds]

end Operator

/-- What a search asks for, apart from being negated. -/
structure Leaf where
  index? : Option String := none
  relation? : Option String := none
  term : String
  boost? : Option Binary64 := none

/-- What the search asks for. -/
def Search.leaf (parts : Search) : Leaf :=
  { index? := parts.index?
    relation? := parts.relation?
    term := parts.term
    boost? := parts.boost? }

namespace Expression

variable (assignment : Leaf → Bool)

mutual

/-- The value of an expression under an assignment. -/
def value : Expression → Bool
  | .nested operator operands mustNot => (operator.holds (values operands)).xor mustNot
  | .search parts => (assignment parts.leaf).xor parts.mustNot

/-- The values of operands. -/
def values : List Expression → List Bool
  | [] => []
  | head :: tail => value head :: values tail

end

/-- The values of some operands are those of each of them. -/
theorem values_eq_map (operands : List Expression) :
    values assignment operands = operands.map (value assignment) := by
  induction operands with
  | nil => rfl
  | cons head tail inductionHypothesis => simp [values, inductionHypothesis]

/-- The values of two lists stand one behind the other. -/
theorem values_append (left right : List Expression) :
    values assignment (left ++ right) = values assignment left ++ values assignment right := by
  simp [values_eq_map]

/-- Negating an expression that is not negated flips its value. -/
theorem value_negated {expression : Expression} (plain : expression.mustNot = false) :
    expression.negated.value assignment = !expression.value assignment := by
  cases expression with
  | nested operator operands mustNot =>
    obtain rfl : mustNot = false := plain
    simp [negated, setMustNot, value]
  | search parts =>
    have plainParts : parts.mustNot = false := plain
    simp [negated, setMustNot, value, plainParts, Search.leaf]

/-- The operands that a side brings under an operator have its value there. -/
theorem holds_operandsUnder (operator : Operator) (expression : Expression) :
    operator.holds (values assignment (expression.operandsUnder operator)) =
      expression.value assignment := by
  cases expression with
  | nested inner operands mustNot =>
    rw [operandsUnder]
    split
    case isTrue same =>
      obtain ⟨rfl, rfl⟩ := same
      simp [value]
    case isFalse => simp [values]
  | search parts => simp [operandsUnder, values]

/-- Joining two sides puts the operator between their values. -/
theorem value_joined (operator : Operator) (left right : Expression) :
    (joined operator left right).value assignment =
      operator.both (left.value assignment) (right.value assignment) := by
  rw [joined, value, values_append, Operator.holds_append, holds_operandsUnder, holds_operandsUnder,
    Bool.xor_false]

end Expression

end ContextualQuery
