import ContextualQuery.Expression.Basic
import ContextualQuery.Token

/-!
# Printed expressions

An expression is printed on one line with its operands in brackets, or as a tree with every operand on
a line of its own, four spaces deeper. A negated expression starts with an exclamation mark.
-/

namespace ContextualQuery

/-- The index, relation and term of a search between spaces, without the empty ones. The term is
quoted where it needs it. -/
def Search.label (parts : Search) : String :=
  let written := [parts.index?.getD "", parts.relation?.getD "", Token.quoteTerm parts.term]
  " ".intercalate (written.filter (· ≠ ""))

namespace Expression

/-- The mark of a negated expression. -/
def mark (mustNot : Bool) : String := if mustNot then "!" else ""

mutual

/-- An expression on one line. -/
def compact : Expression → String
  | .nested operator operands mustNot =>
    mark mustNot ++ operator.name ++ "[" ++ ", ".intercalate (compactAll operands) ++ "]"
  | .search parts => mark parts.mustNot ++ parts.label

/-- Expressions, each on one line. -/
def compactAll : List Expression → List String
  | [] => []
  | head :: tail => compact head :: compactAll tail

end

/-- The start of a line at a depth: four spaces for each level. -/
def lineStart (depth : Nat) : String := "\n" ++ String.ofList (List.replicate (4 * depth) ' ')

mutual

/-- An expression as a tree whose first line stands at a depth. -/
def prettyAt (depth : Nat) : Expression → String
  | .nested operator operands mustNot =>
    mark mustNot ++ operator.name ++ prettyOperands (depth + 1) operands
  | .search parts => mark parts.mustNot ++ parts.label

/-- Operands as trees, each on new lines at a depth. -/
def prettyOperands (depth : Nat) : List Expression → String
  | [] => ""
  | head :: tail => lineStart depth ++ prettyAt depth head ++ prettyOperands depth tail

end

/-- An expression as a tree. -/
def pretty (expression : Expression) : String := expression.prettyAt 0

/-- The compact forms of some operands are those of each of them. -/
theorem compactAll_eq_map (operands : List Expression) :
    compactAll operands = operands.map compact := by
  induction operands with
  | nil => rfl
  | cons head tail inductionHypothesis => simp [compactAll, inductionHypothesis]

end Expression

end ContextualQuery
