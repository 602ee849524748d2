import ContextualQuery.Expression.Normal

/-!
# The searches of an expression

The searches at the leaves of an expression, from the left. Joining two sides puts those of the
right side behind those of the left one, whether the operands of a side are merged or not; a flag
reaches a search only where it is the expression itself.
-/

namespace ContextualQuery

namespace Expression

mutual

/-- The searches of an expression, from the left. -/
def searches : Expression → List Search
  | .nested _ operands _ => searchesAll operands
  | .search parts => [parts]

/-- The searches of expressions, from the left. -/
def searchesAll : List Expression → List Search
  | [] => []
  | head :: tail => searches head ++ searchesAll tail

end

/-- The searches of some operands are those of each of them. -/
theorem searchesAll_eq_flatMap (operands : List Expression) :
    searchesAll operands = operands.flatMap searches := by
  induction operands with
  | nil => rfl
  | cons head tail inductionHypothesis => simp [searchesAll, inductionHypothesis]

/-- Every boost of the expression is a finite number. -/
def HasFiniteBoosts (expression : Expression) : Prop :=
  ∀ parts ∈ expression.searches, ∀ boost, parts.boost? = some boost → boost.isFinite = true

/-- The boosts of a nested expression are those of its operands. -/
theorem hasFiniteBoosts_nested_iff {operator : Operator} {operands : List Expression}
    {mustNot : Bool} :
    (Expression.nested operator operands mustNot).HasFiniteBoosts ↔
      ∀ operand ∈ operands, operand.HasFiniteBoosts := by
  simp only [HasFiniteBoosts, searches, searchesAll_eq_flatMap, List.mem_flatMap]
  constructor
  · intro finite operand member parts isSearch
    exact finite parts ⟨operand, member, isSearch⟩
  · rintro finite parts ⟨operand, member, isSearch⟩
    exact finite operand member parts isSearch

/-- Merged or not, a side brings its searches. -/
theorem searchesAll_operandsUnder (operator : Operator) (expression : Expression) :
    searchesAll (expression.operandsUnder operator) = expression.searches := by
  cases expression with
  | search parts => simp [operandsUnder, searchesAll]
  | nested inner operands mustNot =>
    by_cases same : inner = operator ∧ mustNot = false
    · simp [operandsUnder, same, searches]
    · simp [operandsUnder, same, searchesAll]

/-- Joining two expressions keeps their searches, in their order. -/
theorem searches_joined (operator : Operator) (left right : Expression) :
    (joined operator left right).searches = left.searches ++ right.searches := by
  rw [joined, searches, searchesAll_eq_flatMap, List.flatMap_append, ← searchesAll_eq_flatMap,
    ← searchesAll_eq_flatMap, searchesAll_operandsUnder, searchesAll_operandsUnder]

end Expression

end ContextualQuery
