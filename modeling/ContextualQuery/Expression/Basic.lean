import ContextualQuery.Number.Binary64

/-!
# Query expressions

A query expression is what a query asks for, without the syntax it was written in: a search, or an
operator over an ordered list of operands. Either may be negated. A search has a term, and where they
were written, an index, a relation and a boost.
-/

namespace ContextualQuery

/-- The operator of a nested expression: every operand must match, or at least one. -/
inductive Operator where
  | and
  | or
deriving DecidableEq, Repr

namespace Operator

/-- The name of an operator. -/
def name : Operator → String
  | and => "AND"
  | or => "OR"

/-- The operator of a name. -/
def ofName? (name : String) : Option Operator :=
  if name = "AND" then some .and else if name = "OR" then some .or else none

/-- The name of an operator is read as that operator. -/
theorem ofName?_name (operator : Operator) : ofName? operator.name = some operator := by
  cases operator <;> rfl

/-- An operator is read from its own name only. -/
theorem name_of_ofName? {name : String} {operator : Operator}
    (found : ofName? name = some operator) : operator.name = name := by
  unfold ofName? at found
  split at found
  case isTrue same => cases found; exact same.symm
  case isFalse =>
    split at found
    case isTrue same => cases found; exact same.symm
    case isFalse => simp at found

end Operator

/-- A search for a term. -/
structure Search where
  index? : Option String := none
  relation? : Option String := none
  term : String
  boost? : Option Binary64 := none
  mustNot : Bool := false
deriving DecidableEq, Repr

/-- Numeric equality of boosts. -/
def eqBoost : Option Binary64 → Option Binary64 → Bool
  | none, none => true
  | some left, some right => left.eq right
  | _, _ => false

/-- Searches are equal when their parts are, boosts being compared as numbers. -/
def Search.eq (left right : Search) : Bool :=
  left.index? == right.index? && left.relation? == right.relation? && left.term == right.term &&
    eqBoost left.boost? right.boost? && left.mustNot == right.mustNot

/-- A query expression. -/
inductive Expression where
  | nested (operator : Operator) (operands : List Expression) (mustNot : Bool)
  | search (search : Search)

namespace Expression

/-- To show a property of all expressions, it is enough to show it of searches, and of a nested
expression whenever all its operands have it. -/
@[elab_as_elim, induction_eliminator]
theorem induct {motive : Expression → Prop}
    (nested : ∀ operator operands mustNot, (∀ operand ∈ operands, motive operand) →
      motive (.nested operator operands mustNot))
    (search : ∀ parts, motive (.search parts)) (expression : Expression) : motive expression :=
  Expression.rec (motive_1 := motive)
    (motive_2 := fun operands => ∀ operand ∈ operands, motive operand)
    (fun operator operands mustNot each => nested operator operands mustNot each) search (by simp)
    (fun _ _ head tail operand member => by
      rcases List.mem_cons.mp member with rfl | member
      · exact head
      · exact tail operand member)
    expression

/-! ### Making expressions -/

/-- An operator without operands. -/
def ofOperator (operator : Operator) : Expression := .nested operator [] false

/-- A search for a term in any index. -/
def ofTerm (term : String) : Expression := .search { term }

/-- A search for a term in an index. -/
def ofIndexed (index relation term : String) : Expression :=
  .search { index? := some index, relation? := some relation, term }

/-- A search with another boost. A nested expression has none and stays as it is. -/
def withBoost (boost : Binary64) : Expression → Expression
  | .nested operator operands mustNot => .nested operator operands mustNot
  | .search parts => .search { parts with boost? := some boost }

/-- The expression, negated or not. -/
def setMustNot (mustNot : Bool) : Expression → Expression
  | .nested operator operands _ => .nested operator operands mustNot
  | .search parts => .search { parts with mustNot }

/-- The negated expression. -/
def negated (expression : Expression) : Expression := expression.setMustNot true

/-- A nested expression with one more operand at its end. A search has none and stays as it is. -/
def withOperand : Expression → Expression → Expression
  | .nested operator operands mustNot, operand => .nested operator (operands ++ [operand]) mustNot
  | .search parts, _ => .search parts

/-! ### Parts of an expression -/

/-- The expression has operands. -/
def isNested : Expression → Bool
  | .nested .. => true
  | .search _ => false

/-- The expression is a search. -/
def isSearch : Expression → Bool
  | .nested .. => false
  | .search _ => true

/-- The parts of a search. -/
def search? : Expression → Option Search
  | .nested .. => none
  | .search parts => some parts

/-- The operator of a nested expression. -/
def operator? : Expression → Option Operator
  | .nested operator _ _ => some operator
  | .search _ => none

/-- The operands of a nested expression. -/
def operands : Expression → List Expression
  | .nested _ operands _ => operands
  | .search _ => []

/-- The expression is negated. -/
def mustNot : Expression → Bool
  | .nested _ _ mustNot => mustNot
  | .search parts => parts.mustNot

/-- The flag is the one that was set. -/
@[simp] theorem mustNot_setMustNot (expression : Expression) (mustNot : Bool) :
    (expression.setMustNot mustNot).mustNot = mustNot := by
  cases expression <;> rfl

/-- Setting the flag keeps the operands. -/
@[simp] theorem operands_setMustNot (expression : Expression) (mustNot : Bool) :
    (expression.setMustNot mustNot).operands = expression.operands := by
  cases expression <;> rfl

/-! ### Equality -/

mutual

/-- Expressions are equal when their operators, operands in order and flags are, or their searches. -/
def eq : Expression → Expression → Bool
  | .nested operator operands mustNot, .nested operator' operands' mustNot' =>
    operator == operator' && eqAll operands operands' && mustNot == mustNot'
  | .search parts, .search parts' => parts.eq parts'
  | .nested .., .search _ => false
  | .search _, .nested .. => false

/-- Lists of expressions are equal when they are so place by place. -/
def eqAll : List Expression → List Expression → Bool
  | [], [] => true
  | head :: tail, head' :: tail' => eq head head' && eqAll tail tail'
  | [], _ :: _ => false
  | _ :: _, [] => false

end

end Expression

end ContextualQuery
