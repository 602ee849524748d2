import ContextualQuery.Error
import ContextualQuery.Expression.Basic
import ContextualQuery.Number.Decimal
import ContextualQuery.Parser
import ContextualQuery.Tree.Traversal

/-!
# Trees as expressions

A tree is normalized to the expression it asks for. Parentheses and wrappers leave no trace, `a not b`
becomes `a and b` with `b` negated, and an operand with the same operator that is not negated gives its
own operands in its place. What a node gives is a fragment: a text, a relation with its boost, an
expression, or the fragments of several children in sequence. A node that has none of the shapes the
parser builds is reported.
-/

namespace ContextualQuery

/-- What normalizing finds at a node. -/
inductive Fragment where
  | text (value : String)
  | relation (comparitor : String) (boost? : Option Binary64)
  | expression (expression : Expression)
  | sequence (parts : List Fragment)

namespace Expression

/-- The operands that a side brings under an operator: its own operands, if it has the same operator
and is not negated, else itself. -/
def operandsUnder (operator : Operator) : Expression → List Expression
  | .nested inner operands mustNot =>
    if inner = operator ∧ mustNot = false then operands else [.nested inner operands mustNot]
  | .search parts => [.search parts]

/-- Two sides under an operator. -/
def joined (operator : Operator) (left right : Expression) : Expression :=
  .nested operator (left.operandsUnder operator ++ right.operandsUnder operator) false

/-- Two sides joined by a boolean of the language. -/
def joinedBy? (boolean : String) (left right : Expression) : Option Expression :=
  if boolean = "and" then some (joined .and left right)
  else if boolean = "or" then some (joined .or left right)
  else if boolean = "not" then some (joined .and left right.negated)
  else none

end Expression

/-- What normalizing finds at a tree, or the report on a malformed node. -/
abbrev Normalized := Except ParseError Fragment

namespace Normalized

/-- The expression found at a tree. -/
def expression (tree : Tree) (found : Normalized) : Except ParseError Expression :=
  match found with
  | .ok (.expression expression) => .ok expression
  | .ok _ => .error (ParseError.malformed tree)
  | .error error => .error error

/-- The text found at a tree. -/
def text (tree : Tree) (found : Normalized) : Except ParseError String :=
  match found with
  | .ok (.text value) => .ok value
  | .ok _ => .error (ParseError.malformed tree)
  | .error error => .error error

/-- The relation found at a tree. -/
def relation (tree : Tree) (found : Normalized) : Except ParseError (String × Option Binary64) :=
  match found with
  | .ok (.relation comparitor boost?) => .ok (comparitor, boost?)
  | .ok _ => .error (ParseError.malformed tree)
  | .error error => .error error

end Normalized

/-- A tree with what normalizing finds at it. -/
abbrev Finding := Tree × Normalized

/-- What normalizing finds at a node, seen in three ways: as it is, as a modifier by its value, and as
a list of modifiers by the value of the only one. -/
structure Normal where
  found : Normalized
  value? : Option Finding
  soleValue? : Option Finding

namespace Normal

/-- The fragments of all children, or the first report among them. A lone fragment stands for
itself. -/
def combined (findings : List Normalized) : Normalized :=
  match findings.mapM fun found => found with
  | .error error => .error error
  | .ok [fragment] => .ok fragment
  | .ok fragments => .ok (.sequence fragments)

/-- A scoped clause: its only clause, or two clauses joined by a boolean. -/
def scopedClause (node : Tree) (nodes : List Finding) : Normalized :=
  match nodes with
  | [(clause, found)] => do
    let expression ← found.expression clause
    return .expression expression
  | [(left, leftFound), (boolean, booleanFound), (right, rightFound)] => do
    let leftExpression ← leftFound.expression left
    let rightExpression ← rightFound.expression right
    let operator ← booleanFound.text boolean
    match Expression.joinedBy? (Text.lower operator) leftExpression rightExpression with
    | some expression => return .expression expression
    | none => throw (ParseError.malformed boolean)
  | _ => .error (ParseError.malformed node)

/-- A search clause: the expression of a group, a term, or a term in an index. -/
def searchClause (node : Tree) (nodes : List Finding) : Normalized :=
  match nodes with
  | [(.node .cqlQuery children, found)] => do
    let expression ← found.expression (.node .cqlQuery children)
    return .expression expression
  | [(.node .searchTerm children, found)] => do
    let term ← found.text (.node .searchTerm children)
    return .expression (Expression.ofTerm term)
  | [(.node .index children, indexFound), (relation, relationFound), (term, termFound)] => do
    let (comparitor, boost?) ← relationFound.relation relation
    let index ← indexFound.text (.node .index children)
    let term ← termFound.text term
    return .expression
      (.search { index? := some index, relation? := some comparitor, term, boost? })
  | _ => .error (ParseError.malformed node)

/-- The boost of a list of modifiers: the value of the only modifier, as a number. -/
def boost (modifiers : Tree) (soleValue? : Option Finding) : Except ParseError Binary64 := do
  let (value, found) ← soleValue?.elim (.error (ParseError.malformed modifiers)) .ok
  let digits ← found.text value
  (Binary64.read? digits).elim (.error (ParseError.malformed modifiers)) .ok

/-- A relation: its comparitor, and the boost of its modifiers. -/
def relation (node : Tree) (children : List (Tree × Normal)) : Normalized :=
  match children[0]?.filter (·.1.isNode) with
  | none => .error (ParseError.malformed node)
  | some (comparitor, normal) => do
    let comparitor ← normal.found.text comparitor
    match children[1]?.filter (·.1.isNode) with
    | none => return .relation comparitor none
    | some (modifiers, normal) =>
      let boost ← boost modifiers normal.soleValue?
      return .relation comparitor (some boost)

/-- What normalizing finds at a node, from its children. -/
def ofNode (kind : Kind) (children : List (Tree × Normal)) : Normalized :=
  let node := Tree.node kind (children.map Prod.fst)
  let nodes := (children.filter (·.1.isNode)).map fun (child, normal) => (child, normal.found)
  match kind with
  | .scopedClause => scopedClause node nodes
  | .searchClause => searchClause node nodes
  | .relation => relation node children
  | _ => combined (children.map (·.2.found))

/-- The value of the only child that is a node. -/
def soleValueOf? (children : List (Tree × Normal)) : Option Finding :=
  match children.filter (·.1.isNode) with
  | [(_, normal)] => normal.value?
  | _ => none

/-- The traversal that normalizes a tree. -/
def traversal : Traversal Normal where
  text := fun value => { found := .ok (.text value), value? := none, soleValue? := none }
  combine := fun kind children =>
    { found := ofNode kind children
      value? := (children[2]?.filter (·.1.isNode)).map fun (child, normal) => (child, normal.found)
      soleValue? := soleValueOf? children }

end Normal

namespace Tree

/-- What normalizing finds at a tree. -/
def normalized (tree : Tree) : Normalized := (tree.accept Normal.traversal).found

/-- The expression that a tree asks for. -/
def toExpression (tree : Tree) : Except ParseError Expression := tree.normalized.expression tree

/-- The expression that a query text asks for under the standard options. -/
def expressionOf (text : String) : Except QueryError Expression := do
  let tree ← parse text
  tree.toExpression.mapError .parse

mutual

/-- The search clauses of a tree, each after those below it. -/
def searchClauses : Tree → List Tree
  | .text _ => []
  | .node kind children =>
    let below := searchClausesAll children
    if kind = .searchClause then below ++ [.node kind children] else below

/-- The search clauses of a list of trees. -/
def searchClausesAll : List Tree → List Tree
  | [] => []
  | head :: tail => searchClauses head ++ searchClausesAll tail

end

end Tree

end ContextualQuery
