import ContextualQuery.Proofs.Expression.Derived
import ContextualQuery.Proofs.Expression.Searches
import ContextualQuery.Proofs.Parser.Acceptance
import ContextualQuery.Proofs.Tree.Clausal
import Mathlib.Data.List.Forall2

/-!
# Searches and the clauses they come from

Every query that is parsed can be normalized: an expression is found at it, and at every query and
clause within it, so none of the reports on malformed nodes is made. The searches of the expression
come from the clauses that hold terms, in their order. A search has a boost exactly if its clause
has a modifier, and the boost is a finite number that is not negative.

The proof follows the shapes that the parser builds. A search keeps its parts when clauses are
joined; it can only be negated.
-/

namespace ContextualQuery

/-- The search is the one that is found at the clause, negated or not. It has a boost exactly if the
clause has a modifier, and the boost is finite and not negative. -/
structure Search.ComesFrom (parts : Search) (clause : Tree) : Prop where
  found : clause.normalized = .ok (.expression (.search { parts with mustNot := false }))
  boosted : parts.boost?.isSome = clause.hasModifier
  bounded : ∀ boost, parts.boost? = some boost →
    ∃ magnitude, boost = .finite false magnitude

/-- A flag does not matter to where a search comes from. -/
theorem Search.ComesFrom.setMustNot {parts : Search} {clause : Tree}
    (comesFrom : parts.ComesFrom clause) (mustNot : Bool) :
    Search.ComesFrom { parts with mustNot } clause :=
  ⟨comesFrom.found, comesFrom.boosted, comesFrom.bounded⟩

namespace Expression

/-- The searches of the expression come from the clauses, one by one. -/
def ComeFrom (expression : Expression) (clauses : List Tree) : Prop :=
  List.Forall₂ Search.ComesFrom expression.searches clauses

variable {expression left right : Expression} {clauses leftClauses rightClauses : List Tree}

/-- Negating an expression keeps where its searches come from. -/
theorem ComeFrom.linkSide (comeFrom : expression.ComeFrom clauses) (boolean : Token) :
    (expression.linkSide boolean).ComeFrom clauses := by
  unfold Expression.linkSide
  split
  case isTrue =>
    cases expression with
    | nested operator operands mustNot => exact comeFrom
    | search parts =>
      obtain _ | ⟨first, rest⟩ := comeFrom
      exact .cons (first.setMustNot true) rest
  case isFalse => exact comeFrom

/-- Linking two sides keeps where their searches come from. -/
theorem ComeFrom.linked (leftComeFrom : left.ComeFrom leftClauses)
    (rightComeFrom : right.ComeFrom rightClauses) (boolean : Token) :
    (left.linked boolean right).ComeFrom (leftClauses ++ rightClauses) := by
  rw [ComeFrom, Expression.linked, searches_joined]
  exact List.rel_append leftComeFrom (rightComeFrom.linkSide boolean)

end Expression

namespace Tree

/-- A clause with a term asks for a search that comes from the clause itself. -/
theorem AsksFor.comeFrom_search {clause : Tree} {parts : Search}
    (asks : AsksFor clause (.search parts)) (plain : parts.mustNot = false)
    (isTermClause : clause.termClauses = [clause])
    (boosted : parts.boost?.isSome = clause.hasModifier)
    (bounded : ∀ boost, parts.boost? = some boost →
      ∃ magnitude, boost = .finite false magnitude) :
    (Expression.search parts).ComeFrom clause.termClauses := by
  have same : { parts with mustNot := false } = parts := by rw [← plain]
  rw [isTermClause]
  exact .cons ⟨same ▸ asks.normalized, boosted, bounded⟩ .nil

/-- The searches that a tree asks for come from the clauses within it that hold terms. -/
theorem AsksFor.comeFrom {tree : Tree} {expression : Expression} (asks : AsksFor tree expression) :
    expression.ComeFrom tree.termClauses := by
  induction asks with
  | word value => exact (AsksFor.word value).comeFrom_search rfl rfl rfl (by simp)
  | indexed name comparitor value =>
    exact (AsksFor.indexed name comparitor value).comeFrom_search rfl rfl rfl (by simp)
  | boosted name comparitor value read =>
    apply (AsksFor.boosted name comparitor value read).comeFrom_search rfl rfl rfl
    intro boost same
    exact ⟨_, (Option.some.inj same).symm⟩
  | cqlQuery _ inductionHypothesis => rwa [termClauses_cqlQuery]
  | group _ inductionHypothesis => rwa [termClauses_group]
  | singleClause _ inductionHypothesis => rwa [termClauses_singleClause]
  | joinedClause _ _ _ leftHypothesis rightHypothesis =>
    rw [termClauses_joinedClause]
    exact leftHypothesis.linked rightHypothesis _

/-- Every query and every clause within a tree that asks for an expression asks for one itself. By
induction on how the tree asks for its expression: the node is the tree itself, or lies within one of the
parts. -/
theorem AsksFor.of_mem_clausal {tree node : Tree} {expression : Expression}
    (asks : AsksFor tree expression) (member : node ∈ tree.clausal) :
    ∃ inner, AsksFor node inner := by
  induction asks with
  | word value =>
    obtain rfl : node = _ := List.mem_singleton.mp member
    exact ⟨_, .word value⟩
  | indexed name comparitor value =>
    obtain rfl : node = _ := List.mem_singleton.mp member
    exact ⟨_, .indexed name comparitor value⟩
  | boosted name comparitor value read =>
    obtain rfl : node = _ := List.mem_singleton.mp member
    exact ⟨_, .boosted name comparitor value read⟩
  | cqlQuery inner inductionHypothesis =>
    rw [clausal_cqlQuery] at member
    rcases List.mem_cons.mp member with rfl | below
    · exact ⟨_, inner.cqlQuery⟩
    · exact inductionHypothesis below
  | group inner inductionHypothesis =>
    rw [clausal_group] at member
    rcases List.mem_cons.mp member with rfl | below
    · exact ⟨_, inner.group⟩
    · exact inductionHypothesis below
  | singleClause inner inductionHypothesis =>
    rw [clausal_singleClause] at member
    rcases List.mem_cons.mp member with rfl | below
    · exact ⟨_, inner.singleClause⟩
    · exact inductionHypothesis below
  | joinedClause isBoolean leftAsks rightAsks leftHypothesis rightHypothesis =>
    rw [clausal_joinedClause] at member
    rcases List.mem_cons.mp member with rfl | below
    · exact ⟨_, .joinedClause isBoolean leftAsks rightAsks⟩
    · rcases List.mem_append.mp below with below | below
      · exact leftHypothesis below
      · exact rightHypothesis below

end Tree

/-- Under any options, a query that is parsed gives an expression, whose searches come one by one
from the clauses with terms, and an expression is found at every query and clause within it. -/
theorem toExpression_of_parseWith (options : Options) (text : String) (tree : Tree)
    (accepted : Tree.parseWith options text = .ok tree) :
    (∃ expression, tree.toExpression = .ok expression ∧
      List.Forall₂ Search.ComesFrom expression.searches tree.termClauses) ∧
    ∀ node ∈ tree.subtrees, node.isClausal = true →
      ∃ expression, node.normalized = .ok (.expression expression) := by
  obtain ⟨chain, _, formed, rfl⟩ := exists_chain_of_parseWith accepted
  constructor
  · exact ⟨_, formed.toExpression_tree, formed.asksFor.comeFrom⟩
  · intro node within isClausal
    have member : node ∈ chain.tree.clausal := List.mem_filter.mpr ⟨within, isClausal⟩
    obtain ⟨expression, asks⟩ := formed.asksFor.of_mem_clausal member
    exact ⟨expression, asks.normalized⟩

/-- The boost of the first clause is read from its only modifier. The group behind `not` is negated
as a whole, and its searches come from its own clauses. -/
theorem toExpression_of_parseWith_boosted :
    ∃ tree,
      Tree.parseWith Options.standard "title any /boost=2.5 fish not (b or c)" = .ok tree ∧
      tree.termClauses.map Tree.hasModifier = [true, false, false] ∧
      (∃ expression, tree.toExpression = .ok expression ∧
        List.Forall₂ Search.ComesFrom expression.searches tree.termClauses) ∧
      ∀ node ∈ tree.subtrees, node.isClausal = true →
        ∃ expression, node.normalized = .ok (.expression expression) := by
  let boosted : Clause := .boosted ⟨"title"⟩ ⟨"any"⟩ ⟨"2.5"⟩ ⟨"fish"⟩
  let disjunction : Clause := .group (.word ⟨"b"⟩) [(⟨"or"⟩, .word ⟨"c"⟩)]
  let chain : Chain := ⟨boosted, [(⟨"not"⟩, disjunction)]⟩
  have split : Token.tokenize "title any /boost=2.5 fish not (b or c)" = .ok chain.tokens := by cbv
  have formed : chain.Formed Options.standard := by decide +kernel
  have accepted := parseWith_of_chain split formed
  exact ⟨chain.tree, accepted, rfl, toExpression_of_parseWith _ _ _ accepted⟩

end ContextualQuery
