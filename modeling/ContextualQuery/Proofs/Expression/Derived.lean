import ContextualQuery.Proofs.Expression.Linked
import ContextualQuery.Proofs.Expression.Normalized
import ContextualQuery.Proofs.Number.Sign

/-!
# The expression of a derivation

A derivation says by itself what its query asks for: every clause without a group is a search, and
the clauses of a chain are linked one after the other. `AsksFor` says the same of the queries and
clauses that the parser builds, shape by shape. The tree of a derivation asks for the expression of
the derivation: it joins the runs of a chain from the right and wraps its last clause, but none of
this shows in the expression. And a tree is normalized to the expression that it asks for.
-/

namespace ContextualQuery

namespace Clause

mutual

/-- The expression of a clause. -/
def expression : Clause → Expression
  | .word term => Expression.ofTerm term.unquote
  | .indexed index comparitor term =>
    Expression.ofIndexed index.unquote comparitor.text term.unquote
  | .boosted index comparitor boost term =>
    .search
      { index? := some index.unquote
        relation? := some comparitor.text
        term := term.unquote
        boost? := Binary64.read? boost.unquote }
  | .group head links => (expression head).linkedAfter (linkExpressions links)

/-- The booleans of links with the expressions of their clauses. -/
def linkExpressions : List (Token × Clause) → List (Token × Expression)
  | [] => []
  | (boolean, clause) :: rest => (boolean, expression clause) :: linkExpressions rest

end

/-- The expressions of the links are those of each link. -/
theorem linkExpressions_eq_map (links : List (Token × Clause)) :
    linkExpressions links = links.map fun link => (link.1, link.2.expression) := by
  induction links with
  | nil => rfl
  | cons link rest inductionHypothesis => simp [linkExpressions, inductionHypothesis]

end Clause

/-- The expression of a query. -/
def Chain.expression (chain : Chain) : Expression :=
  chain.head.expression.linkedAfter (Clause.linkExpressions chain.links)

namespace Expression

variable {run : Expression}

/-- A run is not negated if nothing that stands at the start of a run is. -/
theorem mustNot_linkedAfter (runPlain : run.mustNot = false) (links : List (Token × Expression)) :
    (run.linkedAfter links).mustNot = false := by
  induction links generalizing run with
  | nil => exact runPlain
  | cons link rest inductionHypothesis =>
    obtain ⟨boolean, next⟩ := link
    rw [linkedAfter]
    split
    · exact mustNot_linked boolean run _
    · exact inductionHypothesis (mustNot_linked boolean run next)

end Expression

/-- No clause asks for a negated expression by itself. -/
theorem Clause.mustNot_expression (clause : Clause) : clause.expression.mustNot = false := by
  induction clause with
  | word term => rfl
  | indexed index comparitor term => rfl
  | boosted index comparitor boost term => rfl
  | group head links headPlain =>
    rw [Clause.expression]
    exact Expression.mustNot_linkedAfter headPlain _

/-- The expression of a query is not negated. -/
theorem Chain.mustNot_expression (chain : Chain) : chain.expression.mustNot = false :=
  Expression.mustNot_linkedAfter chain.head.mustNot_expression _

namespace Tree

/-! ### Trees that ask for expressions -/

/-- The tree is a query or a clause as the parser builds it, and asks for the expression. -/
inductive AsksFor : Tree → Expression → Prop
  | word (value : String) :
      AsksFor (searchClause (searchTerm (term value))) (Expression.ofTerm value)
  | indexed (name comparitor value : String) :
      AsksFor (indexedSearchClause (index (term name))
        (relation (Tree.comparitor comparitor) none) (searchTerm (term value)))
        (Expression.ofIndexed name comparitor value)
  | boosted (name comparitor value : String) {boost : String} {magnitude : Binary64.Magnitude}
      (read : Binary64.read? boost = some (.finite false magnitude)) :
      AsksFor (indexedSearchClause (index (term name))
        (relation (Tree.comparitor comparitor) (some (modifierList
          [modifier (identifier boostModifier) (Tree.comparitor "=") (term boost)])))
        (searchTerm (term value)))
        (.search
          { index? := some name
            relation? := some comparitor
            term := value
            boost? := some (.finite false magnitude) })
  | cqlQuery {clause : Tree} {expression : Expression} (inner : AsksFor clause expression) :
      AsksFor (cqlQuery clause) expression
  | group {clause : Tree} {expression : Expression}
      (inner : AsksFor (Tree.cqlQuery clause) expression) :
      AsksFor (group (Tree.cqlQuery clause)) expression
  | singleClause {clause : Tree} {expression : Expression} (inner : AsksFor clause expression) :
      AsksFor (singleClause clause) expression
  | joinedClause {left right : Tree} {leftExpression rightExpression : Expression}
      {boolean : Token} (isBoolean : boolean.IsBoolean) (leftAsks : AsksFor left leftExpression)
      (rightAsks : AsksFor right rightExpression) :
      AsksFor (joinedClause left (Tree.boolean boolean.text) right)
        (leftExpression.linked boolean rightExpression)

/-- A tree is normalized to the expression that it asks for. -/
theorem AsksFor.normalized {tree : Tree} {expression : Expression}
    (asks : AsksFor tree expression) : tree.normalized = .ok (.expression expression) := by
  induction asks with
  | word value => exact normalized_word value
  | indexed name comparitor value =>
    exact normalized_indexed (normalized_relation comparitor) name value
  | boosted name comparitor value read =>
    exact normalized_indexed (normalized_boost read comparitor) name value
  | cqlQuery _ inductionHypothesis => exact normalized_cqlQuery inductionHypothesis
  | group _ inductionHypothesis => exact normalized_group inductionHypothesis
  | singleClause _ inductionHypothesis => exact normalized_singleClause inductionHypothesis
  | joinedClause isBoolean _ _ leftHypothesis rightHypothesis =>
    exact normalized_joinedClause leftHypothesis rightHypothesis isBoolean
      (Expression.joinedBy?_eq_linked isBoolean _ _)

/-- The case in which a boolean is written does not matter to the runs. -/
theorem isOrLink_boolean (operator : String) (clause : Tree) :
    isOrLink (Tree.boolean operator, clause) = decide (Text.lower operator = "or") := by
  rw [isOrLink, text?_boolean, Option.some_beq_some]
  rfl

/-- The links that follow a run are linked to its expression. The last clause stands in a scoped
clause of its own, which asks for the same expression. -/
theorem asksFor_chainAfter {run : Tree} {runExpression : Expression}
    (runAsks : AsksFor run runExpression) {links : List (Token × Clause)}
    (booleans : ∀ link ∈ links, link.1.IsBoolean)
    (clauses : ∀ link ∈ links, AsksFor link.2.tree link.2.expression) :
    AsksFor (chainAfter run (Clause.linkTrees links))
      (runExpression.linkedAfter (Clause.linkExpressions links)) := by
  induction links generalizing run runExpression with
  | nil => exact runAsks
  | cons link rest inductionHypothesis =>
    obtain ⟨boolean, clause⟩ := link
    obtain ⟨isBoolean, laterBooleans⟩ := List.forall_mem_cons.mp booleans
    obtain ⟨clauseAsks, laterClauses⟩ := List.forall_mem_cons.mp clauses
    have wrappedAsks : AsksFor
        (if (Clause.linkTrees rest).isEmpty then singleClause clause.tree else clause.tree)
        clause.expression := by
      split
      · exact clauseAsks.singleClause
      · exact clauseAsks
    rw [Clause.linkTrees, chainAfter, Clause.linkExpressions, Expression.linkedAfter]
    generalize (if (Clause.linkTrees rest).isEmpty then singleClause clause.tree else clause.tree) =
      wrapped at wrappedAsks ⊢
    rw [isOrLink_boolean]
    by_cases isOr : Text.lower boolean.text = "or"
    · rw [decide_eq_true isOr, if_pos rfl, if_pos isOr]
      apply AsksFor.joinedClause isBoolean runAsks
      exact inductionHypothesis wrappedAsks laterBooleans laterClauses
    · rw [decide_eq_false isOr, if_neg Bool.false_ne_true, if_neg isOr]
      apply inductionHypothesis _ laterBooleans laterClauses
      exact .joinedClause isBoolean runAsks wrappedAsks

/-- The tree of a chain asks for the expression that its links give from left to right. -/
theorem asksFor_chain {head : Clause} {links : List (Token × Clause)}
    (headAsks : AsksFor head.tree head.expression)
    (booleans : ∀ link ∈ links, link.1.IsBoolean)
    (clauses : ∀ link ∈ links, AsksFor link.2.tree link.2.expression) :
    AsksFor (chain head.tree (Clause.linkTrees links))
      (head.expression.linkedAfter (Clause.linkExpressions links)) := by
  rw [chain]
  cases links with
  | nil => exact headAsks.singleClause
  | cons link rest => exact asksFor_chainAfter headAsks booleans clauses

end Tree

variable {options : Options}

/-- The tree of a clause asks for the expression of the clause. -/
theorem Clause.Formed.asksFor {clause : Clause} (formed : clause.Formed options) :
    clause.tree.AsksFor clause.expression := by
  induction formed with
  | word => exact .word _
  | indexed => exact .indexed _ _ _
  | boosted _ _ _ isBoost =>
    obtain ⟨magnitude, read⟩ := Grammar.read?_of_isBoostValue isBoost.2
    rw [Clause.tree, Clause.expression, read]
    exact .boosted _ _ _ read
  | group _ booleans _ headHypothesis linkHypothesis =>
    rw [Clause.tree, Clause.expression]
    exact .group (.cqlQuery (Tree.asksFor_chain headHypothesis booleans linkHypothesis))

/-- The tree of a query asks for the expression of the query. -/
theorem Chain.Formed.asksFor {chain : Chain} (formed : chain.Formed options) :
    chain.tree.AsksFor chain.expression := by
  apply Tree.AsksFor.cqlQuery
  apply Tree.asksFor_chain formed.head.asksFor formed.booleans
  intro link member
  exact (formed.clauses link member).asksFor

/-- The tree of a query is normalized to the expression of the query. -/
theorem Chain.Formed.normalized {chain : Chain} (formed : chain.Formed options) :
    chain.tree.normalized = .ok (.expression chain.expression) :=
  formed.asksFor.normalized

/-- The expression of the tree of a query is that of the query. -/
theorem Chain.Formed.toExpression_tree {chain : Chain} (formed : chain.Formed options) :
    chain.tree.toExpression = .ok chain.expression :=
  Tree.toExpression_eq_ok_iff.mpr formed.normalized

end ContextualQuery
