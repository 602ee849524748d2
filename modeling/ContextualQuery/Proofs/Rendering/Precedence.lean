import ContextualQuery.Proofs.Expression.Separation
import ContextualQuery.Proofs.Rendering.Writing

/-!
# What the text of a tree asks for

A tree in one of the documented shapes is rendered faithfully exactly if its terms can be written and
its booleans bind without parentheses as they do in the tree. The expression of its text links the
clauses in a row; that of the tree links the sides of each joined clause. Where a boolean keeps its
sides they agree. Where it does not, an `or` of a side has become the operator of the whole, or a
`not` has lost all clauses of its right side but the first. No other joined clause around it can make
up for the difference, because both expressions have the same number of searches at every side.
-/

namespace ContextualQuery

namespace Chain

variable {left right : Chain} {boolean : Token} {leftExpression rightExpression : Expression}

/-- The boolean binds two queries in a row as it binds them in parentheses. -/
def Keeps (left : Chain) (boolean : Token) (right : Chain) : Prop :=
  Text.lower boolean.text = "or" ∨
    (left.HasNoOr ∧ right.HasNoOr) ∧ (Text.lower boolean.text = "not" → right.links = [])

/-- A boolean that keeps its sides links them. -/
theorem expression_join_of_keeps (isBoolean : boolean.IsBoolean)
    (keeps : left.Keeps boolean right) :
    (left.join boolean right).expression =
      left.expression.linked boolean right.expression := by
  rcases keeps with isOr | ⟨⟨leftNoOr, rightNoOr⟩, sole⟩
  · rw [expression_join_or isOr, Expression.linked_of_or isOr]
  · rcases isBoolean with isAnd | isOr | isNot
    · rw [expression_join_and isAnd leftNoOr rightNoOr, Expression.linked_of_and isAnd]
    · rw [expression_join_or isOr, Expression.linked_of_or isOr]
    · have notOr : Text.lower boolean.text ≠ "or" := by simp [isNot]
      rw [expression, linkExpressions_join, sole isNot]
      rw [Expression.linkedAfter_append leftNoOr.linkExpressions,
        Expression.linkedAfter_cons_run notOr, expression, expression, sole isNot]
      rfl

/-- An `or` outside parentheses is the operator of the query. -/
theorem operator?_expression_of_or (hasOr : ¬ left.HasNoOr) :
    left.expression.operator? = some .or := by
  apply Expression.operator?_linkedAfter
  intro noOr
  apply hasOr
  intro link member
  refine noOr (link.1, link.2.expression) ?_
  rw [Clause.linkExpressions_eq_map]
  exact List.mem_map_of_mem member

/-- Two queries in a row have no `or` if neither has one and none stands between them. -/
theorem hasNoOr_join :
    (left.join boolean right).HasNoOr ↔
      left.HasNoOr ∧ Text.lower boolean.text ≠ "or" ∧ right.HasNoOr := by
  simp only [HasNoOr, Expression.NoOr, join, List.forall_mem_append, List.forall_mem_cons]

/-- A clause alone has the expression of the clause. -/
theorem expression_ofClause (clause : Clause) : (ofClause clause).expression = clause.expression :=
  rfl

/-- A query of the grammar asks for a canonical expression that is not negated. -/
theorem Formed.expression_settled {options : Options} {chain : Chain}
    (formed : chain.Formed options) : chain.expression.Settled :=
  formed.asksFor.settled

/-- Joined queries have the searches of both sides. -/
theorem length_searches_join :
    (left.join boolean right).expression.searches.length =
      left.expression.searches.length + right.expression.searches.length := by
  simp only [expression, linkExpressions_join, Expression.length_searches_linkedAfter,
    List.flatMap_append, List.flatMap_cons, List.length_append]
  simp only [join, Nat.add_assoc]

/-- A `not` in front of several clauses in a row negates the first of them only. If the two were the same,
they would bring the same operands to a conjunction. One of them brings the negated head of the right
query with the rest of that query behind it, the other one operand only. -/
theorem expression_join_ne_of_not {options : Options} (leftFormed : left.Formed options)
    (rightFormed : right.Formed options) (settled : leftExpression.Settled)
    (sizes : left.expression.searches.length = leftExpression.searches.length)
    (leftNoOr : left.HasNoOr) (rightNoOr : right.HasNoOr)
    (isNot : Text.lower boolean.text = "not") (several : right.links ≠ []) :
    (left.join boolean right).expression ≠ leftExpression.linked boolean rightExpression := by
  intro same
  have notOr : Text.lower boolean.text ≠ "or" := by simp [isNot]
  have nextSettled : ∀ link ∈ Clause.linkExpressions right.links, link.2.Settled := by
    rw [Clause.linkExpressions_eq_map]
    exact List.forall_mem_map.mpr fun link member => (rightFormed.clauses link member).asksFor.settled
  obtain ⟨more, brings, nothing⟩ := Expression.exists_operandsUnder_linkedAfter
    (left.expression.linked boolean right.head.expression) rightNoOr.linkExpressions nextSettled
  have operands := congrArg (Expression.operandsUnder .and) same
  have negated : ∀ side : Expression,
      (Expression.linkSide boolean side).operandsUnder .and = [side.negated] := by
    intro side
    cases side <;> simp [Expression.linkSide, isNot, Expression.negated, Expression.setMustNot,
      Expression.operandsUnder]
  rw [expression, linkExpressions_join, Expression.linkedAfter_append leftNoOr.linkExpressions,
    Expression.linkedAfter_cons_run notOr] at operands
  change (Expression.linkedAfter (left.expression.linked boolean right.head.expression)
    (Clause.linkExpressions right.links)).operandsUnder .and = _ at operands
  rw [brings, Expression.linked_of_not_or notOr, Expression.linked_of_not_or notOr,
    Expression.operandsUnder_joined, Expression.operandsUnder_joined, negated, negated,
    List.append_assoc] at operands
  obtain ⟨_, behind⟩ := leftFormed.expression_settled.canonical.separated settled.canonical sizes
    operands
  obtain ⟨_, rfl⟩ := List.cons.inj behind
  exact several (by simpa [Clause.linkExpressions_eq_map] using nothing rfl)

/-- Two queries in a row ask for linked sides exactly if the boolean keeps them, and each of them asks
for its side. -/
theorem expression_join_eq_linked_iff {options : Options} (leftFormed : left.Formed options)
    (isBoolean : boolean.IsBoolean) (rightFormed : right.Formed options)
    (leftSettled : leftExpression.Settled) (rightSettled : rightExpression.Settled)
    (sizes : left.expression.searches.length = leftExpression.searches.length) :
    (left.join boolean right).expression = leftExpression.linked boolean rightExpression ↔
      left.Keeps boolean right ∧ left.expression = leftExpression ∧
        right.expression = rightExpression := by
  have bothSides := leftFormed.expression_settled.linked_eq_linked_iff leftSettled sizes
    rightFormed.expression_settled rightSettled boolean
  constructor
  · intro same
    suffices keeps : left.Keeps boolean right by
      rw [expression_join_of_keeps isBoolean keeps] at same
      exact ⟨keeps, bothSides.mp same⟩
    by_cases isOr : Text.lower boolean.text = "or"
    · exact .inl isOr
    · have noOr : left.HasNoOr ∧ right.HasNoOr := by
        by_contra someOr
        have hasOr : ¬ (left.join boolean right).HasNoOr := fun noOr =>
          someOr ⟨(hasNoOr_join.mp noOr).1, (hasNoOr_join.mp noOr).2.2⟩
        have operators := operator?_expression_of_or hasOr
        rw [same, Expression.linked_of_not_or isOr] at operators
        exact absurd operators (by simp [Expression.joined, Expression.operator?])
      refine .inr ⟨noOr, fun isNot => ?_⟩
      by_contra several
      exact expression_join_ne_of_not leftFormed rightFormed leftSettled sizes noOr.1 noOr.2 isNot
        several same
  · rintro ⟨keeps, rfl, rfl⟩
    exact expression_join_of_keeps isBoolean keeps

end Chain

namespace Tree

variable {tree : Tree} {chain : Chain} {expression : Expression}

/-- Outside parentheses, the derivation has the booleans of the tree. -/
theorem Flattens.outerBooleans_eq (flattens : Flattens tree chain expression) :
    tree.outerBooleans = chain.links.map fun link => Text.lower link.1.text := by
  induction flattens with
  | word value => rfl
  | indexed name value listed => rfl
  | boosted name value listed isBoost => rfl
  | group _ _ => simp [Tree.group, outerBooleans, Chain.grouped]
  | cqlQuery _ inductionHypothesis => rwa [Tree.cqlQuery, outerBooleans]
  | singleClause _ inductionHypothesis => rwa [Tree.singleClause, outerBooleans]
  | joinedClause _ _ _ _ leftHypothesis rightHypothesis =>
    rw [Tree.joinedClause, outerBooleans, leftHypothesis, rightHypothesis, text?_boolean]
    simp [Chain.join]

/-- A flattened query has no `or` exactly if the tree has none outside parentheses. -/
theorem Flattens.hasNoOr_iff (flattens : Flattens tree chain expression) :
    chain.HasNoOr ↔ "or" ∉ tree.outerBooleans := by
  simp [flattens.outerBooleans_eq, Chain.HasNoOr, Expression.NoOr]

/-- The derivation and the tree have searches for the same clauses. -/
theorem Flattens.length_searches (flattens : Flattens tree chain expression) :
    chain.expression.searches.length = expression.searches.length := by
  induction flattens with
  | word value => rfl
  | indexed name value listed => rfl
  | boosted name value listed isBoost => rfl
  | group _ inductionHypothesis => rwa [Chain.expression_grouped]
  | cqlQuery _ inductionHypothesis => exact inductionHypothesis
  | singleClause _ inductionHypothesis => exact inductionHypothesis
  | joinedClause _ _ _ _ leftHypothesis rightHypothesis =>
    rw [Chain.length_searches_join, Expression.length_searches_linked, leftHypothesis,
      rightHypothesis]

/-- The boolean of a joined clause keeps the derivations of its sides if it keeps the sides. -/
theorem Flattens.keeps_iff {left right : Tree} {leftChain rightChain : Chain}
    {leftExpression rightExpression : Expression} {boolean : Token}
    (leftFlattens : Flattens left leftChain leftExpression)
    (rightFlattens : Flattens right rightChain rightExpression) :
    leftChain.Keeps boolean rightChain ↔
      (Text.lower boolean.text = "or" ∨
        ("or" ∉ left.outerBooleans ∧ "or" ∉ right.outerBooleans) ∧
          (Text.lower boolean.text = "not" → right.outerBooleans = [])) := by
  rw [Chain.Keeps, leftFlattens.hasNoOr_iff, rightFlattens.hasNoOr_iff,
    rightFlattens.outerBooleans_eq, List.map_eq_nil_iff]

/-- The derivation asks for the same as the tree exactly if the tree keeps precedence. By induction on the
tree. Only joined clauses can change their meaning, and `expression_join_eq_linked_iff` says when they do
not. -/
theorem Flattens.expression_eq_iff (flattens : Flattens tree chain expression) :
    chain.expression = expression ↔ tree.KeepsPrecedence := by
  induction flattens with
  | word value =>
    apply iff_of_true
    · simp [Chain.expression_ofClause, Clause.expression]
    · simp [searchClause, searchTerm, term, keepsPrecedence_node, keepsPrecedence_text]
  | indexed name value listed =>
    apply iff_of_true
    · simp [Chain.expression_ofClause, Clause.expression]
    · simp [indexedSearchClause, index, relation, comparitor, searchTerm, term,
        keepsPrecedence_node, keepsPrecedence_text]
  | boosted name value listed isBoost =>
    apply iff_of_true
    · simp [Chain.expression_ofClause, Clause.expression]
    · simp [indexedSearchClause, index, relation, comparitor, modifierList, modifier, identifier,
        searchTerm, term, keepsPrecedence_node, keepsPrecedence_text]
  | group _ inductionHypothesis =>
    rw [Chain.expression_grouped, inductionHypothesis]
    simp [Tree.group, Tree.cqlQuery, keepsPrecedence_node]
  | cqlQuery _ inductionHypothesis =>
    rw [inductionHypothesis]
    simp [Tree.cqlQuery, keepsPrecedence_node]
  | singleClause _ inductionHypothesis =>
    rw [inductionHypothesis]
    simp [Tree.singleClause, keepsPrecedence_node]
  | joinedClause isBoolean _ leftFlattens rightFlattens leftHypothesis rightHypothesis =>
    rw [Chain.expression_join_eq_linked_iff leftFlattens.formed isBoolean rightFlattens.formed
      leftFlattens.asksFor.settled rightFlattens.asksFor.settled leftFlattens.length_searches,
      leftHypothesis, rightHypothesis, leftFlattens.keeps_iff rightFlattens,
      keepsPrecedence_joinedClause]

end Tree

/-- A tree in one of the documented shapes asks for an expression. Its text is accepted if its terms can
be written, and asks for the same expression exactly if besides its booleans keep precedence without
parentheses.

Proof: the rendered text has the derivation that flattens the tree. Reading it again asks for the
expression of this derivation, which is that of the tree exactly if every joined clause within keeps
precedence. -/
theorem expressionOf_toCql_iff (kind : Kind) (tree : Tree) (documented : tree.Documented kind) :
    ∃ expression, tree.toExpression = .ok expression ∧
      (tree.Writable → ∃ reread, Tree.parse tree.toCql = .ok reread) ∧
      (Tree.expressionOf tree.toCql = .ok expression ↔ tree.Writable ∧ tree.KeepsPrecedence) := by
  obtain ⟨chain, expression, flattens⟩ := documented.exists_flattens
  have asked : tree.toExpression = .ok expression :=
    Tree.toExpression_eq_ok_iff.mpr flattens.asksFor.normalized
  have reasked := flattens.formed.toExpression_tree
  refine ⟨expression, asked, fun writable => ⟨chain.tree, flattens.parse_toCql writable⟩, ?_⟩
  constructor
  · intro found
    have writable := flattens.writable (Tree.writable_of_expressionOf found)
    obtain ⟨reread, accepted, same⟩ := Tree.expressionOf_eq_ok_iff.mp found
    obtain rfl : chain.tree = reread := by
      simpa [flattens.parse_toCql writable] using accepted
    rw [reasked] at same
    exact ⟨writable, flattens.expression_eq_iff.mp (Except.ok.inj same)⟩
  · rintro ⟨writable, keeps⟩
    rw [← flattens.expression_eq_iff.mpr keeps]
    exact Tree.expressionOf_eq_ok_iff.mpr ⟨chain.tree, flattens.parse_toCql writable, reasked⟩

/-- A tree that the parser does not build: the sides of the `and` are joined clauses themselves, and its
text is read with a last clause that belongs to the chain. -/
theorem expressionOf_toCql_iff_conjunction :
    let word (value : String) : Tree := .searchClause (.searchTerm (.term value))
    let left : Tree := .joinedClause (word "a") (.boolean "NOT") (word "the \"b\"")
    let right : Tree := .joinedClause (word "c") (.boolean "and") (word "d")
    let tree : Tree := .joinedClause left (.boolean "and") right
    tree.Documented .scopedClause ∧
    ∃ expression, tree.toCql = "a NOT \"the \\\"b\\\"\" AND c AND d" ∧
      tree.toExpression = .ok expression ∧ Tree.expressionOf tree.toCql = .ok expression := by
  intro word left right tree
  have operand : Kind.IsOperand .searchClause ∧ Kind.IsOperand .scopedClause := by
    simp [Kind.IsOperand]
  have booleans : ∀ name ∈ ["and", "NOT"], Token.IsBoolean ⟨name⟩ := by decide +kernel
  have leftDocumented : left.Documented .scopedClause :=
    .joinedClause operand.1 (booleans "NOT" (by simp)) operand.1 (.word _) (.word _)
  have rightDocumented : right.Documented .scopedClause :=
    .joinedClause operand.1 (booleans "and" (by simp)) operand.1 (.word _) (.word _)
  have documented : tree.Documented .scopedClause :=
    .joinedClause operand.2 (booleans "and" (by simp)) operand.2 leftDocumented rightDocumented
  obtain ⟨expression, asked, _, faithful⟩ := expressionOf_toCql_iff .scopedClause tree documented
  have keeps : tree.Writable ∧ tree.KeepsPrecedence := by decide +kernel
  exact ⟨documented, expression, by decide +kernel, asked, faithful.mpr keeps⟩

/-- Not every tree in one of the documented shapes is rendered faithfully: an `and` with an `or` on its
left side becomes the right side of that `or`. -/
theorem expressionOf_toCql_nested :
    let word (value : String) : Tree := .searchClause (.searchTerm (.term value))
    let left : Tree := .joinedClause (word "a") (.boolean "or") (word "b")
    let tree : Tree := .cqlQuery (.joinedClause left (.boolean "and") (word "c"))
    tree.Documented .cqlQuery ∧
    ∃ asked found, tree.toCql = "a OR b AND c" ∧ tree.toExpression = .ok asked ∧
      Tree.expressionOf tree.toCql = .ok found ∧ asked ≠ found := by
  intro word left tree
  have operand : Kind.IsOperand .searchClause ∧ Kind.IsOperand .scopedClause := by
    simp [Kind.IsOperand]
  have booleans : ∀ name ∈ ["and", "or"], Token.IsBoolean ⟨name⟩ := by decide +kernel
  have leftDocumented : left.Documented .scopedClause :=
    .joinedClause operand.1 (booleans "or" (by simp)) operand.1 (.word _) (.word _)
  have documented : tree.Documented .cqlQuery :=
    .cqlQuery (.joinedClause operand.2 (booleans "and" (by simp)) operand.1 leftDocumented (.word _))
  let chain : Chain := ⟨.word ⟨"a"⟩, [(⟨"OR"⟩, .word ⟨"b"⟩), (⟨"AND"⟩, .word ⟨"c"⟩)]⟩
  have text : tree.toCql = "a OR b AND c" := by decide +kernel
  have formed : chain.Formed Options.standard := by decide +kernel
  have derives : Tree.Derives tree.toCql chain := ⟨by rw [text]; cbv, formed⟩
  refine ⟨documented, _, _, text, rfl, derives.expressionOf, ?_⟩
  intro same
  have operators := congrArg Expression.operator? same
  exact absurd operators (by decide +kernel)

end ContextualQuery
