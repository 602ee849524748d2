import ContextualQuery.Proofs.Expression.Derived
import ContextualQuery.Proofs.Parser.Acceptance
import ContextualQuery.Proofs.Token.Joining

/-!
# Joined queries

Query texts can be joined as texts. A query in parentheses asks for what the query asks for. Two
queries around `or` ask for the same as both in parentheses around `or`, because an `or` ends the
run before it. For `and` this holds of queries that have no `or` outside parentheses: an `or` of the
left query would keep the `and` from what stands in front of it.

The trees of the texts with and without parentheses differ. The derivations show why the expressions
do not: the links of the right query follow those of the left one, and links can be cut at the
boolean in between.
-/

namespace ContextualQuery

namespace Chain

/-! ### Derivations -/

/-- The query in parentheses. -/
def grouped (chain : Chain) : Chain := { head := .group chain.head chain.links, links := [] }

/-- Two queries around a boolean. The links of the right query follow those of the left one. -/
def join (left : Chain) (boolean : Token) (right : Chain) : Chain :=
  { head := left.head, links := left.links ++ (boolean, right.head) :: right.links }

/-- The tokens of a query in parentheses stand between the two parentheses. -/
theorem tokens_grouped (chain : Chain) :
    chain.grouped.tokens = ⟨"("⟩ :: (chain.tokens ++ [⟨")"⟩]) := by
  rw [tokens, grouped, tokens_group, Clause.linkTokens, List.append_nil]

/-- The tokens of two joined queries stand on the two sides of the boolean. -/
theorem tokens_join (left : Chain) (boolean : Token) (right : Chain) :
    (left.join boolean right).tokens = left.tokens ++ boolean :: right.tokens := by
  simp [tokens, join, Clause.linkTokens_append, Clause.linkTokens]

variable {options : Options} {chain left right : Chain} {boolean : Token}

/-- A query of the grammar is one in parentheses as well. -/
theorem Formed.grouped (formed : chain.Formed options) : chain.grouped.Formed options := by
  constructor
  case head => exact .group formed.head formed.booleans formed.clauses
  case booleans => simp [Chain.grouped]
  case clauses => simp [Chain.grouped]

/-- Two queries of the grammar around a boolean are one of the grammar. -/
theorem Formed.join (leftFormed : left.Formed options) (isBoolean : boolean.IsBoolean)
    (rightFormed : right.Formed options) : (left.join boolean right).Formed options := by
  constructor
  case head => exact leftFormed.head
  case booleans =>
    rw [Chain.join, List.forall_mem_append]
    exact ⟨leftFormed.booleans, List.forall_mem_cons.mpr ⟨isBoolean, rightFormed.booleans⟩⟩
  case clauses =>
    rw [Chain.join, List.forall_mem_append]
    exact ⟨leftFormed.clauses, List.forall_mem_cons.mpr ⟨rightFormed.head, rightFormed.clauses⟩⟩

/-! ### Expressions -/

/-- A query has the expression of the query in parentheses. -/
theorem expression_grouped (chain : Chain) : chain.grouped.expression = chain.expression := rfl

/-- The right query becomes one more link with its first clause, and its own links follow. -/
theorem linkExpressions_join (left : Chain) (boolean : Token) (right : Chain) :
    Clause.linkExpressions (left.join boolean right).links =
      Clause.linkExpressions left.links ++
        (boolean, right.head.expression) :: Clause.linkExpressions right.links := by
  simp [join, Clause.linkExpressions_eq_map]

/-- Two queries around `or` join their expressions. -/
theorem expression_join_or (isOr : Text.lower boolean.text = "or") :
    (left.join boolean right).expression =
      .joined .or left.expression right.expression := by
  rw [expression, linkExpressions_join]
  exact Expression.linkedAfter_or isOr

/-- The clauses of the query are linked without an `or`. -/
def HasNoOr (chain : Chain) : Prop := Expression.NoOr chain.links

/-- Whether a chain has an `or` is decided by looking at its links. -/
instance (chain : Chain) : Decidable chain.HasNoOr :=
  inferInstanceAs (Decidable (Expression.NoOr chain.links))

/-- A chain without `or` gives expressions that are linked without `or`. -/
theorem HasNoOr.linkExpressions (hasNoOr : chain.HasNoOr) :
    Expression.NoOr (Clause.linkExpressions chain.links) := by
  intro link member
  rw [Clause.linkExpressions_eq_map] at member
  obtain ⟨clause, isLink, rfl⟩ := List.mem_map.mp member
  exact hasNoOr clause isLink

/-- A query in parentheses has no links. -/
theorem hasNoOr_grouped (chain : Chain) : chain.grouped.HasNoOr := by
  simp [HasNoOr, Expression.NoOr, grouped]

/-- Two queries around `and` join their expressions if neither of them has an `or`. -/
theorem expression_join_and (isAnd : Text.lower boolean.text = "and") (leftNoOr : left.HasNoOr)
    (rightNoOr : right.HasNoOr) :
    (left.join boolean right).expression =
      .joined .and left.expression right.expression := by
  rw [expression, linkExpressions_join]
  exact Expression.linkedAfter_and isAnd leftNoOr.linkExpressions rightNoOr.linkExpressions

end Chain

/-! ### Texts -/

namespace Tree

/-- The text is derived as a query: it is split into the tokens of a derivation. -/
structure Derives (text : String) (chain : Chain) : Prop where
  split : Token.tokenize text = .ok chain.tokens
  formed : chain.Formed Options.standard

/-- The text is derived as a query without an `or` outside parentheses. -/
def HasNoOuterOr (text : String) : Prop := ∃ chain : Chain, Derives text chain ∧ chain.HasNoOr

variable {left right text name : String} {chain leftChain rightChain : Chain}

/-- A text that is derived asks for the expression of its derivation. -/
theorem Derives.expressionOf (derives : Derives text chain) :
    Tree.expressionOf text = .ok chain.expression := by
  rw [Tree.expressionOf, parse, parseWith_of_chain derives.split derives.formed]
  change chain.tree.toExpression.mapError _ = _
  rw [derives.formed.toExpression_tree]
  rfl

/-- If a text is derived as a query, the text in parentheses is derived as the query in
parentheses. -/
theorem Derives.grouped (derives : Derives text chain) :
    Derives ("(" ++ text ++ ")") chain.grouped := by
  constructor
  case split =>
    rw [Chain.tokens_grouped]
    exact Token.tokenize_group derives.split
  case formed => exact derives.formed.grouped

/-- If two texts are derived as queries, both around a boolean are derived as the joined queries. -/
theorem Derives.join (leftDerives : Derives left leftChain)
    (rightDerives : Derives right rightChain) (isBareWord : Token.IsBareWord name.toList)
    (isBoolean : Token.IsBoolean ⟨name⟩) :
    Derives (left ++ (" " ++ name ++ " ") ++ right) (leftChain.join ⟨name⟩ rightChain) := by
  constructor
  case split =>
    rw [Chain.tokens_join]
    exact Token.tokenize_linked leftDerives.split rightDerives.split isBareWord
  case formed => exact leftDerives.formed.join isBoolean rightDerives.formed

/-- Two queries around `or` ask for the expressions of both, joined by `or`. -/
theorem Derives.expressionOf_or (leftDerives : Derives left leftChain)
    (rightDerives : Derives right rightChain) :
    Tree.expressionOf (left ++ " or " ++ right) =
      .ok (.joined .or leftChain.expression rightChain.expression) := by
  have lower : Text.lower "or" = "or" := Token.lower_stable _ (by simp)
  have isBareWord := (Token.needsQuotes_eq_false_iff "or").mp (by decide)
  have derives := leftDerives.join rightDerives isBareWord (.inr (.inl lower))
  rw [← Chain.expression_join_or lower]
  exact derives.expressionOf

/-- Two queries around `and` ask for the expressions of both, joined by `and`, if neither has an
`or` outside parentheses. -/
theorem Derives.expressionOf_and (leftDerives : Derives left leftChain)
    (rightDerives : Derives right rightChain) (leftNoOr : leftChain.HasNoOr)
    (rightNoOr : rightChain.HasNoOr) :
    Tree.expressionOf (left ++ " and " ++ right) =
      .ok (.joined .and leftChain.expression rightChain.expression) := by
  have lower : Text.lower "and" = "and" := Token.lower_stable _ (by simp)
  have isBareWord := (Token.needsQuotes_eq_false_iff "and").mp (by decide)
  have derives := leftDerives.join rightDerives isBareWord (.inl lower)
  rw [← Chain.expression_join_and lower leftNoOr rightNoOr]
  exact derives.expressionOf

/-- The parentheses around two sides, as part of the text of each side. -/
theorem grouped_sides (left middle right : String) :
    "(" ++ left ++ (")" ++ middle ++ "(") ++ right ++ ")" =
      "(" ++ left ++ ")" ++ middle ++ ("(" ++ right ++ ")") := by
  rw [← String.toList_inj]
  simp

end Tree

/-- Joining queries as texts respects precedence and grouping. Parentheses around a query and around the
sides of an `or` do not change what it asks for, and those around the sides of an `and` do not if neither
side has an `or` outside parentheses.

Proof: texts that are put together have the derivations that are put together from those of the sides. A
group asks for what its query asks for, and without an `or` on either side joining queries is linking
their expressions. -/
theorem expressionOf_joined (left right : String) (leftTree rightTree : Tree)
    (leftAccepted : Tree.parse left = .ok leftTree)
    (rightAccepted : Tree.parse right = .ok rightTree) :
    (∃ expression, Tree.expressionOf ("(" ++ left ++ ")") = .ok expression ∧
      Tree.expressionOf left = .ok expression) ∧
    (∃ expression, Tree.expressionOf (left ++ " or " ++ right) = .ok expression ∧
      Tree.expressionOf ("(" ++ left ++ ") or (" ++ right ++ ")") = .ok expression) ∧
    (Tree.HasNoOuterOr left → Tree.HasNoOuterOr right →
      ∃ expression, Tree.expressionOf (left ++ " and " ++ right) = .ok expression ∧
        Tree.expressionOf ("(" ++ left ++ ") and (" ++ right ++ ")") = .ok expression) := by
  obtain ⟨leftChain, leftSplit, leftFormed, _⟩ := exists_chain_of_parseWith leftAccepted
  obtain ⟨rightChain, rightSplit, rightFormed, _⟩ := exists_chain_of_parseWith rightAccepted
  have leftDerives : Tree.Derives left leftChain := ⟨leftSplit, leftFormed⟩
  have rightDerives : Tree.Derives right rightChain := ⟨rightSplit, rightFormed⟩
  constructor
  · have grouped := leftDerives.grouped.expressionOf
    rw [Chain.expression_grouped] at grouped
    exact ⟨_, grouped, leftDerives.expressionOf⟩
  constructor
  · have grouped := leftDerives.grouped.expressionOf_or rightDerives.grouped
    rw [Chain.expression_grouped, Chain.expression_grouped, ← Tree.grouped_sides] at grouped
    exact ⟨_, leftDerives.expressionOf_or rightDerives, grouped⟩
  · rintro ⟨leftChain, leftDerives, leftNoOr⟩ ⟨rightChain, rightDerives, rightNoOr⟩
    have grouped := leftDerives.grouped.expressionOf_and rightDerives.grouped
      leftChain.hasNoOr_grouped rightChain.hasNoOr_grouped
    rw [Chain.expression_grouped, Chain.expression_grouped, ← Tree.grouped_sides] at grouped
    exact ⟨_, leftDerives.expressionOf_and rightDerives leftNoOr rightNoOr, grouped⟩

/-- The `or` in the group of the left side does not matter to the `and` between the sides. -/
theorem expressionOf_joined_group :
    let group : Expression := .nested .or [.ofTerm "b", .ofTerm "c"] false
    let negated : Expression := .search { term := "e", mustNot := true }
    let leftSide : Expression := .nested .and [.ofTerm "a", group] false
    let rightSide : Expression := .nested .and [.ofTerm "d", negated] false
    let either : Expression := .nested .or [leftSide, rightSide] false
    let both : Expression := .nested .and [.ofTerm "a", group, .ofTerm "d", negated] false
    (Tree.expressionOf "(a and (b or c))" = .ok leftSide ∧
      Tree.expressionOf "a and (b or c)" = .ok leftSide) ∧
    (Tree.expressionOf "a and (b or c) or d not e" = .ok either ∧
      Tree.expressionOf "(a and (b or c)) or (d not e)" = .ok either) ∧
    Tree.expressionOf "a and (b or c) and d not e" = .ok both ∧
      Tree.expressionOf "(a and (b or c)) and (d not e)" = .ok both := by
  intro group negated leftSide rightSide either both
  let disjunction : Clause := .group (.word ⟨"b"⟩) [(⟨"or"⟩, .word ⟨"c"⟩)]
  let left : Chain := ⟨.word ⟨"a"⟩, [(⟨"and"⟩, disjunction)]⟩
  let right : Chain := ⟨.word ⟨"d"⟩, [(⟨"not"⟩, .word ⟨"e"⟩)]⟩
  have leftFormed : left.Formed Options.standard := by decide +kernel
  have rightFormed : right.Formed Options.standard := by decide +kernel
  have leftSplit : Token.tokenize "a and (b or c)" = .ok left.tokens := by cbv
  have rightSplit : Token.tokenize "d not e" = .ok right.tokens := by cbv
  have leftNoOr : left.HasNoOr := by decide +kernel
  have rightNoOr : right.HasNoOr := by decide +kernel
  have leftDerives : Tree.Derives "a and (b or c)" left := ⟨leftSplit, leftFormed⟩
  have rightDerives : Tree.Derives "d not e" right := ⟨rightSplit, rightFormed⟩
  obtain ⟨⟨_, leftGrouped, leftPlain⟩, ⟨_, orPlain, orGrouped⟩, conjoined⟩ :=
    expressionOf_joined _ _ _ _ (parseWith_of_chain leftSplit leftFormed)
      (parseWith_of_chain rightSplit rightFormed)
  obtain ⟨_, andPlain, andGrouped⟩ := conjoined ⟨left, leftDerives, leftNoOr⟩
    ⟨right, rightDerives, rightNoOr⟩
  -- Of each pair the text without the parentheses is derived, and its expression is computed.
  obtain rfl := Except.ok.inj (leftPlain.symm.trans leftDerives.expressionOf)
  obtain rfl := Except.ok.inj (orPlain.symm.trans (leftDerives.expressionOf_or rightDerives))
  obtain rfl := Except.ok.inj
    (andPlain.symm.trans (leftDerives.expressionOf_and rightDerives leftNoOr rightNoOr))
  have leftSame : left.expression = leftSide := rfl
  have orSame : Expression.joined .or left.expression right.expression = either := rfl
  have andSame : Expression.joined .and left.expression right.expression = both := rfl
  exact ⟨⟨leftSame ▸ leftGrouped, leftSame ▸ leftPlain⟩, ⟨orSame ▸ orPlain, orSame ▸ orGrouped⟩,
    andSame ▸ andPlain, andSame ▸ andGrouped⟩

end ContextualQuery
