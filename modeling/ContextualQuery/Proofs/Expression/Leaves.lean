import ContextualQuery.Proofs.Expression.Derived
import ContextualQuery.Proofs.Expression.Searches
import ContextualQuery.Proofs.Expression.Value
import ContextualQuery.Proofs.Parser.Acceptance

/-!
# The search clauses of a query

The tokens of a query can be read as a plain list, without regard to how its clauses are grouped:
parentheses are passed over, and what remains are search clauses with a boolean between each two. The
normalized expression of the query shows the same list. Its leaves are the search clauses in their
order, none of them lost or repeated, and it has as many negated parts as the list has `not`.

Normalizing moves operands from one list to another and negates whole parts. It does neither with an
operand that it would lose sight of: only an expression that is not negated gives up its operands, so
no flag is dropped, and only an expression that is not negated yet is negated, so no two flags fall
together.
-/

namespace ContextualQuery

/-! ### The plain reading of tokens -/

/-- What stands in a query besides parentheses: a search clause, by what it asks for, or a boolean. -/
inductive Item where
  | clause (leaf : Leaf)
  | boolean (token : Token)

namespace Item

/-- What a search clause asks for. -/
def leaf? : Item → Option Leaf
  | clause leaf => some leaf
  | boolean _ => none

/-- The item is the boolean `not`, in any mixture of cases. -/
def isNot : Item → Bool
  | clause _ => false
  | boolean token => Text.lower token.text == "not"

end Item

namespace Token

/-- The search clause of an index and a comparitor, and the tokens behind it. A modifier has four tokens
between the comparitor and the term, of which the last is the boost. -/
def relationLeaf (index comparitor : Token) : List Token → Leaf × List Token
  | ⟨"/"⟩ :: _name :: _equals :: boost :: term :: behind =>
    ({ index? := some index.unquote
       relation? := some comparitor.text
       term := term.unquote
       boost? := Binary64.read? boost.unquote }, behind)
  | term :: behind =>
    ({ index? := some index.unquote, relation? := some comparitor.text, term := term.unquote },
      behind)
  | [] => ({ term := index.unquote }, [])

/-- The search clause that starts with a term, and the tokens behind it. The term is an index if a
comparitor follows. -/
def leafAt (first : Token) : List Token → Leaf × List Token
  | next :: rest =>
    if isComparitor next.text then relationLeaf first next rest
    else ({ term := first.unquote }, next :: rest)
  | [] => ({ term := first.unquote }, [])

/-- Reading the relation of a leaf takes tokens off, so the reading ends. -/
theorem length_relationLeaf_le (index comparitor : Token) (rest : List Token) :
    (relationLeaf index comparitor rest).2.length ≤ rest.length := by
  unfold relationLeaf
  split
  · simp only [List.length_cons]
    omega
  · simp
  · simp

/-- Reading a leaf takes tokens off, so the reading ends. -/
theorem length_leafAt_le (first : Token) (rest : List Token) :
    (leafAt first rest).2.length ≤ rest.length := by
  unfold leafAt
  split
  · split
    · exact Nat.le_succ_of_le (length_relationLeaf_le first _ _)
    · simp
  · simp

/-- The items of the tokens of a query, from the left. The tokens start with a clause, or behind one. -/
def items (behindClause : Bool) : List Token → List Item
  | [] => []
  | token :: rest =>
    if behindClause then
      if token.text = ")" then items true rest else .boolean token :: items false rest
    else if token.text = "(" then items false rest
    else .clause (leafAt token rest).1 :: items true (leafAt token rest).2
termination_by tokens => tokens.length
decreasing_by
  · simp
  · simp
  · simp
  · exact Nat.lt_succ_of_le (length_leafAt_le token rest)

/-- What the search clauses among the tokens of a query ask for, from the left. -/
def leaves (tokens : List Token) : List Leaf := (items false tokens).filterMap Item.leaf?

/-- The number of `not` among the booleans of the tokens of a query. -/
def negations (tokens : List Token) : Nat := (items false tokens).countP Item.isNot

variable {token : Token} {rest : List Token}

/-- An opening parenthesis is passed over in front of a leaf. -/
theorem items_opening : items false (⟨"("⟩ :: rest) = items false rest := by
  rw [items]
  simp

/-- A closing parenthesis is passed over behind a leaf. -/
theorem items_closing : items true (⟨")"⟩ :: rest) = items true rest := by
  rw [items]
  simp

/-- A boolean is followed by a clause. -/
theorem items_boolean (isBoolean : token.IsBoolean) :
    items true (token :: rest) = .boolean token :: items false rest := by
  have notClosing : token.text ≠ ")" := by
    intro same
    have lower := lower_stable ")" (by simp)
    rcases isBoolean with name | name | name
    all_goals
      rw [same, lower] at name
      exact absurd name (by decide)
  rw [items]
  simp [notClosing]

/-- A search clause starts with a term. -/
theorem items_leaf (isTerm : token.IsTerm) :
    items false (token :: rest) = .clause (leafAt token rest).1 :: items true (leafAt token rest).2 := by
  have notOpening : token.text ≠ "(" := Grammar.text_ne_of_isTerm isTerm (by decide)
  rw [items]
  simp [notOpening]

end Token

/-! ### The items of a derivation -/

namespace Clause

mutual

/-- The items of a clause. -/
def items : Clause → List Item
  | .word term => [.clause { term := term.unquote }]
  | .indexed index comparitor term =>
    [.clause
      { index? := some index.unquote, relation? := some comparitor.text, term := term.unquote }]
  | .boosted index comparitor boost term =>
    [.clause
      { index? := some index.unquote
        relation? := some comparitor.text
        term := term.unquote
        boost? := Binary64.read? boost.unquote }]
  | .group head links => items head ++ linkItems links

/-- The items of booleans with their clauses. -/
def linkItems : List (Token × Clause) → List Item
  | [] => []
  | (boolean, clause) :: rest => .boolean boolean :: (items clause ++ linkItems rest)

end

end Clause

variable {options : Options} {rest : List Token}

/-- What follows a clause in a chain is read after it. -/
theorem Token.items_linkTokens {links : List (Token × Clause)}
    (booleans : ∀ link ∈ links, link.1.IsBoolean)
    (clauses : ∀ link ∈ links, ∀ rest, Grammar.EndsClause rest →
      items false (link.2.tokens ++ rest) = link.2.items ++ items true rest)
    (ends : Grammar.EndsQuery rest) :
    items true (Clause.linkTokens links ++ rest) = Clause.linkItems links ++ items true rest := by
  induction links with
  | nil => rfl
  | cons link links inductionHypothesis =>
    obtain ⟨boolean, clause⟩ := link
    obtain ⟨isBoolean, laterBooleans⟩ := List.forall_mem_cons.mp booleans
    obtain ⟨readsClause, laterClauses⟩ := List.forall_mem_cons.mp clauses
    have clauseEnds := Grammar.endsClause_linkTokens laterBooleans ends
    rw [Clause.linkTokens, Clause.linkItems, List.cons_append, items_boolean isBoolean,
      List.append_assoc, readsClause _ clauseEnds, inductionHypothesis laterBooleans laterClauses,
      List.cons_append, List.append_assoc]

/-- The tokens of a clause have the items of the clause. By induction on the derivation. The word is the
delicate case: it is not taken for an index because no comparitor follows the clause. -/
theorem Clause.Formed.items_tokens {clause : Clause} (formed : clause.Formed options)
    (ends : Grammar.EndsClause rest) :
    Token.items false (clause.tokens ++ rest) = clause.items ++ Token.items true rest := by
  induction formed generalizing rest with
  | @word term isTerm =>
    have word : Token.leafAt term rest = ({ term := term.unquote }, rest) := by
      cases rest with
      | nil => rfl
      | cons next behind => rw [Token.leafAt, if_neg (by simp [ends next (by simp)])]
    rw [tokens, items, List.cons_append, Token.items_leaf isTerm, List.nil_append, word]
    rfl
  | @indexed index comparitor term indexIsTerm supported isTerm =>
    have notSlash : term ≠ ⟨"/"⟩ := by
      rintro rfl
      exact absurd isTerm (by decide)
    have indexed : Token.leafAt index (comparitor :: term :: rest) =
        ({ index? := some index.unquote, relation? := some comparitor.text, term := term.unquote },
          rest) := by
      rw [Token.leafAt, if_pos supported.1, Token.relationLeaf]
      simp [notSlash]
    rw [tokens, items, List.cons_append, Token.items_leaf indexIsTerm]
    simp [indexed]
  | @boosted index comparitor boost term indexIsTerm supported =>
    have boosted : Token.leafAt index
        (comparitor :: ⟨"/"⟩ :: ⟨boostModifier⟩ :: ⟨"="⟩ :: boost :: term :: rest) =
        ({ index? := some index.unquote
           relation? := some comparitor.text
           term := term.unquote
           boost? := Binary64.read? boost.unquote }, rest) := by
      rw [Token.leafAt, if_pos supported.1, Token.relationLeaf]
    rw [tokens, items, List.cons_append, Token.items_leaf indexIsTerm]
    simp [boosted]
  | @group head links headFormed booleans _ headHypothesis linkHypothesis =>
    have closing : Grammar.EndsQuery (⟨")"⟩ :: rest) := by simp [Grammar.EndsQuery]
    have headEnds := Grammar.endsClause_linkTokens booleans closing
    rw [tokens, items, List.cons_append, Token.items_opening, List.append_assoc, List.append_assoc,
      List.singleton_append, headHypothesis headEnds,
      Token.items_linkTokens booleans (fun link member _ => linkHypothesis link member) closing,
      Token.items_closing, List.append_assoc]

/-- The items of a query. -/
def Chain.items (chain : Chain) : List Item := chain.head.items ++ Clause.linkItems chain.links

/-- The tokens of a query have the items of the query. -/
theorem Chain.Formed.items_tokens {chain : Chain} (formed : chain.Formed options) :
    Token.items false chain.tokens = chain.items := by
  have nothing : Grammar.EndsQuery [] := by simp [Grammar.EndsQuery]
  have readsLinks := Token.items_linkTokens formed.booleans
    (fun link member _ => (formed.clauses link member).items_tokens) nothing
  have headEnds := Grammar.endsClause_linkTokens formed.booleans nothing
  have readsHead := formed.head.items_tokens headEnds
  rw [readsLinks, List.append_nil, Token.items, List.append_nil] at readsHead
  exact readsHead

/-! ### The items of an expression -/

namespace Expression

mutual

/-- The number of negated expressions within an expression, itself included. -/
def negations : Expression → Nat
  | .nested _ operands mustNot => (if mustNot then 1 else 0) + negationsAll operands
  | .search parts => if parts.mustNot then 1 else 0

/-- The number of negated expressions within a list of expressions. -/
def negationsAll : List Expression → Nat
  | [] => 0
  | head :: tail => negations head + negationsAll tail

end

variable {left right run : Expression} {leftItems rightItems runItems : List Item} {boolean : Token}

/-- The negations of two lists add up. -/
theorem negationsAll_append (left right : List Expression) :
    negationsAll (left ++ right) = negationsAll left + negationsAll right := by
  induction left with
  | nil => simp [negationsAll]
  | cons head tail inductionHypothesis => simp [negationsAll, inductionHypothesis, Nat.add_assoc]

/-- Merged or not, a side brings its negated expressions: it is merged only if it is not negated. -/
theorem negationsAll_operandsUnder (operator : Operator) (expression : Expression) :
    negationsAll (expression.operandsUnder operator) = expression.negations := by
  cases expression with
  | search parts => simp [operandsUnder, negationsAll]
  | nested inner operands mustNot =>
    by_cases same : inner = operator ∧ mustNot = false
    · simp [operandsUnder, same, negations]
    · simp [operandsUnder, same, negationsAll]

/-- Joining two expressions negates nothing and loses no negation. -/
theorem negations_joined (operator : Operator) (left right : Expression) :
    (joined operator left right).negations = left.negations + right.negations := by
  rw [joined, negations, negationsAll_append, negationsAll_operandsUnder,
    negationsAll_operandsUnder]
  simp

/-- Negating an expression that is not negated adds one flag. -/
theorem negations_negated (plain : right.mustNot = false) :
    right.negated.negations = right.negations + 1 := by
  cases right with
  | nested operator operands mustNot =>
    obtain rfl : mustNot = false := plain
    simp [negated, setMustNot, negations, Nat.add_comm]
  | search parts =>
    have plain : parts.mustNot = false := plain
    simp [negated, setMustNot, negations, plain]

/-- A flag does not matter to what the searches ask for. -/
theorem map_leaf_searches_negated (right : Expression) :
    right.negated.searches.map Search.leaf = right.searches.map Search.leaf := by
  cases right with
  | nested operator operands mustNot => rfl
  | search parts => rfl

/-- The expression shows the items: its searches ask for what the search clauses ask for, in their
order, and it has a negated part for every `not`. -/
structure Shows (expression : Expression) (items : List Item) : Prop where
  leaves : expression.searches.map Search.leaf = items.filterMap Item.leaf?
  negations : expression.negations = items.countP Item.isNot

/-- A search that is not negated shows its leaf alone. -/
theorem shows_search {parts : Search} (plain : parts.mustNot = false) :
    (Expression.search parts).Shows [.clause parts.leaf] := by
  constructor
  · rfl
  · simp [Expression.negations, plain, Item.isNot]

/-- Linking two sides by a boolean puts it between their items. -/
theorem Shows.linked (leftShows : left.Shows leftItems) (rightShows : right.Shows rightItems)
    (plain : right.mustNot = false) (boolean : Token) :
    (left.linked boolean right).Shows (leftItems ++ .boolean boolean :: rightItems) := by
  constructor
  case leaves =>
    have side : (linkSide boolean right).searches.map Search.leaf =
        right.searches.map Search.leaf := by
      rw [linkSide]
      split
      · exact map_leaf_searches_negated right
      · rfl
    rw [Expression.linked, searches_joined, List.map_append, side, leftShows.leaves,
      rightShows.leaves, List.filterMap_append, List.filterMap_cons_none rfl]
  case negations =>
    have side : (linkSide boolean right).negations =
        right.negations + if Item.isNot (.boolean boolean) then 1 else 0 := by
      by_cases isNot : Text.lower boolean.text = "not"
      · simp [linkSide, Item.isNot, isNot, negations_negated plain]
      · simp [linkSide, Item.isNot, isNot]
    rw [Expression.linked, negations_joined, side, leftShows.negations, rightShows.negations,
      List.countP_append, List.countP_cons]

/-- The clauses that follow a run are shown behind it. -/
theorem Shows.linkedAfter (runShows : run.Shows runItems) {links : List (Token × Clause)}
    (clausesShow : ∀ link ∈ links, link.2.expression.Shows link.2.items) :
    (run.linkedAfter (Clause.linkExpressions links)).Shows (runItems ++ Clause.linkItems links) := by
  induction links generalizing run runItems with
  | nil => simpa [Clause.linkItems, Clause.linkExpressions, Expression.linkedAfter] using runShows
  | cons link rest inductionHypothesis =>
    obtain ⟨boolean, clause⟩ := link
    obtain ⟨clauseShows, restShow⟩ := List.forall_mem_cons.mp clausesShow
    have plain := clause.mustNot_expression
    rw [Clause.linkExpressions, Clause.linkItems, Expression.linkedAfter]
    split
    · exact runShows.linked (inductionHypothesis clauseShows restShow)
        (mustNot_linkedAfter plain _) boolean
    · have linkedShows := inductionHypothesis (runShows.linked clauseShows plain boolean) restShow
      rwa [List.append_assoc, List.cons_append] at linkedShows

end Expression

open Expression

/-- The expression of a clause shows the items of the clause. -/
theorem Clause.shows_items (clause : Clause) : clause.expression.Shows clause.items := by
  induction clause with
  | word term => exact shows_search rfl
  | indexed index comparitor term => exact shows_search rfl
  | boosted index comparitor boost term => exact shows_search rfl
  | group head links headShows linksShow =>
    rw [expression, items]
    exact headShows.linkedAfter linksShow

/-- The expression of a query shows the items of the query. -/
theorem Chain.shows_items (chain : Chain) : chain.expression.Shows chain.items :=
  chain.head.shows_items.linkedAfter fun link _ => link.2.shows_items

/-- The leaves of the expression of an accepted text are the search clauses among its tokens, from the
left, and as many parts of the expression are negated as booleans among the tokens are `not`.

Proof: the items that are read off the tokens are those of the derivation, whose expression shows them in
the same order. -/
theorem leaves_of_parseWith (options : Options) (text : String) (tree : Tree)
    (accepted : Tree.parseWith options text = .ok tree) :
    ∃ tokens expression, Token.tokenize text = .ok tokens ∧ tree.toExpression = .ok expression ∧
      expression.searches.map Search.leaf = Token.leaves tokens ∧
      expression.negations = Token.negations tokens := by
  obtain ⟨chain, split, formed, rfl⟩ := exists_chain_of_parseWith accepted
  refine ⟨chain.tokens, chain.expression, split, formed.toExpression_tree, ?_, ?_⟩
  · rw [Token.leaves, formed.items_tokens]
    exact chain.shows_items.leaves
  · rw [Token.negations, formed.items_tokens]
    exact chain.shows_items.negations

/-- Of the words `and` and `not` two are terms, and the two booleans `not` negate a group and a term. The
modifier is no clause. -/
theorem leaves_of_parseWith_keywords :
    ∃ tree,
      Tree.parseWith Options.standard "title any /boost=2.5 and not (b or not NOT c)" = .ok tree ∧
      ∃ tokens expression,
        Token.tokenize "title any /boost=2.5 and not (b or not NOT c)" = .ok tokens ∧
        tree.toExpression = .ok expression ∧
        expression.searches.map Search.leaf = Token.leaves tokens ∧
        expression.negations = Token.negations tokens ∧
        expression.searches.map (·.term) = ["and", "b", "not", "c"] ∧ expression.negations = 2 := by
  let boosted : Clause := .boosted ⟨"title"⟩ ⟨"any"⟩ ⟨"2.5"⟩ ⟨"and"⟩
  let disjunction : Clause :=
    .group (.word ⟨"b"⟩) [(⟨"or"⟩, .word ⟨"not"⟩), (⟨"NOT"⟩, .word ⟨"c"⟩)]
  let chain : Chain := ⟨boosted, [(⟨"not"⟩, disjunction)]⟩
  have split :
      Token.tokenize "title any /boost=2.5 and not (b or not NOT c)" = .ok chain.tokens := by cbv
  have formed : chain.Formed Options.standard := by decide +kernel
  have accepted := parseWith_of_chain split formed
  obtain ⟨tokens, expression, splits, found, leaves, negations⟩ := leaves_of_parseWith _ _ _ accepted
  refine ⟨chain.tree, accepted, tokens, expression, splits, found, leaves, negations, ?_⟩
  obtain rfl := Except.ok.inj (formed.toExpression_tree.symm.trans found)
  exact ⟨rfl, rfl⟩

end ContextualQuery
