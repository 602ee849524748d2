import ContextualQuery.Proofs.Expression.Joining
import ContextualQuery.Proofs.Number.Characters
import ContextualQuery.Proofs.Rendering.RoundTrip
import ContextualQuery.Proofs.Tree.Documented

/-!
# Trees without the nesting of their scoped clauses

The text of a tree has the clauses of nested scoped clauses in a row. `Flattens` relates a tree in one of
the documented shapes to the derivation with these clauses as its chain, which has the same text, and to
the expression that the tree asks for, which need not be that of the derivation. If the terms of the
tree can be written, its text is split into the words of that derivation, and it is read as the tree
that the parser builds of the derivation.
-/

namespace ContextualQuery

namespace Token

/-- The word that writes a term. -/
def ofTerm (term : String) : Token := ⟨quoteTerm term⟩

/-- Unquoting undoes the quoting of a term. -/
@[simp] theorem unquote_ofTerm (term : String) : (ofTerm term).unquote = term :=
  unquote_quoteTerm term

/-- What writes a term is a term of the grammar. -/
theorem isTerm_ofTerm (term : String) : (ofTerm term).IsTerm := by
  have requoted := isTerm_requoted (ofTerm term)
  rwa [Token.requoted, unquote_ofTerm] at requoted

/-- A term that needs quotes is written with a quote at the front. -/
theorem toList_ofTerm_of_needsQuotes {term : String} (needed : needsQuotes term = true) :
    (ofTerm term).text.toList = '"' :: (escapeQuotes term.toList ++ ['"']) := by
  simp [ofTerm, quoteTerm, needed]

/-- Escaping leaves no quote without a backslash before it. -/
theorem escapedAfter_escapeQuotes (escaped : Bool) (chars : List Char) :
    escapedAfter escaped (escapeQuotes chars) = true := by
  induction chars generalizing escaped with
  | nil => rfl
  | cons c rest inductionHypothesis =>
    by_cases quote : c = '"'
    · simp [escapeQuotes, quote, escapedAfter, inductionHypothesis]
    · simp [escapeQuotes, quote, escapedAfter, inductionHypothesis]

/-- Escaping keeps the last character. -/
theorem getLast?_escapeQuotes (chars : List Char) :
    (escapeQuotes chars).getLast? = chars.getLast? := by
  induction chars with
  | nil => rfl
  | cons c rest inductionHypothesis =>
    by_cases quote : c = '"'
    · simp [escapeQuotes, quote, List.getLast?_cons, inductionHypothesis]
    · simp [escapeQuotes, quote, List.getLast?_cons, inductionHypothesis]

/-- A term that needs quotes is written as a quoted word, if it can be written. -/
theorem IsWritable.isQuotedWord {term : String} (writable : IsWritable term)
    (needed : needsQuotes term = true) : IsQuotedWord (ofTerm term).text.toList := by
  refine ⟨escapeQuotes term.toList, toList_ofTerm_of_needsQuotes needed, ?_, ?_⟩
  · exact (quotesEscaped_iff _).mpr (escapedAfter_escapeQuotes false _)
  · rw [getLast?_escapeQuotes]
    exact writable needed

/-- A term that can be written is written as a word of the language. -/
theorem IsWritable.isLexeme {term : String} (writable : IsWritable term) :
    IsLexeme (ofTerm term).text.toList := by
  by_cases needed : needsQuotes term = true
  · exact .inr (.inr (writable.isQuotedWord needed))
  · have bare := (needsQuotes_eq_false_iff term).mp (by simpa using needed)
    exact .inr (.inl (by simpa [ofTerm, quoteTerm, needed] using bare))

/-- A bare word needs no quotes, so it can be written. -/
theorem isWritable_of_isBareWord {term : String} (bare : IsBareWord term.toList) :
    IsWritable term := by
  intro needed
  rw [(needsQuotes_eq_false_iff term).mpr bare] at needed
  exact absurd needed (by simp)

/-- The standard options have the comparitors of the language. -/
theorem isComparitor_of_mem {comparitor : String} (listed : comparitor ∈ comparitors) :
    IsComparitor Options.standard ⟨comparitor⟩ := by
  have known := Options.isComparitor_of_mem listed
  exact ⟨known, by rwa [Options.supportsComparitor_standard]⟩

end Token

namespace Chain

/-- A query without booleans. -/
def ofClause (clause : Clause) : Chain := { head := clause, links := [] }

/-- A clause of the grammar alone is a query of the grammar. -/
theorem Formed.ofClause {options : Options} {clause : Clause} (formed : clause.Formed options) :
    (Chain.ofClause clause).Formed options :=
  ⟨formed, by simp [Chain.ofClause], by simp [Chain.ofClause]⟩

/-- A clause alone is made of words exactly if the clause is. -/
theorem isLexical_ofClause {clause : Clause} : (ofClause clause).IsLexical ↔ clause.IsLexical := by
  simp [IsLexical, ofClause, tokens, Clause.linkTokens, Clause.IsLexical]

/-- The parentheses are words of the language. -/
theorem IsLexical.grouped {chain : Chain} (lexical : chain.IsLexical) : chain.grouped.IsLexical := by
  rw [IsLexical, tokens_grouped, List.forall_mem_cons, List.forall_mem_append,
    List.forall_mem_singleton]
  exact ⟨.inl (by decide), lexical, .inl (by decide)⟩

/-- Two queries made of words around a boolean that is a word are made of words. -/
theorem IsLexical.join {left right : Chain} {boolean : Token} (leftLexical : left.IsLexical)
    (isLexeme : Token.IsLexeme boolean.text.toList) (rightLexical : right.IsLexical) :
    (left.join boolean right).IsLexical := by
  rw [IsLexical, tokens_join, List.forall_mem_append, List.forall_mem_cons]
  exact ⟨leftLexical, isLexeme, rightLexical⟩

/-! ### Texts -/

/-- The text of a query is that of its head, with those of its links behind it. -/
theorem toCql_tree (chain : Chain) :
    chain.tree.toCql = chain.head.tree.toCql ++ Tree.linksText (Clause.linkTrees chain.links) := by
  rw [tree, Tree.toCql_cqlQuery, Tree.toCql_chain]

/-- A clause alone is rendered as the clause. -/
theorem toCql_ofClause (clause : Clause) : (ofClause clause).tree.toCql = clause.tree.toCql := by
  simp [toCql_tree, ofClause, Clause.linkTrees, Tree.linksText]

/-- A query in parentheses is rendered between parentheses. -/
theorem toCql_grouped (chain : Chain) :
    chain.grouped.tree.toCql = "(" ++ chain.tree.toCql ++ ")" := by
  rw [grouped, ← ofClause, toCql_ofClause, tree_group, tree, Tree.toCql_group, Tree.toCql_cqlQuery]

/-- The texts of links stand one behind the other. -/
theorem linksText_append (front back : List Tree.Link) :
    Tree.linksText (front ++ back) = Tree.linksText front ++ Tree.linksText back := by
  induction front with
  | nil => simp [Tree.linksText]
  | cons link rest inductionHypothesis =>
    simp [Tree.linksText, inductionHypothesis, String.append_assoc]

/-- Joined queries are rendered with the boolean between blanks. -/
theorem toCql_join (left : Chain) (boolean : Token) (right : Chain) :
    (left.join boolean right).tree.toCql =
      left.tree.toCql ++ " " ++ (Tree.boolean boolean.text).toCql ++ " " ++ right.tree.toCql := by
  have trees : Clause.linkTrees (left.join boolean right).links =
      Clause.linkTrees left.links ++ (Tree.boolean boolean.text, right.head.tree) ::
        Clause.linkTrees right.links := by
    simp [join, Clause.linkTrees_eq_map]
  rw [toCql_tree, trees, linksText_append, Tree.linksText, toCql_tree, toCql_tree]
  simp [join, String.append_assoc]

end Chain

/-! ### Flattening -/

namespace Tree

/-- The tree has the clauses of the derivation, in some nesting, and asks for the expression. -/
inductive Flattens : Tree → Chain → Expression → Prop
  | word (value : String) :
      Flattens (searchClause (searchTerm (term value))) (.ofClause (.word (.ofTerm value)))
        (Expression.ofTerm value)
  | indexed (name value : String) {comparitor : String} (listed : comparitor ∈ comparitors) :
      Flattens (indexedSearchClause (index (term name))
        (relation (Tree.comparitor comparitor) none) (searchTerm (term value)))
        (.ofClause (.indexed (.ofTerm name) ⟨comparitor⟩ (.ofTerm value)))
        (Expression.ofIndexed name comparitor value)
  | boosted (name value : String) {comparitor boost : String} (listed : comparitor ∈ comparitors)
      (isBoost : Grammar.isBoostValue boost = true) :
      Flattens (indexedSearchClause (index (term name))
        (relation (Tree.comparitor comparitor) (some (modifierList
          [modifier (identifier boostModifier) (Tree.comparitor "=") (term boost)])))
        (searchTerm (term value)))
        (.ofClause (.boosted (.ofTerm name) ⟨comparitor⟩ (.ofTerm boost) (.ofTerm value)))
        (.search
          { index? := some name
            relation? := some comparitor
            term := value
            boost? := Binary64.read? boost })
  | group {clause : Tree} {chain : Chain} {expression : Expression}
      (inner : Flattens clause chain expression) :
      Flattens (group (Tree.cqlQuery clause)) chain.grouped expression
  | cqlQuery {clause : Tree} {chain : Chain} {expression : Expression}
      (inner : Flattens clause chain expression) : Flattens (cqlQuery clause) chain expression
  | singleClause {clause : Tree} {chain : Chain} {expression : Expression}
      (inner : Flattens clause chain expression) : Flattens (singleClause clause) chain expression
  | joinedClause {left right : Tree} {leftChain rightChain : Chain}
      {leftExpression rightExpression : Expression} {boolean : Token} (isBoolean : boolean.IsBoolean)
      (isBareWord : Token.IsBareWord boolean.text.toList)
      (leftFlattens : Flattens left leftChain leftExpression)
      (rightFlattens : Flattens right rightChain rightExpression) :
      Flattens (joinedClause left (Tree.boolean boolean.text) right)
        (leftChain.join boolean rightChain) (leftExpression.linked boolean rightExpression)

/-- A tree in one of the documented shapes can be flattened. -/
theorem Documented.exists_flattens {kind : Kind} {tree : Tree} (documented : Documented kind tree) :
    ∃ chain expression, Flattens tree chain expression := by
  induction documented with
  | word value => exact ⟨_, _, .word value⟩
  | indexed name value listed => exact ⟨_, _, .indexed name value listed⟩
  | boosted name value listed isBoost => exact ⟨_, _, .boosted name value listed isBoost⟩
  | group _ inductionHypothesis =>
    obtain ⟨chain, expression, inner⟩ := inductionHypothesis
    exact ⟨_, _, inner.group⟩
  | singleClause _ _ inductionHypothesis =>
    obtain ⟨chain, expression, inner⟩ := inductionHypothesis
    exact ⟨_, _, inner.singleClause⟩
  | joinedClause _ isBoolean _ _ _ leftHypothesis rightHypothesis =>
    obtain ⟨leftChain, leftExpression, leftFlattens⟩ := leftHypothesis
    obtain ⟨rightChain, rightExpression, rightFlattens⟩ := rightHypothesis
    rw [← isBoolean.tree_raised]
    exact ⟨_, _, .joinedClause isBoolean.raised isBoolean.raised_word leftFlattens rightFlattens⟩
  | cqlQuery _ inductionHypothesis =>
    obtain ⟨chain, expression, inner⟩ := inductionHypothesis
    exact ⟨_, _, inner.cqlQuery⟩

variable {tree : Tree} {chain : Chain} {expression : Expression}

/-- A flattened tree asks for the expression. -/
theorem Flattens.asksFor (flattens : Flattens tree chain expression) : tree.AsksFor expression := by
  induction flattens with
  | word value => exact .word value
  | indexed name value listed => exact .indexed name _ value
  | boosted name value listed isBoost =>
    obtain ⟨magnitude, read⟩ := Grammar.read?_of_isBoostValue isBoost
    rw [read]
    exact .boosted name _ value read
  | group _ inductionHypothesis => exact .group (.cqlQuery inductionHypothesis)
  | cqlQuery _ inductionHypothesis => exact .cqlQuery inductionHypothesis
  | singleClause _ inductionHypothesis => exact .singleClause inductionHypothesis
  | joinedClause isBoolean _ _ _ leftHypothesis rightHypothesis =>
    exact .joinedClause isBoolean leftHypothesis rightHypothesis

/-- What a tree is flattened to is a query of the grammar. -/
theorem Flattens.formed (flattens : Flattens tree chain expression) :
    chain.Formed Options.standard := by
  induction flattens with
  | word value => exact Chain.Formed.ofClause (.word (Token.isTerm_ofTerm value))
  | indexed name value listed =>
    exact Chain.Formed.ofClause (.indexed (Token.isTerm_ofTerm name)
      (Token.isComparitor_of_mem listed) (Token.isTerm_ofTerm value))
  | @boosted name value comparitor boost listed isBoost =>
    have boostFormed : (Token.ofTerm boost).IsBoost :=
      ⟨Token.isTerm_ofTerm boost, by rwa [Token.unquote_ofTerm]⟩
    exact Chain.Formed.ofClause (.boosted (Token.isTerm_ofTerm name)
      (Token.isComparitor_of_mem listed) rfl boostFormed (Token.isTerm_ofTerm value))
  | group _ inductionHypothesis => exact inductionHypothesis.grouped
  | cqlQuery _ inductionHypothesis => exact inductionHypothesis
  | singleClause _ inductionHypothesis => exact inductionHypothesis
  | joinedClause isBoolean _ _ _ leftHypothesis rightHypothesis =>
    exact leftHypothesis.join isBoolean rightHypothesis

/-- Nesting does not show in the text. -/
theorem Flattens.toCql_tree (flattens : Flattens tree chain expression) :
    chain.tree.toCql = tree.toCql := by
  induction flattens with
  | word value => simp [Chain.toCql_ofClause, Clause.tree]
  | indexed name value listed => simp [Chain.toCql_ofClause, Clause.tree]
  | boosted name value listed isBoost => simp [Chain.toCql_ofClause, Clause.tree]
  | group _ inductionHypothesis =>
    rw [Chain.toCql_grouped, inductionHypothesis, toCql_group]
  | cqlQuery _ inductionHypothesis => rw [inductionHypothesis, toCql_cqlQuery]
  | singleClause _ inductionHypothesis => rw [inductionHypothesis, toCql_singleClause]
  | joinedClause _ _ _ _ leftHypothesis rightHypothesis =>
    rw [Chain.toCql_join, leftHypothesis, rightHypothesis, toCql_joinedClause]

/-! ### Words -/

/-- A clause with an index is writable if its index, its term and its modifiers are. -/
theorem writable_indexedSearchClause {name comparitor value : String} {modifiers? : Option Tree} :
    (indexedSearchClause (index (term name)) (relation (Tree.comparitor comparitor) modifiers?)
      (searchTerm (term value))).Writable ↔
      Token.IsWritable name ∧ (∀ list ∈ modifiers?, list.Writable) ∧ Token.IsWritable value := by
  simp [indexedSearchClause, index, relation, searchTerm, Tree.comparitor, writable_node,
    writable_term, writable_text]

/-- A list with a boost can be written: the value of a boost is a bare word. -/
theorem writable_modifierList {boost : String} (isBoost : Grammar.isBoostValue boost = true) :
    (modifierList
      [modifier (identifier boostModifier) (Tree.comparitor "=") (term boost)]).Writable := by
  have boostWritable : Token.IsWritable boost :=
    Token.isWritable_of_isBareWord (Grammar.isBareWord_of_isBoostValue isBoost)
  simp [modifierList, modifier, identifier, Tree.comparitor, writable_node, writable_term,
    writable_text, boostWritable]

/-- A search clause can be written if its term can. -/
theorem writable_searchClause {value : String} :
    (searchClause (searchTerm (term value))).Writable ↔ Token.IsWritable value := by
  simp [searchClause, searchTerm, writable_node, writable_term]

/-- A query can be written if its clause can. -/
theorem writable_cqlQuery {clause : Tree} : (cqlQuery clause).Writable ↔ clause.Writable := by
  simp [cqlQuery, writable_node]

/-- A group can be written if its query can. -/
theorem writable_group {query : Tree} : (group query).Writable ↔ query.Writable := by
  simp [group, writable_node]

/-- A clause that stands alone can be written if its only part can. -/
theorem writable_singleClause {clause : Tree} :
    (singleClause clause).Writable ↔ clause.Writable := by
  simp [singleClause, writable_node]

/-- Joined clauses can be written if both sides can. -/
theorem writable_joinedClause {left right : Tree} {operator : String} :
    (joinedClause left (boolean operator) right).Writable ↔ left.Writable ∧ right.Writable := by
  simp [joinedClause, boolean, writable_node, writable_text]

/-- If the terms of the tree can be written, the derivation consists of words of the language. By
induction on the tree. The quoted texts are words because they can be written, and all others are listed
or of a fixed form. -/
theorem Flattens.isLexical (flattens : Flattens tree chain expression) (writable : tree.Writable) :
    chain.IsLexical := by
  induction flattens with
  | word value =>
    have valueWritable := writable_searchClause.mp writable
    rw [Chain.isLexical_ofClause, Clause.IsLexical, Clause.tokens, List.forall_mem_singleton]
    exact valueWritable.isLexeme
  | indexed name value listed =>
    obtain ⟨nameWritable, _, valueWritable⟩ := writable_indexedSearchClause.mp writable
    rw [Chain.isLexical_ofClause, Clause.IsLexical, Clause.tokens]
    simp only [List.forall_mem_cons]
    exact ⟨nameWritable.isLexeme, Token.isLexeme_comparitor _ listed, valueWritable.isLexeme,
      by simp⟩
  | boosted name value listed isBoost =>
    obtain ⟨nameWritable, _, valueWritable⟩ := writable_indexedSearchClause.mp writable
    have boostWritable :=
      Token.isWritable_of_isBareWord (Grammar.isBareWord_of_isBoostValue isBoost)
    rw [Chain.isLexical_ofClause, Clause.IsLexical, Clause.tokens]
    simp only [List.forall_mem_cons]
    exact ⟨nameWritable.isLexeme, Token.isLexeme_comparitor _ listed, .inl (by decide),
      Token.isLexeme_boostModifier, .inl (by decide), boostWritable.isLexeme,
      valueWritable.isLexeme, by simp⟩
  | group _ inductionHypothesis =>
    exact (inductionHypothesis (writable_cqlQuery.mp (writable_group.mp writable))).grouped
  | cqlQuery _ inductionHypothesis =>
    exact inductionHypothesis (writable_cqlQuery.mp writable)
  | singleClause _ inductionHypothesis =>
    exact inductionHypothesis (writable_singleClause.mp writable)
  | joinedClause _ isBareWord _ _ leftHypothesis rightHypothesis =>
    obtain ⟨leftWritable, rightWritable⟩ := writable_joinedClause.mp writable
    exact (leftHypothesis leftWritable).join (.inr (.inl isBareWord)) (rightHypothesis rightWritable)

/-- The text of a tree with writable terms is read as the tree of the derivation. -/
theorem Flattens.parse_toCql (flattens : Flattens tree chain expression) (writable : tree.Writable) :
    Tree.parse tree.toCql = .ok chain.tree := by
  have formed := flattens.formed
  have split := formed.tokenize_toCql (flattens.isLexical writable)
  rw [flattens.toCql_tree] at split
  rw [← formed.tree_requoted]
  exact parseWith_of_chain split formed.requoted

end Tree

end ContextualQuery
