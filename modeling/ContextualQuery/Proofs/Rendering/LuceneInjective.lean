import ContextualQuery.Proofs.Rendering.LuceneSpacing

/-!
# What Lucene queries tell apart

Two texts with the same Lucene query ask for the same, if the words of all their fields can be told
apart: the Lucene query has one well-spaced layout, and the layout is read clause by clause. The words of
a field end where a gap or a parenthesis follows. Without the condition the rendering conflates queries,
because it quotes no colon and no caret.
-/

namespace ContextualQuery

namespace Token

/-- The pieces do not continue the words in front of them: they start with a gap or with no term. -/
def Detached (rest : List Piece) : Prop :=
  ∀ piece ∈ rest.head?, piece.gap ≠ [] ∨ ¬ piece.token.IsTerm

variable {tokens tokens' : List Token} {rest rest' : List Piece}

/-- Terms without gaps end where the pieces behind them are detached. -/
theorem touching_append_inj (terms : ∀ token ∈ tokens, token.IsTerm)
    (terms' : ∀ token ∈ tokens', token.IsTerm) (detached : Detached rest)
    (detached' : Detached rest')
    (same : tokens.map (fun token => (⟨[], token⟩ : Piece)) ++ rest =
      tokens'.map (fun token => ⟨[], token⟩) ++ rest') :
    tokens = tokens' ∧ rest = rest' := by
  induction tokens generalizing tokens' with
  | nil =>
    cases tokens' with
    | nil => exact ⟨rfl, same⟩
    | cons token' others' =>
      have first := detached ⟨[], token'⟩ (by simp_all)
      exact absurd (terms' token' (by simp)) (by simpa using first)
  | cons token others inductionHypothesis =>
    cases tokens' with
    | nil =>
      have first := detached' ⟨[], token⟩ (by simp [← show _ = rest' from same])
      exact absurd (terms token (by simp)) (by simpa using first)
    | cons token' others' =>
      obtain ⟨heads, behind⟩ := List.cons.inj same
      obtain ⟨rfl, rests⟩ := inductionHypothesis (List.forall_mem_cons.mp terms).2
        (List.forall_mem_cons.mp terms').2 behind
      exact ⟨by rw [(Piece.mk.inj heads).2], rests⟩

/-- Glued terms end where the pieces behind them are detached. -/
theorem glued_append_inj {gap : List Char} (some : tokens ≠ []) (some' : tokens' ≠ [])
    (terms : ∀ token ∈ tokens, token.IsTerm) (terms' : ∀ token ∈ tokens', token.IsTerm)
    (detached : Detached rest) (detached' : Detached rest')
    (same : glued gap tokens ++ rest = glued gap tokens' ++ rest') :
    tokens = tokens' ∧ rest = rest' := by
  obtain ⟨first, others, rfl⟩ := List.exists_cons_of_ne_nil some
  obtain ⟨first', others', rfl⟩ := List.exists_cons_of_ne_nil some'
  obtain ⟨heads, behind⟩ := List.cons.inj same
  obtain ⟨rfl, rests⟩ := touching_append_inj (List.forall_mem_cons.mp terms).2
    (List.forall_mem_cons.mp terms').2 detached detached' behind
  exact ⟨by rw [(Piece.mk.inj heads).2], rests⟩

end Token

namespace Clause

/-- The pieces end a chain: there are none, or they start with a mark that no gap stands before. -/
def EndsChain (rest : List Token.Piece) : Prop :=
  ∀ piece ∈ rest.head?, piece.gap = [] ∧ ¬ piece.token.IsTerm

/-- At the end a chain ends. -/
theorem endsChain_nil : EndsChain [] := by simp [EndsChain]

/-- In front of a closing parenthesis a chain ends. -/
theorem endsChain_closing (rest : List Token.Piece) : EndsChain (⟨[], ⟨")"⟩⟩ :: rest) := by
  have noTerm : ¬ Token.IsTerm ⟨")"⟩ := by decide
  simpa [EndsChain] using noTerm

/-- Links are detached from the clause in front of them. -/
theorem detached_luceneLinkPieces (links : List (Token × Clause)) {rest : List Token.Piece}
    (ends : EndsChain rest) : Token.Detached (luceneLinkPieces links ++ rest) := by
  cases links with
  | nil => exact fun piece first => .inr (ends piece first).2
  | cons link links => simp [luceneLinkPieces, Token.Detached]

/-- What a layout says about a clause: where the clause ends and which tree it has. -/
def Determined (clause : Clause) : Prop :=
  ∀ other : Clause, other.Fielded → ∀ gap rest rest', Token.Detached rest → Token.Detached rest' →
    clause.lucenePieces gap ++ rest = other.lucenePieces gap ++ rest' →
      clause.tree = other.tree ∧ rest = rest'

/-- The layout of links determines their trees if that of each clause does. By induction on the links.
Both chains end at the same place, because where one of them has ended no boolean follows. -/
theorem linkTrees_eq_of_lucenePieces {links links' : List (Token × Clause)}
    {rest rest' : List Token.Piece} (ends : EndsChain rest) (ends' : EndsChain rest')
    (booleans : ∀ link ∈ links, link.1.IsBoolean) (booleans' : ∀ link ∈ links', link.1.IsBoolean)
    (each : ∀ link ∈ links, link.2.Determined) (fielded' : ∀ link ∈ links', link.2.Fielded)
    (same : luceneLinkPieces links ++ rest = luceneLinkPieces links' ++ rest') :
    linkTrees links = linkTrees links' ∧ rest = rest' := by
  induction links generalizing links' with
  | nil =>
    cases links' with
    | nil => exact ⟨rfl, same⟩
    | cons link' others' =>
      have first := ends ⟨[' '], link'.1.raised⟩ (by
        rw [show rest = _ from same]
        simp [luceneLinkPieces])
      simp at first
  | cons link others inductionHypothesis =>
    obtain ⟨boolean, clause⟩ := link
    cases links' with
    | nil =>
      have first := ends' ⟨[' '], boolean.raised⟩ (by
        rw [← show _ = rest' from same]
        simp [luceneLinkPieces])
      simp at first
    | cons link' others' =>
      obtain ⟨boolean', clause'⟩ := link'
      obtain ⟨isBoolean, laterBooleans⟩ := List.forall_mem_cons.mp booleans
      obtain ⟨isBoolean', laterBooleans'⟩ := List.forall_mem_cons.mp booleans'
      obtain ⟨determined, laterDetermined⟩ := List.forall_mem_cons.mp each
      obtain ⟨clauseFielded, laterFielded⟩ := List.forall_mem_cons.mp fielded'
      simp only [luceneLinkPieces, List.cons_append, List.append_assoc] at same
      obtain ⟨firsts, behind⟩ := List.cons.inj same
      obtain ⟨clauses, later⟩ := determined clause' clauseFielded [' '] _ _
        (detached_luceneLinkPieces others ends) (detached_luceneLinkPieces others' ends') behind
      obtain ⟨trees, rests⟩ :=
        inductionHypothesis laterBooleans laterBooleans' laterDetermined laterFielded later
      have raised : Tree.boolean boolean.text = Tree.boolean boolean'.text := by
        rw [← isBoolean.tree_raised, ← isBoolean'.tree_raised, (Token.Piece.mk.inj firsts).2]
      exact ⟨by rw [linkTrees, linkTrees, clauses, trees, raised], rests⟩

/-- A group does not start as a clause without a group does. -/
theorem glued_tokens_ne_group (field : Lucene.Field) (gap : List Char) (head : Clause)
    (links : List (Token × Clause)) (rest rest' : List Token.Piece) :
    Token.glued gap field.tokens ++ rest ≠ (Clause.group head links).lucenePieces gap ++ rest' := by
  intro same
  obtain ⟨first, others, shape⟩ := List.exists_cons_of_ne_nil field.tokens_ne_nil
  rw [shape, lucenePieces] at same
  obtain ⟨pieces, _⟩ := List.cons.inj same
  obtain ⟨_, rfl⟩ := Token.Piece.mk.inj pieces
  exact absurd (field.isTerm_of_mem_tokens ⟨"("⟩ (by simp [shape])) (by decide)

/-- The layout of a clause determines its tree. A field and a group differ in the first word. Two fields
are determined by the words up to the first one that is detached, and two groups by the head, the links
and the closing parenthesis, in this order. -/
theorem Fielded.determined {clause : Clause} (fielded : clause.Fielded) : clause.Determined := by
  induction fielded with
  | @field clause field isField valid distinct sameTree =>
    intro other otherFielded gap rest rest' detached detached' same
    rw [lucenePieces_of_field? isField] at same
    cases otherFielded with
    | @field _ field' isField' valid' distinct' sameTree' =>
      rw [lucenePieces_of_field? isField'] at same
      obtain ⟨words, rests⟩ := Token.glued_append_inj field.tokens_ne_nil field'.tokens_ne_nil
        field.isTerm_of_mem_tokens field'.isTerm_of_mem_tokens detached detached' same
      rw [sameTree, sameTree', valid.tokens_inj valid' distinct distinct' words]
      exact ⟨rfl, rests⟩
    | group => exact absurd same (glued_tokens_ne_group field gap _ _ rest rest')
  | @group head links headFielded booleans clauses headHypothesis linkHypothesis =>
    intro other otherFielded gap rest rest' detached detached' same
    cases otherFielded with
    | @field _ field' isField' =>
      rw [lucenePieces_of_field? isField'] at same
      exact absurd same.symm (glued_tokens_ne_group field' gap head links rest' rest)
    | @group head' links' headFielded' booleans' clauses' =>
      simp only [lucenePieces, List.cons_append, List.append_assoc] at same
      obtain ⟨_, inside⟩ := List.cons.inj same
      obtain ⟨heads, behind⟩ := headHypothesis head' headFielded' [] _ _
        (detached_luceneLinkPieces links (endsChain_closing rest))
        (detached_luceneLinkPieces links' (endsChain_closing rest')) inside
      obtain ⟨trees, closings⟩ := linkTrees_eq_of_lucenePieces (endsChain_closing rest)
        (endsChain_closing rest') booleans booleans' linkHypothesis clauses' behind
      obtain ⟨_, rests⟩ := List.cons.inj closings
      exact ⟨by rw [tree, tree, heads, trees], rests⟩

end Clause

namespace Chain

/-- The words of a query as they are spaced for Lucene. -/
def lucenePieces (chain : Chain) : List Token.Piece :=
  chain.head.lucenePieces [] ++ Clause.luceneLinkPieces chain.links

variable {options : Options} {chain : Chain} {text : String}

/-- The clauses of the query can be rendered for Lucene, and the words of its fields can be told
apart. -/
structure Fielded (chain : Chain) : Prop where
  head : chain.head.Fielded
  booleans : ∀ link ∈ chain.links, link.1.IsBoolean
  clauses : ∀ link ∈ chain.links, link.2.Fielded

/-- A query whose tree can be rendered is laid out as the rendered text. -/
theorem Formed.rendersAs (formed : chain.Formed options) (lexical : chain.IsLexical)
    (distinct : chain.expression.Everywhere Search.Distinct)
    (rendered : chain.tree.toLucene = .ok text) :
    chain.Fielded ∧ Token.spelled chain.lucenePieces [] = text.toList := by
  obtain ⟨headLexical, linksLexical⟩ := chain.isLexical_iff.mp lexical
  have clausesLexical := ((Clause.linksLexical_iff _).mp linksLexical).2
  obtain ⟨headDistinct, linksDistinct⟩ :=
    (everywhere_expression Search.ignoresFlag_distinct chain).mp distinct
  rw [tree, Tree.toLucene_cqlQuery] at rendered
  obtain ⟨headFielded, fielded, spelled⟩ := Clause.rendersAs_chain rendered
    (fun text => formed.head.rendersAs headLexical headDistinct)
    fun link member text => (formed.clauses link member).rendersAs (clausesLexical link member)
      (linksDistinct link member)
  exact ⟨⟨headFielded, formed.booleans, fielded⟩, by simpa [lucenePieces] using spelled []⟩

/-- A query that can be rendered is spaced. -/
theorem Fielded.spaced_lucenePieces (fielded : chain.Fielded) :
    Token.Spaced chain.lucenePieces [] := by
  have nothing : Clause.Separated [] := by simp [Clause.Separated]
  rw [lucenePieces, Token.spaced_append]
  constructor
  · exact fielded.head.spaced_lucenePieces Clause.isGap_nil
      (Clause.separated_luceneLinkPieces _ nothing)
  · refine Clause.spaced_luceneLinkPieces fielded.booleans ?_ nothing
    intro link member gap after blank separated
    exact (fielded.clauses link member).spaced_lucenePieces blank separated

/-- The Lucene text of a query determines its tree. -/
theorem Fielded.tree_eq {chain' : Chain} (fielded : chain.Fielded) (fielded' : chain'.Fielded)
    (same : Token.spelled chain.lucenePieces [] = Token.spelled chain'.lucenePieces []) :
    chain.tree = chain'.tree := by
  have nothing : Token.IsGap [] := Clause.isGap_nil
  obtain ⟨pieces, _⟩ := Token.spaced_unique fielded.spaced_lucenePieces
    fielded'.spaced_lucenePieces nothing nothing same
  have linksDetached : ∀ links, Token.Detached (Clause.luceneLinkPieces links) := by
    intro links
    simpa using Clause.detached_luceneLinkPieces links Clause.endsChain_nil
  obtain ⟨heads, behind⟩ := fielded.head.determined chain'.head fielded'.head [] _ _
    (linksDetached chain.links) (linksDetached chain'.links) pieces
  have determined : ∀ link ∈ chain.links, link.2.Determined := fun link member =>
    (fielded.clauses link member).determined
  obtain ⟨trees, _⟩ := Clause.linkTrees_eq_of_lucenePieces Clause.endsChain_nil Clause.endsChain_nil
    fielded.booleans fielded'.booleans determined fielded'.clauses
    (by rw [List.append_nil, List.append_nil]; exact behind)
  rw [tree, tree, heads, trees]

end Chain

/-- The tree of a text that is rendered for Lucene has a derivation that is laid out as what is
rendered. -/
theorem exists_fielded {text rendered : String} {tree : Tree} {expression : Expression}
    (accepted : Tree.parse text = .ok tree) (asked : tree.toExpression = .ok expression)
    (renders : tree.toLucene = .ok rendered) (distinct : expression.Everywhere Search.Distinct) :
    ∃ chain : Chain, chain.tree = tree ∧ chain.Fielded ∧
      Token.spelled chain.lucenePieces [] = rendered.toList := by
  obtain ⟨chain, split, formed, rfl⟩ := exists_chain_of_parseWith accepted
  have lexical : chain.IsLexical := Token.isLexeme_of_tokenize split
  obtain rfl := Except.ok.inj (formed.toExpression_tree.symm.trans asked)
  exact ⟨chain, rfl, formed.rendersAs lexical distinct renders⟩

/-- Lucene queries tell texts apart whose fields do not run together. Two texts with the same Lucene query
have the same tree, and ask for the same, if every search of either text has a quoted term or one without
the marks of a field.

Proof: each query is laid out as the words of its fields and groups, and spaced words are determined by
their text. The words determine the fields one by one, and with them the tree. -/
theorem expression_eq_of_toLucene_eq (text text' rendered : String) (tree tree' : Tree)
    (expression expression' : Expression) (accepted : Tree.parse text = .ok tree)
    (accepted' : Tree.parse text' = .ok tree') (asked : tree.toExpression = .ok expression)
    (asked' : tree'.toExpression = .ok expression') (renders : tree.toLucene = .ok rendered)
    (renders' : tree'.toLucene = .ok rendered)
    (distinct : ∀ parts ∈ expression.searches, parts.Distinct)
    (distinct' : ∀ parts ∈ expression'.searches, parts.Distinct) :
    tree = tree' ∧ expression = expression' := by
  obtain ⟨chain, rfl, fielded, spelled⟩ := exists_fielded accepted asked renders distinct
  obtain ⟨chain', rfl, fielded', spelled'⟩ := exists_fielded accepted' asked' renders' distinct'
  have trees : chain.tree = chain'.tree := fielded.tree_eq fielded' (spelled.trans spelled'.symm)
  rw [trees, asked'] at asked
  exact ⟨trees, (Except.ok.inj asked).symm⟩

/-- Spaces, quotes without need and the case of booleans are lost, but no part of a query is. -/
theorem expression_eq_of_toLucene_eq_quoted :
    ∃ tree tree' expression expression',
      Tree.parse "\"a:b\" = \"c d\" AND (x =/boost=1.5 y or \"e:^ f\")" = .ok tree ∧
      Tree.parse "a:b=\"c d\" and (\"x\" = /boost = 1.5 \"y\" OR \"e:^ f\")" = .ok tree' ∧
      tree.toLucene = .ok "a:b:\"c d\" AND (x:y^1.5 OR \"e:^ f\")" ∧
      tree'.toLucene = .ok "a:b:\"c d\" AND (x:y^1.5 OR \"e:^ f\")" ∧
      tree.toExpression = .ok expression ∧ tree'.toExpression = .ok expression' ∧
      tree = tree' ∧ expression = expression' := by
  let boosted : Clause := .boosted ⟨"x"⟩ ⟨"="⟩ ⟨"1.5"⟩ ⟨"y"⟩
  let boosted' : Clause := .boosted ⟨"\"x\""⟩ ⟨"="⟩ ⟨"1.5"⟩ ⟨"\"y\""⟩
  let chain : Chain := ⟨.indexed ⟨"\"a:b\""⟩ ⟨"="⟩ ⟨"\"c d\""⟩,
    [(⟨"AND"⟩, .group boosted [(⟨"or"⟩, .word ⟨"\"e:^ f\""⟩)])]⟩
  let chain' : Chain := ⟨.indexed ⟨"a:b"⟩ ⟨"="⟩ ⟨"\"c d\""⟩,
    [(⟨"and"⟩, .group boosted' [(⟨"OR"⟩, .word ⟨"\"e:^ f\""⟩)])]⟩
  have split : Token.tokenize "\"a:b\" = \"c d\" AND (x =/boost=1.5 y or \"e:^ f\")" =
      .ok chain.tokens := by cbv
  have split' : Token.tokenize "a:b=\"c d\" and (\"x\" = /boost = 1.5 \"y\" OR \"e:^ f\")" =
      .ok chain'.tokens := by cbv
  have formed : chain.Formed Options.standard := by decide +kernel
  have formed' : chain'.Formed Options.standard := by decide +kernel
  have accepted := parseWith_of_chain split formed
  have accepted' := parseWith_of_chain split' formed'
  have asked := formed.toExpression_tree
  have asked' := formed'.toExpression_tree
  have renders : chain.tree.toLucene = .ok "a:b:\"c d\" AND (x:y^1.5 OR \"e:^ f\")" := by
    decide +kernel
  have renders' : chain'.tree.toLucene = .ok "a:b:\"c d\" AND (x:y^1.5 OR \"e:^ f\")" := by
    decide +kernel
  exact ⟨_, _, _, _, accepted, accepted', renders, renders', asked, asked',
    expression_eq_of_toLucene_eq _ _ _ _ _ _ _ accepted accepted' asked asked' renders renders'
      (by decide +kernel) (by decide +kernel)⟩

/-- Lucene queries do not tell all texts apart: a search in an index and a search for a term with a colon
are rendered as the same. -/
theorem toLucene_conflates :
    ∃ tree tree' expression expression',
      Tree.parse "title = dune" = .ok tree ∧ Tree.parse "title:dune" = .ok tree' ∧
      tree.toLucene = .ok "title:dune" ∧ tree'.toLucene = .ok "title:dune" ∧
      tree.toExpression = .ok expression ∧ tree'.toExpression = .ok expression' ∧
      expression ≠ expression' := by
  let chain : Chain := .ofClause (.indexed ⟨"title"⟩ ⟨"="⟩ ⟨"dune"⟩)
  let chain' : Chain := .ofClause (.word ⟨"title:dune"⟩)
  have split : Token.tokenize "title = dune" = .ok chain.tokens := by cbv
  have split' : Token.tokenize "title:dune" = .ok chain'.tokens := by cbv
  have formed : chain.Formed Options.standard := by decide +kernel
  have formed' : chain'.Formed Options.standard := by decide +kernel
  refine ⟨_, _, _, _, parseWith_of_chain split formed, parseWith_of_chain split' formed',
    by decide +kernel, by decide +kernel, formed.toExpression_tree,
    formed'.toExpression_tree, ?_⟩
  intro same
  have indexes := congrArg (fun asked => (asked.search?).bind (·.index?)) same
  exact absurd indexes (by decide +kernel)

end ContextualQuery
