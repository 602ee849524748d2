import ContextualQuery.Proofs.Parser.Acceptance
import ContextualQuery.Proofs.Rendering.Shapes
import ContextualQuery.Proofs.Rendering.Spacing
import ContextualQuery.Proofs.Token.Splitting

/-!
# Rendering round trip

The tree of an accepted text is rendered as a text that is accepted under the same options and has
the same tree. The rendered text spells the requoted derivation of the original text in the spacing
of rendered queries, so that it is split into the tokens of that derivation.
-/

namespace ContextualQuery

namespace Clause

/-- The links of a requoted chain are spelled as they are rendered, where the clauses are. -/
theorem spelled_linkPieces {links : List (Token × Clause)} (after : List Char)
    (each : ∀ link ∈ links, ∀ gap after, Token.spelled (link.2.requoted.pieces gap) after =
      gap ++ (link.2.tree.toCql.toList ++ after)) :
    Token.spelled (linkPieces (requotedLinks links)) after =
      (Tree.linksText (linkTrees links)).toList ++ after := by
  induction links with
  | nil => simp [requotedLinks, linkPieces, linkTrees, Tree.linksText]
  | cons link rest inductionHypothesis =>
    obtain ⟨first, others⟩ := List.forall_mem_cons.mp each
    rw [requotedLinks, linkPieces, Token.spelled_cons, Token.spelled_append, first,
      inductionHypothesis others, linkTrees, Tree.linksText]
    simp [Token.Piece.word, Token.raised]

/-- A requoted clause is spelled as its tree is rendered. -/
theorem spelled_pieces (gap : List Char) (clause : Clause) (after : List Char) :
    Token.spelled (clause.requoted.pieces gap) after =
      gap ++ (clause.tree.toCql.toList ++ after) := by
  induction clause generalizing gap after with
  | word term =>
    rw [tree, Tree.toCql_searchClause]
    simp [requoted, pieces, Token.spelled, Token.Piece.word, Token.requoted]
  | indexed index comparitor term =>
    rw [tree, Tree.toCql_indexedSearchClause, Tree.toCql_relation_none, Tree.spacedRelation]
    by_cases lone : comparitor.text = "="
    · simp [requoted, pieces, Token.spelled, Token.Piece.word, Token.requoted, lone]
    · simp [requoted, pieces, Token.spelled, Token.Piece.word, Token.requoted, lone]
  | boosted index comparitor boost term =>
    rw [tree, Tree.toCql_indexedSearchClause, Tree.toCql_relation_boost]
    simp [requoted, pieces, Token.spelled, Token.Piece.word, Token.requoted, boostModifier]
  | group head links headHypothesis linkHypothesis =>
    rw [tree, Tree.toCql_group, Tree.toCql_chain, requoted, pieces, Token.spelled_cons,
      Token.spelled_append, Token.spelled_append, headHypothesis,
      spelled_linkPieces _ linkHypothesis]
    simp [Token.spelled, Token.Piece.word]

end Clause

namespace Chain

variable {options : Options} {chain : Chain}

/-- The words of a query as they are spaced when it is rendered. -/
def pieces (chain : Chain) : List Token.Piece :=
  chain.head.pieces [] ++ Clause.linkPieces chain.links

/-- The pieces of a query carry its tokens. -/
theorem tokens_pieces (chain : Chain) : chain.pieces.map Token.Piece.token = chain.tokens := by
  rw [pieces, List.map_append, Clause.tokens_pieces,
    Clause.tokens_linkPieces fun link _ gap => Clause.tokens_pieces gap link.2, tokens]

/-- A requoted query is spelled as its tree is rendered. -/
theorem spelled_requoted (chain : Chain) :
    Token.spelled chain.requoted.pieces [] = chain.tree.toCql.toList := by
  rw [requoted, pieces, Token.spelled_append, Clause.spelled_pieces,
    Clause.spelled_linkPieces _ fun link _ gap after => Clause.spelled_pieces gap link.2 after,
    tree, Tree.toCql_cqlQuery, Tree.toCql_chain]
  simp

/-- A query that is made of words of the language is spaced. -/
theorem Formed.spaced_pieces (formed : chain.Formed options) (lexical : chain.IsLexical) :
    Token.Spaced chain.pieces [] := by
  obtain ⟨headLexical, linksLexical⟩ := chain.isLexical_iff.mp lexical
  obtain ⟨booleansLexical, clausesLexical⟩ := (Clause.linksLexical_iff _).mp linksLexical
  have nothing : Clause.Separated [] := by simp [Clause.Separated]
  rw [pieces, Token.spaced_append]
  constructor
  · exact formed.head.spaced_pieces headLexical Clause.isGap_nil
      (Clause.separated_linkPieces _ nothing)
  · refine Clause.spaced_linkPieces booleansLexical ?_ nothing
    intro link member gap after blank ends
    exact (formed.clauses link member).spaced_pieces (clausesLexical link member) blank ends

/-- The rendered tree of a query is split into the tokens of the requoted query. -/
theorem Formed.tokenize_toCql (formed : chain.Formed options) (lexical : chain.IsLexical) :
    Token.tokenize chain.tree.toCql = .ok chain.requoted.tokens := by
  have spaced := formed.requoted.spaced_pieces (formed.requoted_isLexical lexical)
  have split := Token.tokenize_spelled spaced
  rwa [spelled_requoted, String.ofList_toList, tokens_pieces] at split

end Chain

/-- The text that renders the tree of an accepted text is accepted under the same options, and its tree is
the same.

Proof: the tree has a derivation with the tokens of the text. Its rendered text is split into the words of
a requoted derivation, which is formed as well and has the same tree. -/
theorem parseWith_toCql (options : Options) (text : String) (tree : Tree)
    (accepted : Tree.parseWith options text = .ok tree) :
    Tree.parseWith options tree.toCql = .ok tree := by
  obtain ⟨chain, split, formed, rfl⟩ := exists_chain_of_parseWith accepted
  have lexical : chain.IsLexical := Token.isLexeme_of_tokenize split
  have reread := parseWith_of_chain (formed.tokenize_toCql lexical) formed.requoted
  rwa [formed.tree_requoted] at reread

/-- A keyword loses its quotes and is not read as a boolean; the term with an escaped quote and the
empty term keep theirs. -/
theorem parseWith_toCql_keyword :
    ∃ tree, Tree.parseWith Options.standard
        "\"and\" or (name any/boost=2 \"a \\\\\"b\" Not x=\"\")" = .ok tree ∧
      tree.toCql = "and OR (name any/boost=2 \"a \\\\\"b\" NOT x=\"\")" ∧
      Tree.parseWith Options.standard tree.toCql = .ok tree := by
  let boosted : Clause := .boosted ⟨"name"⟩ ⟨"any"⟩ ⟨"2"⟩ ⟨"\"a \\\\\"b\""⟩
  let empty : Clause := .indexed ⟨"x"⟩ ⟨"="⟩ ⟨"\"\""⟩
  let chain : Chain := ⟨.word ⟨"\"and\""⟩, [(⟨"or"⟩, .group boosted [(⟨"Not"⟩, empty)])]⟩
  have split : Token.tokenize "\"and\" or (name any/boost=2 \"a \\\\\"b\" Not x=\"\")" =
      .ok chain.tokens := by cbv
  have formed : chain.Formed Options.standard := by decide +kernel
  have accepted := parseWith_of_chain split formed
  exact ⟨chain.tree, accepted, by decide +kernel, parseWith_toCql _ _ _ accepted⟩

end ContextualQuery
