import ContextualQuery.Proofs.Rendering.LuceneReading
import ContextualQuery.Proofs.Rendering.LuceneShapes
import ContextualQuery.Proofs.Rendering.Writing

/-!
# The spacing of Lucene queries

A query rendered for Lucene puts the words of a clause together without gaps, and single spaces around
booleans. `lucenePieces` lays out a derivation in this way. If the tree of the derivation can be rendered
at all, so that its only comparitor is `=`, the layout spells the rendered text and is well spaced.
-/

namespace ContextualQuery

open Lucene (Field)

/-- The term of the search is quoted, or none of its characters is taken in a Lucene query for the colon
behind an index or, where there is an index, for the caret before a boost. -/
def Search.Distinct (parts : Search) : Prop :=
  Token.needsQuotes parts.term = true ∨
    ':' ∉ parts.term.toList ∧
      (parts.index?.isSome = true → parts.boost? = none → '^' ∉ parts.term.toList)

/-- Whether a search can be told from its rendering is decided by its texts. -/
instance (parts : Search) : Decidable parts.Distinct :=
  inferInstanceAs (Decidable (_ ∨ _))

/-- Negating a search does not change whether it can be told from its rendering. -/
theorem Search.ignoresFlag_distinct : Expression.IgnoresFlag Search.Distinct := fun _ _ => Iff.rfl

/-- The clause that a field was made from, with its comparitor. -/
def Lucene.Field.tree (field : Field) : Tree :=
  match field.index? with
  | none => Tree.searchClause (Tree.searchTerm (Tree.term field.value))
  | some name =>
    Tree.indexedSearchClause (Tree.index (Tree.term name))
      (Tree.relation (Tree.comparitor "=") (field.boost?.map fun boost =>
        Tree.modifierList [Tree.modifier (Tree.identifier boostModifier) (Tree.comparitor "=")
          (Tree.term boost)]))
      (Tree.searchTerm (Tree.term field.value))

namespace Clause

/-- The field of a clause without a group. -/
def field? : Clause → Option Field
  | .word term => some ⟨none, term.unquote, none⟩
  | .indexed index _ term => some ⟨some index.unquote, term.unquote, none⟩
  | .boosted index _ boost term => some ⟨some index.unquote, term.unquote, some boost.unquote⟩
  | .group _ _ => none

mutual

/-- The words of a clause as they are spaced for Lucene, with a gap before the first. -/
def lucenePieces (gap : List Char) : Clause → List Token.Piece
  | .word term => Token.glued gap (Field.tokens ⟨none, term.unquote, none⟩)
  | .indexed index _ term =>
    Token.glued gap (Field.tokens ⟨some index.unquote, term.unquote, none⟩)
  | .boosted index _ boost term =>
    Token.glued gap (Field.tokens ⟨some index.unquote, term.unquote, some boost.unquote⟩)
  | .group head links =>
    ⟨gap, ⟨"("⟩⟩ :: (lucenePieces [] head ++ luceneLinkPieces links ++ [⟨[], ⟨")"⟩⟩])

/-- The words of links as they are spaced for Lucene. -/
def luceneLinkPieces : List (Token × Clause) → List Token.Piece
  | [] => []
  | (boolean, clause) :: rest =>
    ⟨[' '], boolean.raised⟩ :: (lucenePieces [' '] clause ++ luceneLinkPieces rest)

end

/-- A clause without a group has the words of its field. -/
theorem lucenePieces_of_field? {clause : Clause} {field : Field}
    (isField : clause.field? = some field) (gap : List Char) :
    clause.lucenePieces gap = Token.glued gap field.tokens := by
  cases clause with
  | group => simp [field?] at isField
  | word => obtain rfl := Option.some.inj isField; rfl
  | indexed => obtain rfl := Option.some.inj isField; rfl
  | boosted => obtain rfl := Option.some.inj isField; rfl

/-- The gap stands in front of the text of a clause. -/
theorem spelled_lucenePieces_gap (gap : List Char) (clause : Clause) (after : List Char) :
    Token.spelled (clause.lucenePieces gap) after =
      gap ++ Token.spelled (clause.lucenePieces []) after := by
  cases isField : clause.field? with
  | some field =>
    rw [lucenePieces_of_field? isField, lucenePieces_of_field? isField,
      Token.spelled_glued field.tokens_ne_nil, Token.spelled_glued field.tokens_ne_nil,
      List.nil_append]
  | none => cases clause <;> simp_all [field?, lucenePieces, Token.spelled, Token.Piece.word]

/-- The clause can be rendered for Lucene, and the words of its fields can be told apart. -/
inductive Fielded : Clause → Prop
  | field {clause : Clause} {field : Field} (isField : clause.field? = some field)
      (valid : field.Valid) (distinct : field.Distinct) (sameTree : clause.tree = field.tree) :
      Fielded clause
  | group {head : Clause} {links : List (Token × Clause)} (headFielded : Fielded head)
      (booleans : ∀ link ∈ links, link.1.IsBoolean)
      (clauses : ∀ link ∈ links, Fielded link.2) : Fielded (.group head links)

/-! ### Spelling -/

/-- The clause is laid out as the text. -/
structure RendersAs (clause : Clause) (text : String) : Prop where
  fielded : clause.Fielded
  spelled : ∀ gap after, Token.spelled (clause.lucenePieces gap) after =
    gap ++ (text.toList ++ after)

/-- A clause without a group is laid out as the text of its field. -/
theorem rendersAs_field {clause : Clause} {field : Field} (isField : clause.field? = some field)
    (valid : field.Valid) (distinct : field.Distinct) (sameTree : clause.tree = field.tree) :
    clause.RendersAs field.text := by
  refine ⟨.field isField valid distinct sameTree, fun gap after => ?_⟩
  rw [lucenePieces_of_field? isField, Token.spelled_glued field.tokens_ne_nil,
    field.flatMap_tokens]

/-- Rendered links are laid out where their clauses are. -/
theorem rendersAs_links {links : List (Token × Clause)} {text : String}
    (rendered : Tree.linksLucene links = .ok text)
    (each : ∀ link ∈ links, ∀ text, link.2.tree.toLucene = .ok text → link.2.RendersAs text) :
    (∀ link ∈ links, link.2.Fielded) ∧
      ∀ after, Token.spelled (luceneLinkPieces links) after = text.toList ++ after := by
  induction links generalizing text with
  | nil =>
    obtain rfl : "" = text := Except.ok.inj rendered
    simp [luceneLinkPieces]
  | cons link rest inductionHypothesis =>
    obtain ⟨boolean, clause⟩ := link
    obtain ⟨first, others⟩ := List.forall_mem_cons.mp each
    obtain ⟨clauseText, restText, clauseRendered, restRendered, rfl⟩ :=
      Tree.linksLucene_cons_eq_ok_iff.mp rendered
    have clauseAs := first clauseText clauseRendered
    obtain ⟨restFielded, restSpelled⟩ := inductionHypothesis restRendered others
    refine ⟨List.forall_mem_cons.mpr ⟨clauseAs.fielded, restFielded⟩, fun after => ?_⟩
    rw [luceneLinkPieces, Token.spelled_cons, Token.spelled_append, clauseAs.spelled, restSpelled]
    simp [Token.Piece.word, Token.raised]

/-- A rendered chain is laid out where its clauses are. -/
theorem rendersAs_chain {head : Clause} {links : List (Token × Clause)} {text : String}
    (rendered : (Tree.chain head.tree (linkTrees links)).toLucene = .ok text)
    (headRenders : ∀ text, head.tree.toLucene = .ok text → head.RendersAs text)
    (each : ∀ link ∈ links, ∀ text, link.2.tree.toLucene = .ok text → link.2.RendersAs text) :
    head.Fielded ∧ (∀ link ∈ links, link.2.Fielded) ∧
      ∀ after, Token.spelled (head.lucenePieces [] ++ luceneLinkPieces links) after =
        text.toList ++ after := by
  obtain ⟨headText, linksText, headRendered, linksRendered, rfl⟩ :=
    Tree.exists_of_toLucene_chain rendered
  have headAs := headRenders headText headRendered
  obtain ⟨fielded, linksSpelled⟩ := rendersAs_links linksRendered each
  refine ⟨headAs.fielded, fielded, fun after => ?_⟩
  rw [Token.spelled_append, headAs.spelled, linksSpelled]
  simp

variable {options : Options}

/-- A clause whose tree can be rendered is laid out as the rendered text. By induction on the derivation:
each clause without a group is a field, and a group is laid out as the chain in its parentheses. -/
theorem Formed.rendersAs {clause : Clause} {text : String} (formed : clause.Formed options)
    (lexical : clause.IsLexical) (distinct : clause.expression.Everywhere Search.Distinct)
    (rendered : clause.tree.toLucene = .ok text) : clause.RendersAs text := by
  induction formed generalizing text with
  | @word term isTerm =>
    simp only [IsLexical, tokens, List.forall_mem_singleton] at lexical
    rw [tree, Tree.toLucene_searchClause] at rendered
    obtain rfl := Except.ok.inj rendered
    have valid : Field.Valid ⟨none, term.unquote, none⟩ :=
      ⟨by simp, lexical.isWritable, by simp, fun _ => rfl⟩
    have fieldDistinct : Field.Distinct ⟨none, term.unquote, none⟩ :=
      (Expression.everywhere_search.mp distinct).imp_right fun plain => ⟨plain.1, by simp⟩
    exact rendersAs_field rfl valid fieldDistinct rfl
  | @indexed index comparitor term indexIsTerm supported isTerm =>
    simp only [IsLexical, tokens, List.forall_mem_cons] at lexical
    obtain ⟨indexLexeme, _, lexeme, _⟩ := lexical
    rw [tree, Tree.toLucene_indexedSearchClause_eq_ok_iff] at rendered
    obtain ⟨boost, relation, rfl⟩ := rendered
    obtain ⟨isEquals, rfl⟩ := Tree.toLucene_relation_none_eq_ok_iff.mp relation
    have valid : Field.Valid ⟨some index.unquote, term.unquote, none⟩ :=
      ⟨by simpa using indexLexeme.isWritable, lexeme.isWritable, by simp, by simp⟩
    have fieldDistinct : Field.Distinct ⟨some index.unquote, term.unquote, none⟩ :=
      (Expression.everywhere_search.mp distinct).imp_right fun plain =>
        ⟨plain.1, fun isIndexed _ => plain.2 isIndexed rfl⟩
    exact rendersAs_field rfl valid fieldDistinct (by simp [tree, Field.tree, isEquals])
  | @boosted index comparitor boost term indexIsTerm supported allowed isBoost isTerm =>
    simp only [IsLexical, tokens, List.forall_mem_cons] at lexical
    obtain ⟨indexLexeme, _, _, _, _, _, lexeme, _⟩ := lexical
    rw [tree, Tree.toLucene_indexedSearchClause_eq_ok_iff] at rendered
    obtain ⟨_, relation, rfl⟩ := rendered
    obtain ⟨isEquals, rfl⟩ := Tree.toLucene_relation_boost_eq_ok_iff.mp relation
    have valid : Field.Valid ⟨some index.unquote, term.unquote, some boost.unquote⟩ :=
      ⟨by simpa using indexLexeme.isWritable, lexeme.isWritable, by simpa using isBoost.2, by simp⟩
    have fieldDistinct : Field.Distinct ⟨some index.unquote, term.unquote, some boost.unquote⟩ :=
      (Expression.everywhere_search.mp distinct).imp_right fun plain => ⟨plain.1, by simp⟩
    exact rendersAs_field rfl valid fieldDistinct (by simp [tree, Field.tree, isEquals])
  | @group head links _ booleans _ headHypothesis linkHypothesis =>
    obtain ⟨headLexical, linksLexical⟩ := (isLexical_group_iff _ _).mp lexical
    have clausesLexical := ((linksLexical_iff _).mp linksLexical).2
    obtain ⟨headDistinct, linksDistinct⟩ :=
      (everywhere_group Search.ignoresFlag_distinct head links).mp distinct
    rw [tree, Tree.toLucene_group_eq_ok_iff] at rendered
    obtain ⟨_, query, rfl⟩ := rendered
    obtain ⟨headFielded, fielded, chainSpelled⟩ := rendersAs_chain query
      (fun text => headHypothesis headLexical headDistinct)
      fun link member text =>
        linkHypothesis link member (clausesLexical link member) (linksDistinct link member)
    refine ⟨.group headFielded booleans fielded, fun gap after => ?_⟩
    rw [lucenePieces, Token.spelled_cons, Token.spelled_append, chainSpelled]
    simp [Token.spelled, Token.Piece.word]

/-! ### Spaced words -/

variable {after : List Char}

/-- Links start with a space. -/
theorem separated_luceneLinkPieces (links : List (Token × Clause)) (separated : Separated after) :
    Separated (Token.spelled (luceneLinkPieces links) after) := by
  cases links with
  | nil => exact separated
  | cons link rest =>
    rw [luceneLinkPieces, Token.spelled_cons]
    exact separated_space _

/-- Links are spaced where their clauses are. -/
theorem spaced_luceneLinkPieces {links : List (Token × Clause)}
    (booleans : ∀ link ∈ links, link.1.IsBoolean)
    (clauses : ∀ link ∈ links, ∀ gap after, Token.IsGap gap → Separated after →
      Token.Spaced (link.2.lucenePieces gap) after)
    (separated : Separated after) : Token.Spaced (luceneLinkPieces links) after := by
  induction links with
  | nil => trivial
  | cons link rest inductionHypothesis =>
    obtain ⟨isBoolean, laterBooleans⟩ := List.forall_mem_cons.mp booleans
    obtain ⟨clause, laterClauses⟩ := List.forall_mem_cons.mp clauses
    have behind := separated_luceneLinkPieces rest separated
    have word := isBoolean.raised_word
    refine ⟨isGap_space, .inr (.inl word), ?_, ?_⟩
    · rw [Token.spelled_append, spelled_lucenePieces_gap]
      exact Token.stops_of_separator word.1 (separated_space _)
    · rw [Token.spaced_append]
      exact ⟨clause _ _ isGap_space behind, inductionHypothesis laterBooleans laterClauses⟩

/-- A clause that can be rendered is spaced. -/
theorem Fielded.spaced_lucenePieces {clause : Clause} (fielded : clause.Fielded) {gap : List Char}
    (blank : Token.IsGap gap) (separated : Separated after) :
    Token.Spaced (clause.lucenePieces gap) after := by
  induction fielded generalizing gap after with
  | field isField valid =>
    rw [lucenePieces_of_field? isField]
    exact valid.spaced_tokens blank separated
  | group _ booleans _ headHypothesis linkHypothesis =>
    refine spaced_parenthesized (fun after ends => ?_) blank separated
    rw [Token.spaced_append]
    constructor
    · exact headHypothesis isGap_nil (separated_luceneLinkPieces _ ends)
    · refine spaced_luceneLinkPieces booleans ?_ ends
      intro link member gap after gapBlank
      exact linkHypothesis link member gapBlank

end Clause

end ContextualQuery
