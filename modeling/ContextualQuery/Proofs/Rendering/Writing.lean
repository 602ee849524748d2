import ContextualQuery.Proofs.Expression.Everywhere
import ContextualQuery.Proofs.Rendering.Flattened

/-!
# The terms that are read

No text has a term that cannot be written: a quoted word closes at its last quote, so the character
before that quote is no backslash. So the searches that the expression of a text asks for have writable
terms and indexes, and a tree with a term that cannot be written asks for what no text asks for.
-/

namespace ContextualQuery

namespace Token

/-- The term of a word of the language can be written. -/
theorem IsLexeme.isWritable {token : Token} (lexeme : IsLexeme token.text.toList) :
    IsWritable token.unquote := by
  rcases lexeme with mark | bare | ⟨inner, shape, escapes, ends⟩
  · have marks : ∀ mark ∈ punctuation, interior? mark = none ∧ mark.getLast? ≠ some '\\' := by
      decide
    obtain ⟨noInterior, ends⟩ := marks _ mark
    intro _
    simpa [unquote, noInterior] using ends
  · apply isWritable_of_isBareWord
    simpa [unquote, interior?_bare bare] using bare
  · intro _
    have restored := escapeQuotes_unescapeQuotes ((quotesEscaped_iff inner).mp escapes)
    rw [← restored, getLast?_escapeQuotes] at ends
    simpa [unquote, shape, interior?_quoted] using ends

end Token

/-- The index and the term of the search can be written. -/
def Search.IsWritable (parts : Search) : Prop :=
  (∀ name ∈ parts.index?, Token.IsWritable name) ∧ Token.IsWritable parts.term

/-- Negating a search does not change whether it can be written. -/
theorem Search.ignoresFlag_isWritable : Expression.IgnoresFlag Search.IsWritable :=
  fun _ _ => Iff.rfl

/-- Every search of the expression can be written. -/
def Expression.Writable (expression : Expression) : Prop := expression.Everywhere Search.IsWritable

/-- A clause of words of the language asks for searches that can be written. -/
theorem Clause.IsLexical.writable_expression {clause : Clause} (lexical : clause.IsLexical) :
    clause.expression.Writable := by
  induction clause with
  | word term =>
    simp only [IsLexical, tokens, List.forall_mem_singleton] at lexical
    exact Expression.everywhere_search.mpr ⟨by simp, lexical.isWritable⟩
  | indexed index comparitor term =>
    simp only [IsLexical, tokens, List.forall_mem_cons] at lexical
    obtain ⟨indexLexeme, _, lexeme, _⟩ := lexical
    exact Expression.everywhere_search.mpr
      ⟨by simpa using indexLexeme.isWritable, lexeme.isWritable⟩
  | boosted index comparitor boost term =>
    simp only [IsLexical, tokens, List.forall_mem_cons] at lexical
    obtain ⟨indexLexeme, _, _, _, _, _, lexeme, _⟩ := lexical
    exact Expression.everywhere_search.mpr
      ⟨by simpa using indexLexeme.isWritable, lexeme.isWritable⟩
  | group head links headHypothesis linkHypothesis =>
    obtain ⟨headLexical, linksLexical⟩ := (isLexical_group_iff _ _).mp lexical
    have clausesLexical := ((linksLexical_iff _).mp linksLexical).2
    exact (everywhere_group Search.ignoresFlag_isWritable head links).mpr
      ⟨headHypothesis headLexical, fun link member =>
        linkHypothesis link member (clausesLexical link member)⟩

/-- The expression of a query made of words can be written. -/
theorem Chain.IsLexical.writable_expression {chain : Chain} (lexical : chain.IsLexical) :
    chain.expression.Writable := by
  obtain ⟨headLexical, linksLexical⟩ := chain.isLexical_iff.mp lexical
  have clausesLexical := ((Clause.linksLexical_iff _).mp linksLexical).2
  exact (everywhere_expression Search.ignoresFlag_isWritable chain).mpr
    ⟨headLexical.writable_expression, fun link member =>
      (clausesLexical link member).writable_expression⟩

namespace Tree

variable {tree : Tree} {chain : Chain} {expression : Expression} {text : String}

/-- A text asks for an expression if it is read as a tree that asks for it. -/
theorem expressionOf_eq_ok_iff :
    Tree.expressionOf text = .ok expression ↔
      ∃ tree, Tree.parse text = .ok tree ∧ tree.toExpression = .ok expression := by
  rw [Tree.expressionOf, bind_eq_ok_iff]
  constructor
  · rintro ⟨tree, accepted, found⟩
    refine ⟨tree, accepted, ?_⟩
    cases asked : tree.toExpression with
    | error error => simp [asked, Except.mapError] at found
    | ok result => simpa [asked, Except.mapError] using found
  · rintro ⟨tree, accepted, found⟩
    exact ⟨tree, accepted, by rw [found]; rfl⟩

/-- What a text asks for can be written. -/
theorem writable_of_expressionOf (found : Tree.expressionOf text = .ok expression) :
    expression.Writable := by
  obtain ⟨tree, accepted, asked⟩ := expressionOf_eq_ok_iff.mp found
  obtain ⟨chain, split, formed, rfl⟩ := exists_chain_of_parseWith accepted
  have lexical : chain.IsLexical := Token.isLexeme_of_tokenize split
  obtain rfl := Except.ok.inj (formed.toExpression_tree.symm.trans asked)
  exact lexical.writable_expression

/-- A tree asks for writable searches only if its terms can be written. -/
theorem Flattens.writable (flattens : Flattens tree chain expression)
    (writable : expression.Writable) : tree.Writable := by
  induction flattens with
  | word value =>
    obtain ⟨_, valueWritable⟩ := Expression.everywhere_search.mp writable
    exact writable_searchClause.mpr valueWritable
  | indexed name value listed =>
    obtain ⟨nameWritable, valueWritable⟩ := Expression.everywhere_search.mp writable
    exact writable_indexedSearchClause.mpr ⟨nameWritable name rfl, by simp, valueWritable⟩
  | boosted name value listed isBoost =>
    obtain ⟨nameWritable, valueWritable⟩ := Expression.everywhere_search.mp writable
    exact writable_indexedSearchClause.mpr
      ⟨nameWritable name rfl, by simpa using writable_modifierList isBoost, valueWritable⟩
  | group _ inductionHypothesis =>
    exact writable_group.mpr (writable_cqlQuery.mpr (inductionHypothesis writable))
  | cqlQuery _ inductionHypothesis => exact writable_cqlQuery.mpr (inductionHypothesis writable)
  | singleClause _ inductionHypothesis =>
    exact writable_singleClause.mpr (inductionHypothesis writable)
  | joinedClause _ _ _ _ leftHypothesis rightHypothesis =>
    obtain ⟨leftWritable, rightWritable⟩ := (Search.ignoresFlag_isWritable.everywhere_linked _).mp writable
    exact writable_joinedClause.mpr ⟨leftHypothesis leftWritable, rightHypothesis rightWritable⟩

end Tree

end ContextualQuery
