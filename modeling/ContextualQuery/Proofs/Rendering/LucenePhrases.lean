import ContextualQuery.Proofs.Parser.Acceptance
import ContextualQuery.Proofs.Rendering.LuceneRelations

/-!
# What a Lucene query says

A tree that the parser builds is rendered for Lucene as its clauses and booleans in their order, with
single spaces between them, or not at all: the leftmost relation with another comparitor than `=` is
reported instead. `lucenePhrases` are the clauses and booleans as Lucene has them, read off the tree
without the traversal. Scoped clauses leave no trace, and the phrases of a query in parentheses are put
together to one.
-/

namespace ContextualQuery.Tree

/-- The term within a tree, quoted where a query text would quote it. -/
def quotedTerm (tree : Tree) : String := Token.quoteTerm (tree.termText?.getD "")

/-- The value of the boost of a relation, if it has one. -/
def boostText? (relation : Tree) : Option String := do
  let modifiers ← relation.child? 1
  let modifier ← modifiers.child? 0
  let value ← modifier.child? 2
  value.text?

/-- The boost of a relation behind a caret, or nothing. -/
def boostMark (relation : Tree) : String :=
  match relation.boostText? with
  | none => ""
  | some boost => "^" ++ boost

/-- The clauses and booleans of a tree as Lucene has them, from the left. -/
def lucenePhrases : Tree → List String
  | .node .cqlQuery [clause] => lucenePhrases clause
  | .node .scopedClause [clause] => lucenePhrases clause
  | .node .scopedClause [left, boolean, right] =>
    lucenePhrases left ++ Text.upper (boolean.text?.getD "") :: lucenePhrases right
  | .node .searchClause [.node .cqlQuery [clause]] =>
    ["(" ++ " ".intercalate (lucenePhrases clause) ++ ")"]
  | .node .searchClause [index, relation, searchTerm] =>
    [index.quotedTerm ++ ":" ++ searchTerm.quotedTerm ++ relation.boostMark]
  | .node .searchClause [searchTerm] => [searchTerm.quotedTerm]
  | _ => []

/-! ### Shapes that the parser builds -/

/-- A word is the only phrase of its clause. -/
theorem lucenePhrases_word (value : String) :
    (searchClause (searchTerm (term value))).lucenePhrases = [Token.quoteTerm value] := rfl

/-- A word in an index is a phrase with the index and a colon in front. -/
theorem lucenePhrases_indexed (name comparitor value : String) :
    (indexedSearchClause (index (term name)) (relation (Tree.comparitor comparitor) none)
      (searchTerm (term value))).lucenePhrases =
      [Token.quoteTerm name ++ ":" ++ Token.quoteTerm value ++ ""] := rfl

/-- A word in an index with a boost is a phrase with a caret and the boost behind it. -/
theorem lucenePhrases_boosted (name comparitor boost value : String) :
    (indexedSearchClause (index (term name)) (relation (Tree.comparitor comparitor)
      (some (modifierList [modifier (identifier boostModifier) (Tree.comparitor "=") (term boost)])))
      (searchTerm (term value))).lucenePhrases =
      [Token.quoteTerm name ++ ":" ++ Token.quoteTerm value ++ ("^" ++ boost)] := rfl

/-- A query has the phrases of its clause. -/
theorem lucenePhrases_cqlQuery (clause : Tree) :
    (cqlQuery clause).lucenePhrases = clause.lucenePhrases := by
  rw [cqlQuery, lucenePhrases]

/-- A group is a single phrase in parentheses. -/
theorem lucenePhrases_group (clause : Tree) :
    (group (cqlQuery clause)).lucenePhrases =
      ["(" ++ " ".intercalate clause.lucenePhrases ++ ")"] := by
  rw [group, cqlQuery, lucenePhrases]

/-- A clause that stands alone has the phrases of its only part. -/
theorem lucenePhrases_singleClause (clause : Tree) :
    (singleClause clause).lucenePhrases = clause.lucenePhrases := by
  rw [singleClause, lucenePhrases]

/-- Joined clauses have the phrases of both sides, and the boolean in between. -/
theorem lucenePhrases_joinedClause (left right : Tree) (operator : String) :
    (joinedClause left (boolean operator) right).lucenePhrases =
      left.lucenePhrases ++ (boolean operator).toCql :: right.lucenePhrases := by
  rw [joinedClause, lucenePhrases]
  rfl

variable {tree : Tree} {expression : Expression} {text : String}

/-- Every query or clause has a phrase. -/
theorem AsksFor.lucenePhrases_ne_nil (asks : AsksFor tree expression) : tree.lucenePhrases ≠ [] := by
  induction asks with
  | word | indexed | boosted => exact List.cons_ne_nil _ _
  | group =>
    rw [lucenePhrases_group]
    exact List.cons_ne_nil _ _
  | cqlQuery _ inductionHypothesis => rwa [lucenePhrases_cqlQuery]
  | singleClause _ inductionHypothesis => rwa [lucenePhrases_singleClause]
  | joinedClause => simp [lucenePhrases_joinedClause]

/-- A query or clause that is rendered is its phrases with single spaces between them. By induction on how
the tree asks for its expression. A group is a single phrase, and joined clauses put the boolean between
those of both sides. -/
theorem AsksFor.toLucene_eq (asks : AsksFor tree expression) (rendered : tree.toLucene = .ok text) :
    text = " ".intercalate tree.lucenePhrases := by
  induction asks generalizing text with
  | word value =>
    rw [toLucene_searchClause] at rendered
    rw [lucenePhrases_word, String.intercalate_singleton, Except.ok.inj rendered]
  | indexed name comparitor value =>
    obtain ⟨boost, found, rfl⟩ := toLucene_indexedSearchClause_eq_ok_iff.mp rendered
    obtain ⟨_, rfl⟩ := toLucene_relation_none_eq_ok_iff.mp found
    rw [lucenePhrases_indexed, String.intercalate_singleton]
  | boosted name comparitor value read =>
    obtain ⟨boost, found, rfl⟩ := toLucene_indexedSearchClause_eq_ok_iff.mp rendered
    obtain ⟨_, rfl⟩ := toLucene_relation_boost_eq_ok_iff.mp found
    rw [lucenePhrases_boosted, String.intercalate_singleton]
  | cqlQuery _ inductionHypothesis =>
    rw [toLucene_cqlQuery] at rendered
    rw [lucenePhrases_cqlQuery, inductionHypothesis rendered]
  | group _ inductionHypothesis =>
    obtain ⟨query, found, rfl⟩ := toLucene_group_eq_ok_iff.mp rendered
    rw [← toLucene_cqlQuery] at found
    rw [lucenePhrases_group, String.intercalate_singleton, inductionHypothesis found,
      lucenePhrases_cqlQuery]
  | singleClause _ inductionHypothesis =>
    rw [toLucene_singleClause] at rendered
    rw [lucenePhrases_singleClause, inductionHypothesis rendered]
  | joinedClause _ leftAsks rightAsks leftHypothesis rightHypothesis =>
    obtain ⟨leftText, rightText, leftFound, rightFound, rfl⟩ :=
      toLucene_joinedClause_eq_ok_iff.mp rendered
    rw [lucenePhrases_joinedClause,
      String.intercalate_append_of_ne_nil leftAsks.lucenePhrases_ne_nil (List.cons_ne_nil _ _),
      String.intercalate_cons_of_ne_nil rightAsks.lucenePhrases_ne_nil,
      leftHypothesis leftFound, rightHypothesis rightFound]
    simp [String.append_assoc]

/-- The tree of a text is rendered for Lucene exactly if all its relations have the comparitor `=`. If
they have not, the error names the leftmost comparitor that is another one. If they have, the rendered
query is the clauses and booleans of the tree in their order, with single spaces between them.

Proof: the tree of an accepted text asks for an expression, so each relation in it has a comparitor and at
most a boost, and a comparitor is the only thing that can fail. -/
theorem toLucene_of_parseWith (options : Options) (source : String) (tree : Tree)
    (accepted : parseWith options source = .ok tree) :
    ((∃ text, tree.toLucene = .ok text) ↔
      ∀ comparitor ∈ tree.relationComparitors, comparitor = "=") ∧
    (∀ error, tree.toLucene = .error error ↔
      ∃ comparitor, tree.relationComparitors.find? (· != "=") = some comparitor ∧
        error = .ofFeature (.luceneRelation comparitor) comparitor) ∧
    (∀ text, tree.toLucene = .ok text → text = " ".intercalate tree.lucenePhrases) := by
  obtain ⟨chain, _, formed, rfl⟩ := exists_chain_of_parseWith accepted
  have asks := formed.asksFor
  refine ⟨asks.exists_toLucene_iff, fun error => ?_, fun text => asks.toLucene_eq⟩
  rw [← luceneError?_eq_some_iff, asks.luceneError?, Option.map_eq_some_iff]
  simp only [relationError, eq_comm]

/-- Of two relations in a group the left one is reported, and a boost behind a quoted term is kept. -/
theorem toLucene_of_parseWith_grouped :
    ∃ tree tree' : Tree,
      parseWith Options.standard "a = b and (c any d or e > f)" = .ok tree ∧
      parseWith Options.standard "a=/boost=2 \"b c\" AND (d not e)" = .ok tree' ∧
      tree.relationComparitors = ["=", "any", ">"] ∧ tree'.relationComparitors = ["="] ∧
      tree.toLucene = .error (.ofFeature (.luceneRelation "any") "any") ∧
      tree'.toLucene = .ok "a:\"b c\"^2 AND (d NOT e)" := by
  let chain : Chain := ⟨.indexed ⟨"a"⟩ ⟨"="⟩ ⟨"b"⟩,
    [(⟨"and"⟩, .group (.indexed ⟨"c"⟩ ⟨"any"⟩ ⟨"d"⟩) [(⟨"or"⟩, .indexed ⟨"e"⟩ ⟨">"⟩ ⟨"f"⟩)])]⟩
  let chain' : Chain := ⟨.boosted ⟨"a"⟩ ⟨"="⟩ ⟨"2"⟩ ⟨"\"b c\""⟩,
    [(⟨"AND"⟩, .group (.word ⟨"d"⟩) [(⟨"not"⟩, .word ⟨"e"⟩)])]⟩
  have split : Token.tokenize "a = b and (c any d or e > f)" = .ok chain.tokens := by cbv
  have split' : Token.tokenize "a=/boost=2 \"b c\" AND (d not e)" = .ok chain'.tokens := by cbv
  have formed : chain.Formed Options.standard := by decide +kernel
  have formed' : chain'.Formed Options.standard := by decide +kernel
  have accepted := parseWith_of_chain split formed
  have accepted' := parseWith_of_chain split' formed'
  obtain ⟨_, fails, _⟩ := toLucene_of_parseWith _ _ _ accepted
  obtain ⟨renders, _, phrased⟩ := toLucene_of_parseWith _ _ _ accepted'
  have relations : chain'.tree.relationComparitors = ["="] := rfl
  obtain ⟨text, rendered⟩ := renders.mpr (by simp [relations])
  have phrases : " ".intercalate chain'.tree.lucenePhrases = "a:\"b c\"^2 AND (d NOT e)" := by
    decide +kernel
  rw [phrased text rendered, phrases] at rendered
  exact ⟨_, _, accepted, accepted', rfl, relations, (fails _).mpr ⟨"any", rfl, rfl⟩, rendered⟩

end ContextualQuery.Tree
