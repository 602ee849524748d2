import ContextualQuery.Proofs.Derivation
import ContextualQuery.Proofs.Expression.Normalized
import ContextualQuery.Tree.Lucene

/-!
# The Lucene texts of query trees

When the shapes that the parser builds are rendered for Lucene, and as what. The only obstacle is a
relation with another comparitor than `=`. As in query texts, the nesting of scoped clauses leaves no
trace: a chain is rendered as its clauses in their order with the booleans between them.
-/

namespace ContextualQuery.Tree

/-- The Lucene text of a node, from its children with their texts. -/
theorem toLucene_node (kind : Kind) (children : List Tree) :
    (node kind children).toLucene =
      luceneTraversal.visit kind (children.map fun child => (child, child.toLucene)) :=
  accept_node luceneTraversal kind children

/-- A single child is rendered as it is. -/
theorem luceneChildren_singleton (child : Tree) (found : Except UnsupportedError String) :
    luceneChildren [(child, found)] = found := by
  cases found <;> simp [luceneChildren, pure, Except.pure, bind, Except.bind, Except.map]

/-- A node with a single child is rendered as the child, where the children are only put together. -/
theorem toLucene_sole {kind : Kind} (child : Tree)
    (combined : luceneTraversal.visit kind [(child, child.toLucene)] =
      luceneChildren [(child, child.toLucene)]) :
    (node kind [child]).toLucene = child.toLucene := by
  rw [toLucene_node, List.map_singleton, combined, luceneChildren_singleton]

/-- An index is rendered as its term. -/
theorem toLucene_index (value : String) :
    (index (term value)).toLucene = .ok (Token.quoteTerm value) :=
  toLucene_sole (term value) rfl

/-- A search term is rendered as its term. -/
theorem toLucene_searchTerm (value : String) :
    (searchTerm (term value)).toLucene = .ok (Token.quoteTerm value) :=
  toLucene_sole (term value) rfl

/-- A clause with a term alone is rendered as its term. -/
theorem toLucene_searchClause (value : String) :
    (searchClause (searchTerm (term value))).toLucene = .ok (Token.quoteTerm value) :=
  (toLucene_sole (searchTerm (term value)) rfl).trans (toLucene_searchTerm value)

/-- A clause with an index is rendered exactly if its relation is. -/
theorem toLucene_indexedSearchClause_eq_ok_iff {name value comparitor text : String}
    {modifiers? : Option Tree} :
    (indexedSearchClause (index (term name)) (relation (Tree.comparitor comparitor) modifiers?)
      (searchTerm (term value))).toLucene = .ok text ↔
      ∃ boost, (relation (Tree.comparitor comparitor) modifiers?).toLucene = .ok boost ∧
        text = Token.quoteTerm name ++ ":" ++ Token.quoteTerm value ++ boost := by
  rw [indexedSearchClause, toLucene_node, List.map_cons, List.map_cons, List.map_singleton,
    toLucene_index, toLucene_searchTerm]
  change Except.bind _ _ = _ ↔ _
  cases (relation (Tree.comparitor comparitor) modifiers?).toLucene with
  | error error => simp [Except.bind]
  | ok boost => simp [Except.bind, pure, Except.pure, eq_comm]

/-- A relation without modifiers is rendered as nothing, if its comparitor is `=`. -/
theorem toLucene_relation_none_eq_ok_iff {comparitor text : String} :
    (relation (Tree.comparitor comparitor) none).toLucene = .ok text ↔
      comparitor = "=" ∧ text = "" := by
  rw [toLucene_relation_none]
  split
  case isTrue same => simp [same, eq_comm]
  case isFalse differs => simp [differs]

/-- A relation with a boost is rendered as the boost behind a caret, if its comparitor is `=`. -/
theorem toLucene_relation_boost_eq_ok_iff {comparitor boost text : String} :
    (relation (Tree.comparitor comparitor) (some (modifierList [modifier (identifier boostModifier)
      (Tree.comparitor "=") (term boost)]))).toLucene = .ok text ↔
      comparitor = "=" ∧ text = "^" ++ boost := by
  have modifiers : (modifierList [modifier (identifier boostModifier) (Tree.comparitor "=")
      (term boost)]).toLucene = .ok ("^" ++ boost) :=
    toLucene_sole _ rfl
  rw [relation, toLucene_node]
  change luceneRelation [(Tree.comparitor comparitor, _), (_, toLucene _)] = _ ↔ _
  rw [modifiers]
  change (if comparitor = "=" then Except.ok ("^" ++ boost) else _) = _ ↔ _
  split
  case isTrue same => simp [same, eq_comm]
  case isFalse differs => simp [differs]

/-- A query is rendered as its clause. -/
theorem toLucene_cqlQuery (clause : Tree) : (cqlQuery clause).toLucene = clause.toLucene :=
  toLucene_sole clause rfl

/-- A group is its query in parentheses. -/
theorem toLucene_group_eq_ok_iff {clause : Tree} {text : String} :
    (group (cqlQuery clause)).toLucene = .ok text ↔
      ∃ query, clause.toLucene = .ok query ∧ text = "(" ++ query ++ ")" := by
  rw [group, toLucene_node]
  change (cqlQuery clause).toLucene.map _ = _ ↔ _
  rw [toLucene_cqlQuery]
  cases clause.toLucene with
  | error error => simp [Except.map]
  | ok query => simp [Except.map, eq_comm]

/-! ### Chains -/

/-- A clause that stands alone is rendered as its only part. -/
theorem toLucene_singleClause (clause : Tree) :
    (singleClause clause).toLucene = clause.toLucene :=
  toLucene_sole clause rfl

/-- Joined clauses are rendered if both sides are, with the boolean between blanks. -/
theorem toLucene_joinedClause_eq_ok_iff {left right : Tree} {operator text : String} :
    (joinedClause left (boolean operator) right).toLucene = .ok text ↔
      ∃ leftText rightText, left.toLucene = .ok leftText ∧ right.toLucene = .ok rightText ∧
        text = leftText ++ " " ++ (boolean operator).toCql ++ " " ++ rightText := by
  rw [joinedClause, toLucene_node]
  change luceneChildren [(left, left.toLucene), (_, .ok (boolean operator).toCql),
    (right, right.toLucene)] = _ ↔ _
  cases left.toLucene with
  | error error => simp [luceneChildren, bind, Except.bind, Except.map]
  | ok leftText =>
    cases right.toLucene with
    | error error => simp [luceneChildren, bind, Except.bind, Except.map]
    | ok rightText =>
      simp [luceneChildren, bind, Except.bind, pure, Except.pure, Except.map, String.append_assoc,
        eq_comm]

/-- The text of links: each boolean and clause with a space before it. -/
def linksLucene : List (Token × Clause) → Except UnsupportedError String
  | [] => .ok ""
  | (boolean, clause) :: rest => do
    let clause ← clause.tree.toLucene
    let rest ← linksLucene rest
    return " " ++ (Tree.boolean boolean.text).toCql ++ " " ++ clause ++ rest

/-- Links are rendered if the first one and the others are. -/
theorem linksLucene_cons_eq_ok_iff {boolean : Token} {clause : Clause}
    {rest : List (Token × Clause)} {text : String} :
    linksLucene ((boolean, clause) :: rest) = .ok text ↔
      ∃ clauseText restText, clause.tree.toLucene = .ok clauseText ∧
        linksLucene rest = .ok restText ∧
        text = " " ++ (Tree.boolean boolean.text).toCql ++ " " ++ clauseText ++ restText := by
  rw [linksLucene]
  cases clause.tree.toLucene with
  | error error => simp [bind, Except.bind]
  | ok clauseText =>
    cases linksLucene rest with
    | error error => simp [bind, Except.bind]
    | ok restText => simp [bind, Except.bind, pure, Except.pure, eq_comm]

/-- The links that follow a run are rendered in their order, behind the run. -/
theorem exists_of_toLucene_chainAfter {run : Tree} {links : List (Token × Clause)} {text : String}
    (rendered : (chainAfter run (Clause.linkTrees links)).toLucene = .ok text) :
    ∃ runText linksText, run.toLucene = .ok runText ∧ linksLucene links = .ok linksText ∧
      text = runText ++ linksText := by
  induction links generalizing run text with
  | nil => exact ⟨text, "", rendered, rfl, by simp⟩
  | cons link rest inductionHypothesis =>
    obtain ⟨boolean, clause⟩ := link
    have wrappedText : (if (Clause.linkTrees rest).isEmpty then singleClause clause.tree
        else clause.tree).toLucene = clause.tree.toLucene := by
      split
      · exact toLucene_singleClause _
      · rfl
    simp only [linksLucene_cons_eq_ok_iff, ← wrappedText]
    rw [Clause.linkTrees, chainAfter] at rendered
    generalize (if (Clause.linkTrees rest).isEmpty then singleClause clause.tree else clause.tree) =
      wrapped at rendered ⊢
    split at rendered
    · obtain ⟨runText, behind, runFound, found, rfl⟩ := toLucene_joinedClause_eq_ok_iff.mp rendered
      obtain ⟨clauseText, restText, clauseFound, restFound, rfl⟩ := inductionHypothesis found
      exact ⟨runText, _, runFound, ⟨clauseText, restText, clauseFound, restFound, rfl⟩,
        by simp [String.append_assoc]⟩
    · obtain ⟨joinedText, restText, found, restFound, rfl⟩ := inductionHypothesis rendered
      obtain ⟨runText, clauseText, runFound, clauseFound, rfl⟩ :=
        toLucene_joinedClause_eq_ok_iff.mp found
      exact ⟨runText, _, runFound, ⟨clauseText, restText, clauseFound, restFound, rfl⟩,
        by simp [String.append_assoc]⟩

/-- A chain is rendered as its clauses in their order with the booleans between them. -/
theorem exists_of_toLucene_chain {head : Tree} {links : List (Token × Clause)} {text : String}
    (rendered : (chain head (Clause.linkTrees links)).toLucene = .ok text) :
    ∃ headText linksText, head.toLucene = .ok headText ∧ linksLucene links = .ok linksText ∧
      text = headText ++ linksText := by
  rw [chain] at rendered
  cases links with
  | nil => exact ⟨text, "", by rwa [← toLucene_singleClause], rfl, by simp⟩
  | cons link rest => exact exists_of_toLucene_chainAfter rendered

end ContextualQuery.Tree
