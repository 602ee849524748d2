import ContextualQuery.Proofs.Rendering.LuceneShapes
import ContextualQuery.Proofs.Tree.Relations

/-!
# When query trees can be rendered for Lucene

The leftmost relation with another comparitor than `=` is the only obstacle to rendering a tree that the
parser builds, however deep it stands in groups and scoped clauses. Children are rendered from the left,
and the first error among them is passed on unchanged, so the error for the whole tree is the one for
that relation.
-/

namespace ContextualQuery.Tree

/-- The error of a rendering that failed. -/
def refusal? : Except UnsupportedError String → Option UnsupportedError
  | .ok _ => none
  | .error error => some error

/-- The error with which a tree is refused by the rendering for Lucene. -/
def luceneError? (tree : Tree) : Option UnsupportedError := refusal? tree.toLucene

/-- The error for a relation with a comparitor. -/
def relationError (comparitor : String) : UnsupportedError :=
  UnsupportedError.ofFeature (.luceneRelation comparitor) comparitor

/-- There is no error exactly if the rendering gives a text. -/
theorem luceneError?_eq_none_iff {tree : Tree} :
    tree.luceneError? = none ↔ ∃ text, tree.toLucene = .ok text := by
  rw [luceneError?]
  cases tree.toLucene <;> simp [refusal?]

/-- There is an error exactly if the rendering fails with it. -/
theorem luceneError?_eq_some_iff {tree : Tree} {error : UnsupportedError} :
    tree.luceneError? = some error ↔ tree.toLucene = .error error := by
  rw [luceneError?]
  cases tree.toLucene <;> simp [refusal?]

/-! ### Shapes that the parser builds -/

/-- A word is never an error. -/
theorem luceneError?_word (value : String) :
    (searchClause (searchTerm (term value))).luceneError? = none :=
  luceneError?_eq_none_iff.mpr ⟨_, toLucene_searchClause value⟩

/-- A clause with an index is refused as its relation is: its index and its term never are. -/
theorem luceneError?_indexedSearchClause (name value : String) (comparitor : Tree)
    (modifiers? : Option Tree) :
    (indexedSearchClause (index (term name)) (relation comparitor modifiers?)
      (searchTerm (term value))).luceneError? = (relation comparitor modifiers?).luceneError? := by
  rw [luceneError?, indexedSearchClause, toLucene_node, List.map_cons, List.map_cons, List.map_singleton,
    toLucene_index, toLucene_searchTerm]
  change refusal? (Except.bind _ _) = refusal? (relation comparitor modifiers?).toLucene
  cases (relation comparitor modifiers?).toLucene <;> rfl

/-- A relation is refused unless its comparitor is `=`. -/
theorem luceneError?_relation_none (comparitor : String) :
    (relation (Tree.comparitor comparitor) none).luceneError? =
      if comparitor = "=" then none else some (relationError comparitor) := by
  rw [luceneError?, toLucene_relation_none]
  split <;> rfl

/-- A boost changes nothing about it. -/
theorem luceneError?_relation_boost (comparitor boost : String) :
    (relation (Tree.comparitor comparitor) (some (modifierList [modifier (identifier boostModifier)
      (Tree.comparitor "=") (term boost)]))).luceneError? =
      if comparitor = "=" then none else some (relationError comparitor) := by
  split
  case isTrue same =>
    exact luceneError?_eq_none_iff.mpr ⟨_, toLucene_relation_boost_eq_ok_iff.mpr ⟨same, rfl⟩⟩
  case isFalse differs =>
    rw [luceneError?_eq_some_iff, relation, toLucene_node]
    change (if comparitor = "=" then _ else Except.error (relationError comparitor)) = _
    rw [if_neg differs]

/-- A query fails as its clause does. -/
theorem luceneError?_cqlQuery (clause : Tree) :
    (cqlQuery clause).luceneError? = clause.luceneError? := by
  rw [luceneError?, toLucene_cqlQuery, luceneError?]

/-- A group fails as its query does. -/
theorem luceneError?_group (clause : Tree) :
    (group (cqlQuery clause)).luceneError? = clause.luceneError? := by
  rw [luceneError?, group, toLucene_node, luceneError?]
  change refusal? ((cqlQuery clause).toLucene.map _) = _
  rw [toLucene_cqlQuery]
  cases clause.toLucene <;> rfl

/-- A clause that stands alone fails as its only part does. -/
theorem luceneError?_singleClause (clause : Tree) :
    (singleClause clause).luceneError? = clause.luceneError? := by
  rw [luceneError?, toLucene_singleClause, luceneError?]

/-- Two clauses are refused as the left one is, or else as the right one is. -/
theorem luceneError?_joinedClause (left right : Tree) (operator : String) :
    (joinedClause left (boolean operator) right).luceneError? =
      left.luceneError?.or right.luceneError? := by
  rw [luceneError?, joinedClause, toLucene_node, luceneError?, luceneError?]
  change refusal? (luceneChildren [(left, left.toLucene), (_, .ok (boolean operator).toCql),
    (right, right.toLucene)]) = _
  cases left.toLucene with
  | error error => rfl
  | ok leftText => cases right.toLucene <;> rfl

/-- A query or clause is refused exactly as the leftmost relation within it that has another comparitor
than `=`. -/
theorem AsksFor.luceneError? {tree : Tree} {expression : Expression}
    (asks : AsksFor tree expression) :
    tree.luceneError? = (tree.relationComparitors.find? (· != "=")).map relationError := by
  induction asks with
  | word value => rw [luceneError?_word, relationComparitors_word, List.find?_nil, Option.map_none]
  | indexed name comparitor value =>
    rw [luceneError?_indexedSearchClause, luceneError?_relation_none, relationComparitors_indexed]
    by_cases same : comparitor = "=" <;> simp [same]
  | boosted name comparitor value read =>
    rw [luceneError?_indexedSearchClause, luceneError?_relation_boost, relationComparitors_boosted]
    by_cases same : comparitor = "=" <;> simp [same]
  | cqlQuery _ inductionHypothesis =>
    rwa [luceneError?_cqlQuery, relationComparitors_cqlQuery]
  | group _ inductionHypothesis =>
    rwa [luceneError?_group, relationComparitors_group, ← luceneError?_cqlQuery]
  | singleClause _ inductionHypothesis =>
    rwa [luceneError?_singleClause, relationComparitors_singleClause]
  | joinedClause _ _ _ leftHypothesis rightHypothesis =>
    rw [luceneError?_joinedClause, relationComparitors_joinedClause, leftHypothesis,
      rightHypothesis, List.find?_append, Option.map_or]

/-- A query or clause can be rendered exactly if all relations within it have the comparitor `=`. -/
theorem AsksFor.exists_toLucene_iff {tree : Tree} {expression : Expression}
    (asks : AsksFor tree expression) :
    (∃ text, tree.toLucene = .ok text) ↔
      ∀ comparitor ∈ tree.relationComparitors, comparitor = "=" := by
  rw [← luceneError?_eq_none_iff, asks.luceneError?, Option.map_eq_none_iff, List.find?_eq_none]
  simp

end ContextualQuery.Tree
