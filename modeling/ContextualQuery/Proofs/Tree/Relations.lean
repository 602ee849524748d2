import ContextualQuery.Proofs.Expression.Derived
import ContextualQuery.Proofs.Tree.Clausal

/-!
# Relations within the trees of queries

The comparitors of the relations within a tree, from the left. A tree that the parser builds has one for
each clause with an index, a relation and a term, and none elsewhere: joining clauses puts their
comparitors one after the other, and the comparitor that every modifier has is not that of a relation.
Under some options, all of them are comparitors that the options support.
-/

namespace ContextualQuery

namespace Tree

/-- The comparitor of a relation, which is the text of its first part. -/
def comparitor? (tree : Tree) : Option String :=
  if tree.hasKind .relation then (tree.child? 0).bind text? else none

/-- The comparitors of the relations within a tree, from the left. -/
def relationComparitors (tree : Tree) : List String := tree.subtrees.filterMap comparitor?

/-- The tree is a search clause with an index, a relation and a search term. -/
def isIndexed (tree : Tree) : Bool :=
  tree.hasKind .searchClause &&
    tree.children.map kind? == [some .index, some .relation, some .searchTerm]

/-- There is a search clause with an index, a relation and a search term within a tree. -/
def hasIndexedClause (tree : Tree) : Bool := tree.termClauses.any isIndexed

/-! ### Shapes that the parser builds -/

/-- A word has no relation. -/
theorem relationComparitors_word (value : String) :
    (searchClause (searchTerm (term value))).relationComparitors = [] := rfl

/-- A clause with an index has the comparitor of its relation. -/
theorem relationComparitors_indexed (name comparitor value : String) :
    (indexedSearchClause (index (term name)) (relation (Tree.comparitor comparitor) none)
      (searchTerm (term value))).relationComparitors = [comparitor] := rfl

/-- The comparitor of the modifier of a boosted clause is not that of a relation. -/
theorem relationComparitors_boosted (name comparitor boost value : String) :
    (indexedSearchClause (index (term name)) (relation (Tree.comparitor comparitor)
      (some (modifierList [modifier (identifier boostModifier) (Tree.comparitor "=") (term boost)])))
      (searchTerm (term value))).relationComparitors = [comparitor] := rfl

/-- A query has the relations of its clause. -/
theorem relationComparitors_cqlQuery (clause : Tree) :
    (cqlQuery clause).relationComparitors = clause.relationComparitors := by
  simp [relationComparitors, cqlQuery, subtrees, subtreesAll, comparitor?, hasKind, kind?]

/-- A group has the relations of its query. -/
theorem relationComparitors_group (query : Tree) :
    (group query).relationComparitors = query.relationComparitors := by
  simp [relationComparitors, group, subtrees, subtreesAll, comparitor?, hasKind, kind?]

/-- A clause that stands alone has the relations of its part. -/
theorem relationComparitors_singleClause (clause : Tree) :
    (singleClause clause).relationComparitors = clause.relationComparitors := by
  simp [relationComparitors, singleClause, subtrees, subtreesAll, comparitor?, hasKind, kind?]

/-- Joined clauses have the relations of both sides, the left ones first. -/
theorem relationComparitors_joinedClause (left right : Tree) (operator : String) :
    (joinedClause left (boolean operator) right).relationComparitors =
      left.relationComparitors ++ right.relationComparitors := by
  simp [relationComparitors, joinedClause, boolean, subtrees, subtreesAll, comparitor?, hasKind, kind?]

/-- The comparitors of a chain are those of its clauses. -/
theorem relationComparitors_chainAfter (run : Tree) (links : List (Token × Clause)) :
    (chainAfter run (Clause.linkTrees links)).relationComparitors =
      run.relationComparitors ++ links.flatMap fun link => link.2.tree.relationComparitors := by
  induction links generalizing run with
  | nil => simp [Clause.linkTrees, chainAfter]
  | cons link rest inductionHypothesis =>
    obtain ⟨boolean, clause⟩ := link
    have wrapped : (if (Clause.linkTrees rest).isEmpty then singleClause clause.tree
        else clause.tree).relationComparitors = clause.tree.relationComparitors := by
      split
      · exact relationComparitors_singleClause _
      · rfl
    rw [Clause.linkTrees, chainAfter]
    generalize (if (Clause.linkTrees rest).isEmpty then singleClause clause.tree else clause.tree) =
      wrapping at wrapped ⊢
    split
    · rw [relationComparitors_joinedClause, inductionHypothesis, wrapped, List.flatMap_cons]
    · rw [inductionHypothesis, relationComparitors_joinedClause, wrapped, List.flatMap_cons,
        List.append_assoc]

/-- A chain has the relations of its clauses, from the left. -/
theorem relationComparitors_chain (head : Tree) (links : List (Token × Clause)) :
    (chain head (Clause.linkTrees links)).relationComparitors =
      head.relationComparitors ++ links.flatMap fun link => link.2.tree.relationComparitors := by
  cases links with
  | nil => simpa [Clause.linkTrees, chain] using relationComparitors_singleClause head
  | cons link rest => exact relationComparitors_chainAfter head (link :: rest)

/-- A query or clause has relations exactly if a clause within it has an index. -/
theorem AsksFor.hasIndexedClause_iff {tree : Tree} {expression : Expression}
    (asks : AsksFor tree expression) :
    tree.hasIndexedClause = true ↔ tree.relationComparitors ≠ [] := by
  induction asks with
  | word value => exact iff_of_false Bool.false_ne_true (by simp [relationComparitors_word])
  | indexed name comparitor value => exact iff_of_true rfl (by simp [relationComparitors_indexed])
  | boosted name comparitor value read =>
    exact iff_of_true rfl (by simp [relationComparitors_boosted])
  | cqlQuery _ inductionHypothesis =>
    rwa [hasIndexedClause, termClauses_cqlQuery, relationComparitors_cqlQuery]
  | group _ inductionHypothesis =>
    rwa [hasIndexedClause, termClauses_group, relationComparitors_group]
  | singleClause _ inductionHypothesis =>
    rwa [hasIndexedClause, termClauses_singleClause, relationComparitors_singleClause]
  | joinedClause _ _ _ leftHypothesis rightHypothesis =>
    rw [hasIndexedClause] at leftHypothesis rightHypothesis
    rw [hasIndexedClause, termClauses_joinedClause, relationComparitors_joinedClause, List.any_append,
      Bool.or_eq_true, leftHypothesis, rightHypothesis, Ne, Ne, Ne, List.append_eq_nil_iff,
      Decidable.not_and_iff_or_not]

end Tree

variable {options : Options}

/-- The relations of a clause have comparitors of the language that the options support. -/
theorem Clause.Formed.supported_relationComparitors {clause : Clause}
    (formed : clause.Formed options) :
    ∀ comparitor ∈ clause.tree.relationComparitors, Token.IsComparitor options ⟨comparitor⟩ := by
  induction formed with
  | word => simp [Clause.tree, Tree.relationComparitors_word]
  | indexed _ supported =>
    simpa [Clause.tree, Tree.relationComparitors_indexed] using supported
  | boosted _ supported =>
    simpa [Clause.tree, Tree.relationComparitors_boosted] using supported
  | group _ _ _ headHypothesis linkHypothesis =>
    intro comparitor member
    rw [Clause.tree, Tree.relationComparitors_group, Tree.relationComparitors_cqlQuery,
      Tree.relationComparitors_chain] at member
    rcases List.mem_append.mp member with inHead | inLinks
    · exact headHypothesis comparitor inHead
    · obtain ⟨link, isLink, inLink⟩ := List.mem_flatMap.mp inLinks
      exact linkHypothesis link isLink comparitor inLink

/-- The relations of a query have comparitors of the language that the options support. -/
theorem Chain.Formed.supported_relationComparitors {chain : Chain} (formed : chain.Formed options) :
    ∀ comparitor ∈ chain.tree.relationComparitors, Token.IsComparitor options ⟨comparitor⟩ := by
  intro comparitor member
  rw [Chain.tree, Tree.relationComparitors_cqlQuery, Tree.relationComparitors_chain] at member
  rcases List.mem_append.mp member with inHead | inLinks
  · exact formed.head.supported_relationComparitors comparitor inHead
  · obtain ⟨link, isLink, inLink⟩ := List.mem_flatMap.mp inLinks
    exact (formed.clauses link isLink).supported_relationComparitors comparitor inLink

end ContextualQuery
