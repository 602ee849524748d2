import ContextualQuery.Tree.Basic

/-!
# Queries and clauses within a tree

The queries, the scoped clauses and the search clauses among the trees within a tree, and those of
them that hold terms, from the left. For the shapes that the parser builds, they are those of the
parts behind the tree itself.
-/

namespace ContextualQuery

namespace Tree

mutual

/-- The trees within a tree, itself included, each before those below it. -/
def subtrees : Tree → List Tree
  | .text value => [.text value]
  | .node kind children => .node kind children :: subtreesAll children

/-- The trees within a list of trees. -/
def subtreesAll : List Tree → List Tree
  | [] => []
  | head :: tail => subtrees head ++ subtreesAll tail

end

/-- What is true of all trees within a node is true of the node and within its children. -/
theorem forall_mem_subtrees_node {property : Tree → Prop} {kind : Kind} {children : List Tree} :
    (∀ inner ∈ (node kind children).subtrees, property inner) ↔
      property (node kind children) ∧
        ∀ child ∈ children, ∀ inner ∈ child.subtrees, property inner := by
  have split : ∀ trees : List Tree, (∀ inner ∈ subtreesAll trees, property inner) ↔
      ∀ tree ∈ trees, ∀ inner ∈ tree.subtrees, property inner := by
    intro trees
    induction trees with
    | nil => simp [subtreesAll]
    | cons head tail inductionHypothesis =>
      rw [subtreesAll, List.forall_mem_append, inductionHypothesis, List.forall_mem_cons]
  rw [subtrees, List.forall_mem_cons, split]

/-- A tree is among the trees within it. -/
theorem self_mem_subtrees (tree : Tree) : tree ∈ tree.subtrees := by
  cases tree <;> simp [subtrees]

/-- To show a property of all trees, it is enough to show it of a tree whenever all trees below it have
it, at whatever depth. -/
theorem within_induct {motive : Tree → Prop}
    (step : ∀ tree, (∀ child ∈ tree.children, ∀ inner ∈ child.subtrees, motive inner) → motive tree)
    (tree : Tree) : motive tree := by
  have within : ∀ inner ∈ tree.subtrees, motive inner := by
    induction tree with
    | text value =>
      intro inner member
      obtain rfl : inner = .text value := by simpa [subtrees] using member
      exact step _ (by simp [Tree.children])
    | node kind children below =>
      exact forall_mem_subtrees_node.mpr ⟨step _ below, below⟩
  exact within tree (self_mem_subtrees tree)

/-- What is within a child is within the tree. -/
theorem mem_subtrees_of_child {tree child inner : Tree} (isChild : child ∈ tree.children)
    (within : inner ∈ child.subtrees) : inner ∈ tree.subtrees := by
  cases tree with
  | text value => simp [Tree.children] at isChild
  | node kind children =>
    have all : ∀ inner ∈ (node kind children).subtrees, inner ∈ (node kind children).subtrees :=
      fun _ member => member
    exact (forall_mem_subtrees_node.mp all).2 child isChild inner within

/-- What is within a tree within is within the tree. -/
theorem mem_subtrees_trans {tree middle inner : Tree} (first : middle ∈ tree.subtrees)
    (second : inner ∈ middle.subtrees) : inner ∈ tree.subtrees := by
  induction tree generalizing middle with
  | text value =>
    obtain rfl : middle = .text value := by simpa [subtrees] using first
    exact second
  | node kind children below =>
    have each : ∀ middle ∈ (node kind children).subtrees,
        inner ∈ middle.subtrees → inner ∈ (node kind children).subtrees :=
      forall_mem_subtrees_node.mpr ⟨id, fun child isChild middle isMiddle within =>
        mem_subtrees_of_child isChild (below child isChild isMiddle within)⟩
    exact each middle first second

/-- A child at a place is one of the children. -/
theorem mem_children_of_child? {tree child : Tree} {place : Nat}
    (found : tree.child? place = some child) : child ∈ tree.children := by
  rw [child?, Option.filter_eq_some_iff] at found
  exact List.mem_of_getElem? found.1

/-- The tree is a query, a scoped clause or a search clause. -/
def isClausal (tree : Tree) : Bool :=
  tree.hasKind .cqlQuery || tree.hasKind .scopedClause || tree.hasKind .searchClause

/-- The queries and clauses within a tree. -/
def clausal (tree : Tree) : List Tree := tree.subtrees.filter isClausal

/-- A search clause that holds a term and not a query. -/
def isTermClause (tree : Tree) : Bool :=
  tree.hasKind .searchClause && !(tree.children.any (·.hasKind .cqlQuery))

/-- The search clauses within a tree that hold terms, from the left. -/
def termClauses (tree : Tree) : List Tree := tree.clausal.filter isTermClause

/-- There is a modifier within a tree. -/
def hasModifier (tree : Tree) : Bool := tree.subtrees.any (·.hasKind .modifier)

/-! ### Shapes that the parser builds -/

/-- The queries and clauses within a query are itself and those within its clause. -/
theorem clausal_cqlQuery (clause : Tree) :
    (cqlQuery clause).clausal = cqlQuery clause :: clause.clausal := by
  simp [clausal, cqlQuery, subtrees, subtreesAll, isClausal, hasKind, kind?]

/-- The queries and clauses within a group are itself and those within its query. -/
theorem clausal_group (query : Tree) : (group query).clausal = group query :: query.clausal := by
  simp [clausal, group, subtrees, subtreesAll, isClausal, hasKind, kind?]

/-- The queries and clauses within a clause that stands alone are itself and those within its
part. -/
theorem clausal_singleClause (clause : Tree) :
    (singleClause clause).clausal = singleClause clause :: clause.clausal := by
  simp [clausal, singleClause, subtrees, subtreesAll, isClausal, hasKind, kind?]

/-- The queries and clauses within joined clauses are itself and those within both sides. -/
theorem clausal_joinedClause (left right : Tree) (operator : String) :
    (joinedClause left (boolean operator) right).clausal =
      joinedClause left (boolean operator) right :: (left.clausal ++ right.clausal) := by
  simp [clausal, joinedClause, boolean, subtrees, subtreesAll, isClausal, hasKind, kind?]

/-- A query has the terms of its clause. -/
theorem termClauses_cqlQuery (clause : Tree) :
    (cqlQuery clause).termClauses = clause.termClauses := by
  rw [termClauses, clausal_cqlQuery, List.filter_cons_of_neg, ← termClauses]
  simp [isTermClause, cqlQuery, hasKind, kind?]

/-- A search clause with a query holds no term of its own. -/
theorem termClauses_group (clause : Tree) :
    (group (cqlQuery clause)).termClauses = (cqlQuery clause).termClauses := by
  rw [termClauses, clausal_group, List.filter_cons_of_neg, ← termClauses]
  simp [isTermClause, group, cqlQuery, children, hasKind, kind?]

/-- A clause that stands alone has the terms of its part. -/
theorem termClauses_singleClause (clause : Tree) :
    (singleClause clause).termClauses = clause.termClauses := by
  rw [termClauses, clausal_singleClause, List.filter_cons_of_neg, ← termClauses]
  simp [isTermClause, singleClause, hasKind, kind?]

/-- Joined clauses have the terms of both sides. -/
theorem termClauses_joinedClause (left right : Tree) (operator : String) :
    (joinedClause left (boolean operator) right).termClauses =
      left.termClauses ++ right.termClauses := by
  rw [termClauses, clausal_joinedClause, List.filter_cons_of_neg, List.filter_append,
    ← termClauses, ← termClauses]
  simp [isTermClause, joinedClause, hasKind, kind?]

end Tree

end ContextualQuery
