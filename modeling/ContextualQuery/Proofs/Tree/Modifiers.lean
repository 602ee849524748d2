import ContextualQuery.Proofs.Derivation
import ContextualQuery.Proofs.Tree.Clausal

/-!
# Modifiers within the trees of queries

The tree of a derivation has modifiers only where a boosted clause put them. So if there is a list of
modifiers anywhere within it, the options allow boosts, and every modifier within it has the name of
the boost. `BoostsOnly` says so of any tree; it holds of a node if it holds of the children, unless the
node itself is a list of modifiers or a modifier.
-/

namespace ContextualQuery

namespace Tree

/-- There is a list of modifiers within a tree. -/
def hasModifierList (tree : Tree) : Bool := tree.subtrees.any (·.hasKind .modifierList)

/-- The name of a modifier, which is the text of its first part. -/
def modifierName? (tree : Tree) : Option String :=
  if tree.hasKind .modifier then (tree.child? 0).bind text? else none

/-- The names of the modifiers within a tree. -/
def modifierNames (tree : Tree) : List String := tree.subtrees.filterMap modifierName?

/-- Lists of modifiers stand within the tree only if the options allow boosts, and modifiers only with
the name of the boost. -/
def BoostsOnly (options : Options) (tree : Tree) : Prop :=
  ∀ inner ∈ tree.subtrees,
    (inner.hasKind .modifierList = true → options.supportsModifierName boostModifier = true) ∧
      ∀ name ∈ inner.modifierName?, name = boostModifier

variable {options : Options}

/-- A text has no modifiers. -/
theorem boostsOnly_text (value : String) : BoostsOnly options (.text value) := by
  simp [BoostsOnly, subtrees, hasKind, kind?, modifierName?]

/-- A node that is neither a list of modifiers nor a modifier adds nothing to its children. -/
theorem boostsOnly_node {kind : Kind} (plain : kind ≠ .modifierList ∧ kind ≠ .modifier)
    {children : List Tree} :
    BoostsOnly options (node kind children) ↔ ∀ child ∈ children, BoostsOnly options child := by
  simp [BoostsOnly, forall_mem_subtrees_node, hasKind, kind?, modifierName?, plain]

/-- A boolean has no modifiers. -/
theorem boostsOnly_boolean (operator : String) : BoostsOnly options (boolean operator) := by
  simp [boolean, boostsOnly_node, boostsOnly_text]

/-- A term has no modifiers. -/
theorem boostsOnly_term (value : String) : BoostsOnly options (term value) := by
  simp [term, boostsOnly_node, boostsOnly_text]

/-- A comparitor has no modifiers. -/
theorem boostsOnly_comparitor (value : String) : BoostsOnly options (comparitor value) := by
  simp [comparitor, boostsOnly_node, boostsOnly_text]

/-- The list of modifiers of a boosted clause is in order if boosts are allowed. -/
theorem boostsOnly_modifierList (allowed : options.supportsModifierName boostModifier = true)
    (boost : String) :
    BoostsOnly options
      (modifierList [modifier (identifier boostModifier) (comparitor "=") (term boost)]) := by
  have name : BoostsOnly options (identifier boostModifier) := by
    simp [identifier, boostsOnly_node, boostsOnly_text]
  refine forall_mem_subtrees_node.mpr ⟨⟨fun _ => allowed, by simp [modifierName?, hasKind, kind?]⟩,
    ?_⟩
  rw [List.forall_mem_singleton]
  refine forall_mem_subtrees_node.mpr ⟨⟨fun _ => allowed, ?_⟩, ?_⟩
  · intro name named
    exact (Option.some.inj named).symm
  · simpa using ⟨name, boostsOnly_comparitor "=", boostsOnly_term boost⟩

/-- The parts that hold a term hold nothing else. -/
theorem boostsOnly_index (value : String) : BoostsOnly options (index (term value)) := by
  simp [index, boostsOnly_node, boostsOnly_term]

/-- A search term has no modifiers. -/
theorem boostsOnly_searchTerm (value : String) : BoostsOnly options (searchTerm (term value)) := by
  simp [searchTerm, boostsOnly_node, boostsOnly_term]

/-- A clause with an index has the modifiers of its relation. -/
theorem boostsOnly_indexedSearchClause {modifiers? : Option Tree} (name comparitor value : String)
    (modifiers : ∀ list ∈ modifiers?, BoostsOnly options list) :
    BoostsOnly options (indexedSearchClause (index (term name))
      (relation (Tree.comparitor comparitor) modifiers?) (searchTerm (term value))) := by
  have related : BoostsOnly options (relation (Tree.comparitor comparitor) modifiers?) := by
    simpa [relation, boostsOnly_node, boostsOnly_comparitor] using modifiers
  simp [indexedSearchClause, boostsOnly_node, boostsOnly_index, boostsOnly_searchTerm, related]

/-! ### Chains -/

/-- A clause that stands alone has the modifiers of its part. -/
theorem boostsOnly_singleClause (clause : Tree) :
    BoostsOnly options (singleClause clause) ↔ BoostsOnly options clause := by
  simp [singleClause, boostsOnly_node]

/-- Joined clauses have the modifiers of both sides. -/
theorem boostsOnly_joinedClause (left right : Tree) (operator : String) :
    BoostsOnly options (joinedClause left (boolean operator) right) ↔
      BoostsOnly options left ∧ BoostsOnly options right := by
  simp [joinedClause, boostsOnly_node, boostsOnly_boolean]

variable {links : List (Token × Clause)}

/-- Joining the clauses of a chain adds no modifiers. -/
theorem boostsOnly_chainAfter {run : Tree} (runBoosts : BoostsOnly options run)
    (clauses : ∀ link ∈ links, BoostsOnly options link.2.tree) :
    BoostsOnly options (chainAfter run (Clause.linkTrees links)) := by
  induction links generalizing run with
  | nil => exact runBoosts
  | cons link rest inductionHypothesis =>
    obtain ⟨boolean, clause⟩ := link
    obtain ⟨clauseBoosts, laterBoosts⟩ := List.forall_mem_cons.mp clauses
    have wrappedBoosts : BoostsOnly options
        (if (Clause.linkTrees rest).isEmpty then singleClause clause.tree else clause.tree) := by
      split
      · exact (boostsOnly_singleClause _).mpr clauseBoosts
      · exact clauseBoosts
    rw [Clause.linkTrees, chainAfter]
    generalize (if (Clause.linkTrees rest).isEmpty then singleClause clause.tree else clause.tree) =
      wrapped at wrappedBoosts ⊢
    split
    · exact (boostsOnly_joinedClause _ _ _).mpr
        ⟨runBoosts, inductionHypothesis wrappedBoosts laterBoosts⟩
    · exact inductionHypothesis
        ((boostsOnly_joinedClause _ _ _).mpr ⟨runBoosts, wrappedBoosts⟩) laterBoosts

/-- A query has the modifiers of the clauses of its chain. -/
theorem boostsOnly_chain {head : Tree} (headBoosts : BoostsOnly options head)
    (clauses : ∀ link ∈ links, BoostsOnly options link.2.tree) :
    BoostsOnly options (cqlQuery (chain head (Clause.linkTrees links))) := by
  have chained : BoostsOnly options (chain head (Clause.linkTrees links)) := by
    rw [chain]
    split
    · exact (boostsOnly_singleClause head).mpr headBoosts
    · exact boostsOnly_chainAfter headBoosts clauses
  simpa [cqlQuery, boostsOnly_node] using chained

end Tree

variable {options : Options}

/-- The tree of a clause has boosts only, and these only if they are allowed. -/
theorem Clause.Formed.boostsOnly {clause : Clause} (formed : clause.Formed options) :
    clause.tree.BoostsOnly options := by
  induction formed with
  | word =>
    simp [Clause.tree, Tree.searchClause, Tree.boostsOnly_node, Tree.boostsOnly_searchTerm]
  | indexed =>
    exact Tree.boostsOnly_indexedSearchClause _ _ _ (by simp)
  | boosted _ _ allowed =>
    exact Tree.boostsOnly_indexedSearchClause _ _ _
      (by simpa using Tree.boostsOnly_modifierList allowed _)
  | group _ _ _ headHypothesis linkHypothesis =>
    have inner := Tree.boostsOnly_chain headHypothesis linkHypothesis
    simpa [Clause.tree, Tree.group, Tree.boostsOnly_node] using inner

/-- The tree of a query has boosts only, and these only if they are allowed. -/
theorem Chain.Formed.boostsOnly {chain : Chain} (formed : chain.Formed options) :
    chain.tree.BoostsOnly options :=
  Tree.boostsOnly_chain formed.head.boostsOnly fun link member =>
    (formed.clauses link member).boostsOnly

end ContextualQuery
