import ContextualQuery.Options
import ContextualQuery.Tree.Chain
import ContextualQuery.Tree.Cql

/-!
# The texts of query trees

The text of each shape that the parser builds, from the texts of its parts. The nesting of scoped
clauses in the tree of a chain leaves no trace in its text: however the runs of the chain are
joined, the text has its clauses in their order with the booleans between them.
-/

namespace ContextualQuery.Tree

/-- The text of a node, from its children with their texts. -/
theorem toCql_node (kind : Kind) (children : List Tree) :
    (node kind children).toCql =
      cqlTraversal.visit kind (children.map fun child => (child, child.toCql)) :=
  accept_node cqlTraversal kind children

/-- An index is rendered as its term. -/
@[simp] theorem toCql_index (value : String) :
    (index (term value)).toCql = Token.quoteTerm value := by
  rw [index, toCql_node]
  simp [cqlTraversal, spaceSeparated]

/-- A search term is rendered as its term. -/
@[simp] theorem toCql_searchTerm (value : String) :
    (searchTerm (term value)).toCql = Token.quoteTerm value := by
  rw [searchTerm, toCql_node]
  simp [cqlTraversal, spaceSeparated]

/-- Children that are nodes are rendered without anything between them. -/
theorem concatNodes_of_nodes {children : List (Tree × String)}
    (nodes : ∀ child ∈ children, child.1.isNode = true) :
    concatNodes children = String.join (children.map Prod.snd) := by
  rw [concatNodes, Traversal.nodeValues, List.filter_eq_self.mpr nodes]

/-- A search clause that is no group is rendered part by part. -/
theorem toCql_searchClause_eq {head : Tree} {rest : List Tree}
    (nodes : ∀ child ∈ head :: rest, child.isNode = true) (noGroup : head.kind? ≠ some .cqlQuery) :
    (node .searchClause (head :: rest)).toCql = String.join ((head :: rest).map toCql) := by
  rw [toCql_node]
  change cqlSearchClause _ = _
  rw [List.map_cons, cqlSearchClause.eq_def]
  split
  case h_1 shape =>
    obtain ⟨same, _⟩ := List.cons.inj shape
    rw [(Prod.mk.inj same).1] at noGroup
    exact absurd rfl noGroup
  case h_2 =>
    have nodesOnly : ∀ child ∈ (head :: rest).map fun child => (child, child.toCql),
        child.1.isNode = true := List.forall_mem_map.mpr nodes
    rw [List.map_cons] at nodesOnly
    rw [concatNodes_of_nodes nodesOnly]
    simp [Function.comp_def]

/-- A clause with a term alone is rendered as its term. -/
theorem toCql_searchClause (value : String) :
    (searchClause (searchTerm (term value))).toCql = Token.quoteTerm value := by
  rw [searchClause, toCql_searchClause_eq (by simp [searchTerm]) (by simp [searchTerm, kind?])]
  simp [String.join]

/-- A clause with an index is rendered part by part. -/
theorem toCql_indexedSearchClause (name value comparitor : String) (modifiers? : Option Tree) :
    (indexedSearchClause (index (term name)) (relation (Tree.comparitor comparitor) modifiers?)
      (searchTerm (term value))).toCql =
      Token.quoteTerm name ++ (relation (Tree.comparitor comparitor) modifiers?).toCql ++
        Token.quoteTerm value := by
  rw [indexedSearchClause, toCql_searchClause_eq (by simp [searchTerm, relation, index])
    (by simp [index, kind?])]
  simp [String.join]

/-- A relation without modifiers is its comparitor. -/
theorem toCql_relation_none (value : String) :
    (relation (comparitor value) none).toCql = spacedRelation value := by
  rw [relation, toCql_node]
  change spacedRelation (concatNodes [(comparitor value, value)]) = _
  rw [concatNodes_of_nodes (by simp [comparitor])]
  simp [String.join]

/-- A boost is written behind a slash. -/
theorem toCql_modifierList (boost : String) :
    (modifierList [modifier (identifier boostModifier) (comparitor "=") (term boost)]).toCql =
      "/boost=" ++ Token.quoteTerm boost := by
  rw [modifierList, toCql_node, modifier, List.map_cons, toCql_node]
  change "/" ++ concatNodes [(_, boostModifier), (_, "="), (_, Token.quoteTerm boost)] = _
  rw [concatNodes_of_nodes (by simp [comparitor, identifier, term])]
  rw [← String.toList_inj]
  simp [String.join, boostModifier]

/-- A relation with a boost has spaces around it, whatever its comparitor. -/
theorem toCql_relation_boost (value boost : String) :
    (relation (comparitor value) (some (modifierList [modifier (identifier boostModifier)
      (comparitor "=") (term boost)]))).toCql =
      " " ++ (value ++ ("/boost=" ++ Token.quoteTerm boost)) ++ " " := by
  rw [relation, toCql_node]
  change spacedRelation (concatNodes [(comparitor value, value), (_, toCql _)]) = _
  rw [concatNodes_of_nodes (by simp [comparitor, modifierList]), toCql_modifierList]
  have modified : value ++ ("/boost=" ++ Token.quoteTerm boost) ≠ "=" := by
    intro same
    have lengths := congrArg String.length same
    simp only [String.length_append, show "/boost=".length = 7 by decide,
      show "=".length = 1 by decide] at lengths
    omega
  simp [String.join, spacedRelation, modified]

/-- A group is its query in parentheses. -/
theorem toCql_group (clause : Tree) :
    (group (cqlQuery clause)).toCql = "(" ++ clause.toCql ++ ")" := by
  rw [group, toCql_node]
  rfl

/-! ### Chains -/

/-- A clause that stands alone is rendered as its only part. -/
@[simp] theorem toCql_singleClause (clause : Tree) :
    (singleClause clause).toCql = clause.toCql := by
  rw [singleClause, toCql_node]
  simp [cqlTraversal, spaceSeparated]

/-- Joined clauses are rendered with the boolean between blanks. -/
@[simp] theorem toCql_joinedClause (left boolean right : Tree) :
    (joinedClause left boolean right).toCql =
      left.toCql ++ " " ++ boolean.toCql ++ " " ++ right.toCql := by
  rw [joinedClause, toCql_node]
  rfl

/-- The text of links: each boolean and clause with a space before it. -/
def linksText : List Link → String
  | [] => ""
  | (boolean, clause) :: rest => " " ++ boolean.toCql ++ " " ++ clause.toCql ++ linksText rest

/-- The links that follow a run are rendered in their order, behind the run. -/
theorem toCql_chainAfter (run : Tree) (links : List Link) :
    (chainAfter run links).toCql = run.toCql ++ linksText links := by
  induction links generalizing run with
  | nil => simp [chainAfter, linksText]
  | cons link rest inductionHypothesis =>
    obtain ⟨boolean, clause⟩ := link
    have sameText :
        (if rest.isEmpty then singleClause clause else clause).toCql = clause.toCql := by
      split <;> simp
    rw [chainAfter, linksText, ← sameText]
    generalize (if rest.isEmpty then singleClause clause else clause) = wrapped
    split
    · rw [toCql_joinedClause, inductionHypothesis]
      simp [String.append_assoc]
    · rw [inductionHypothesis, toCql_joinedClause]
      simp [String.append_assoc]

/-- A chain is rendered as its clauses in their order with the booleans between them. -/
theorem toCql_chain (head : Tree) (links : List Link) :
    (chain head links).toCql = head.toCql ++ linksText links := by
  rw [chain]
  cases links with
  | nil => simp [linksText]
  | cons link rest => simpa using toCql_chainAfter head (link :: rest)

end ContextualQuery.Tree
