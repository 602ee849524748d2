import ContextualQuery.Proofs.Expression.Derived
import ContextualQuery.Proofs.Expression.Searches

/-!
# Properties of all searches

A property of searches that does not depend on their flags holds everywhere in the expression of a query
exactly if it holds everywhere in those of its clauses. Linking clauses negates some of their
expressions and merges others, but it changes no index, term or boost.
-/

namespace ContextualQuery

namespace Expression

/-- Every search of the expression has the property. -/
def Everywhere (property : Search → Prop) (expression : Expression) : Prop :=
  ∀ parts ∈ expression.searches, property parts

/-- The property does not depend on whether the search is negated. -/
def IgnoresFlag (property : Search → Prop) : Prop :=
  ∀ (parts : Search) (mustNot : Bool), property { parts with mustNot } ↔ property parts

variable {property : Search → Prop} {left right run : Expression}

/-- A single search has the property everywhere if it has it. -/
theorem everywhere_search {parts : Search} :
    (Expression.search parts).Everywhere property ↔ property parts := by
  simp [Everywhere, searches]

/-- Negating the right side does not matter to a property that ignores the flag. -/
theorem IgnoresFlag.everywhere_linkSide (ignores : IgnoresFlag property) (boolean : Token)
    (right : Expression) :
    (linkSide boolean right).Everywhere property ↔ right.Everywhere property := by
  rw [linkSide]
  split
  · cases right with
    | search parts =>
      rw [negated, setMustNot, everywhere_search, everywhere_search]
      exact ignores parts true
    | nested => rfl
  · rfl

/-- Linked expressions have such a property everywhere exactly if both sides do. -/
theorem IgnoresFlag.everywhere_linked (ignores : IgnoresFlag property) (boolean : Token) :
    (linked boolean left right).Everywhere property ↔
      left.Everywhere property ∧ right.Everywhere property := by
  rw [← ignores.everywhere_linkSide boolean right]
  simp only [Everywhere, linked, searches_joined, List.forall_mem_append]

/-- An expression that links follow has such a property everywhere exactly if all of its parts
do. -/
theorem IgnoresFlag.everywhere_linkedAfter (ignores : IgnoresFlag property)
    (links : List (Token × Expression)) :
    (run.linkedAfter links).Everywhere property ↔
      run.Everywhere property ∧ ∀ link ∈ links, link.2.Everywhere property := by
  induction links generalizing run with
  | nil => simp [linkedAfter]
  | cons link rest inductionHypothesis =>
    obtain ⟨boolean, next⟩ := link
    rw [linkedAfter, List.forall_mem_cons]
    split
    · rw [ignores.everywhere_linked, inductionHypothesis]
    · rw [inductionHypothesis, ignores.everywhere_linked, and_assoc]

end Expression

open Expression

variable {property : Search → Prop}

/-- A group has the property if its clauses have. -/
theorem Clause.everywhere_group (ignores : IgnoresFlag property) (head : Clause)
    (links : List (Token × Clause)) :
    (Clause.group head links).expression.Everywhere property ↔
      head.expression.Everywhere property ∧
        ∀ link ∈ links, link.2.expression.Everywhere property := by
  rw [expression, ignores.everywhere_linkedAfter, linkExpressions_eq_map, List.forall_mem_map]

/-- A query has the property if its clauses have. -/
theorem Chain.everywhere_expression (ignores : IgnoresFlag property) (chain : Chain) :
    chain.expression.Everywhere property ↔
      chain.head.expression.Everywhere property ∧
        ∀ link ∈ chain.links, link.2.expression.Everywhere property :=
  Clause.everywhere_group ignores chain.head chain.links

end ContextualQuery
