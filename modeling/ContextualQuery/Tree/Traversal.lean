import ContextualQuery.Tree.Basic

/-!
# Traversals

A traversal computes a value for every tree from the values of its children. It says what a text
gives, how the values of a node's children are combined, and which kinds of node are handled in their
own way; a handler sees the children beside their values and may leave some of them unused. A
replacing traversal gives trees: it copies every node except those of the kinds that it replaces.
-/

namespace ContextualQuery

/-- A way to compute a value for every tree. `visit` handles the nodes of a kind; kinds without a
handler of their own are combined. -/
structure Traversal (α : Type) where
  text : String → α
  combine : Kind → List (Tree × α) → α
  visit : Kind → List (Tree × α) → α := combine

namespace Tree

mutual

/-- The value that a traversal computes for a tree. -/
def accept {α : Type} (traversal : Traversal α) : Tree → α
  | .text value => traversal.text value
  | .node kind children => traversal.visit kind (acceptAll traversal children)

/-- The children of a node with their values. -/
def acceptAll {α : Type} (traversal : Traversal α) : List Tree → List (Tree × α)
  | [] => []
  | child :: rest => (child, accept traversal child) :: acceptAll traversal rest

end

/-- A traversal accepts children one by one and keeps each beside what was found at it. -/
theorem acceptAll_eq_map {α : Type} (traversal : Traversal α) (children : List Tree) :
    acceptAll traversal children = children.map fun child => (child, child.accept traversal) := by
  induction children with
  | nil => rfl
  | cons child rest inductionHypothesis => simp [acceptAll, inductionHypothesis]

/-- At a text a traversal finds what it makes of the text. -/
@[simp] theorem accept_text {α : Type} (traversal : Traversal α) (value : String) :
    (Tree.text value).accept traversal = traversal.text value := rfl

/-- At a node a traversal finds what it makes of the findings at the children. -/
theorem accept_node {α : Type} (traversal : Traversal α) (kind : Kind) (children : List Tree) :
    (Tree.node kind children).accept traversal =
      traversal.visit kind (children.map fun child => (child, child.accept traversal)) := by
  rw [accept, acceptAll_eq_map]

end Tree

namespace Traversal

/-- The values of the children that are nodes. -/
def nodeValues {α : Type} (children : List (Tree × α)) : List α :=
  (children.filter (·.1.isNode)).map Prod.snd

/-- The traversal that copies every tree, except that a node of a kind with a replacement is replaced.
What it is replaced with is taken as it is. -/
def replacing (replacement? : Kind → Option (Tree → Tree)) : Traversal Tree where
  text := .text
  combine := fun kind children => .node kind (children.map Prod.snd)
  visit := fun kind children =>
    match replacement? kind with
    | some replacement => replacement (.node kind (children.map Prod.fst))
    | none => .node kind (children.map Prod.snd)

/-- The traversal that copies every tree. -/
def copying : Traversal Tree := replacing fun _ => none

end Traversal

end ContextualQuery
