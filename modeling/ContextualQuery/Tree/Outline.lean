import ContextualQuery.Text.LetterCase
import ContextualQuery.Tree.Traversal

/-!
# Outlines of trees

Small traversals: the kinds of all nodes, the number of terms, a line that shows the nesting, and a
copy of the tree with every index in upper case.
-/

namespace ContextualQuery.Tree

/-- The traversal that lists the kinds of the nodes, each before those below it. -/
def kindTraversal : Traversal (List Kind) where
  text := fun _ => []
  combine := fun kind children => kind :: children.flatMap Prod.snd

/-- The kinds of the nodes of a tree, each before those below it. -/
def kinds (tree : Tree) : List Kind := tree.accept kindTraversal

/-- The sum of the values of children. -/
def sumValues (children : List (Tree × Nat)) : Nat :=
  children.foldr (fun child sum => child.2 + sum) 0

/-- The traversal that counts terms. What stands below a term is not counted. -/
def termTraversal : Traversal Nat where
  text := fun _ => 0
  combine := fun _ => sumValues
  visit := fun kind children => if kind = .term then 1 else sumValues children

/-- The number of terms of a tree. -/
def termCount (tree : Tree) : Nat := tree.accept termTraversal

/-- The traversal that writes the nesting of a tree on one line. -/
def traceTraversal : Traversal String where
  text := fun value => "'" ++ value ++ "'"
  combine := fun kind children =>
    kind.name ++ "<" ++ "|".intercalate (children.map Prod.snd) ++ ">"

/-- The nesting of a tree on one line. -/
def trace (tree : Tree) : String := tree.accept traceTraversal

/-- An index in upper case. -/
def upperIndex (tree : Tree) : Tree := index (term (Text.upper (tree.termText?.getD "")))

/-- A tree with every outermost index in upper case. -/
def upperIndexes (tree : Tree) : Tree :=
  tree.accept (Traversal.replacing fun kind => if kind = .index then some upperIndex else none)

/-- A copy of a tree. -/
def copy (tree : Tree) : Tree := tree.accept Traversal.copying

/-- Copying a tree gives the tree. -/
theorem copy_eq (tree : Tree) : tree.copy = tree := by
  induction tree with
  | text value => rfl
  | node kind children each =>
    have same : children.map copy = children :=
      (List.map_congr_left each).trans (List.map_id' children)
    rw [copy, accept_node]
    change Tree.node kind ((children.map fun child => (child, child.copy)).map Prod.snd) = _
    rw [List.map_map]
    exact congrArg (Tree.node kind) same

end ContextualQuery.Tree
