import ContextualQuery.Text.Quoted
import ContextualQuery.Tree.Basic

/-!
# Printed trees

A tree is printed on one line, as the name of its kind with the children in parentheses and texts
quoted, or on several lines with every node on a line of its own. Quoting makes the line unambiguous
whatever characters the texts hold. The lines leave out texts that stand beside other children.
-/

namespace ContextualQuery.Tree

mutual

/-- A tree on one line. -/
def display : Tree → String
  | .text value => Text.quoted value
  | .node kind children => kind.name ++ "(" ++ ", ".intercalate (displayAll children) ++ ")"

/-- The children of a node, each on one line. -/
def displayAll : List Tree → List String
  | [] => []
  | child :: rest => display child :: displayAll rest

end

/-- The indentation at a depth: four spaces for each level. -/
def indentation (depth : Nat) : String := String.ofList (List.replicate (4 * depth) ' ')

mutual

/-- A tree on several lines, indented for a depth. -/
def prettyAt (depth : Nat) : Tree → String
  | .text value => indentation depth ++ Text.quoted value
  | .node kind [.text value] =>
    indentation depth ++ kind.name ++ "(" ++ Text.quoted value ++ ")"
  | .node kind children =>
    indentation depth ++ kind.name ++ "(\n" ++
      ",\n".intercalate (prettyNodes (depth + 1) children) ++
      "\n" ++ indentation depth ++ ")"

/-- The children that are nodes, each on several lines. -/
def prettyNodes (depth : Nat) : List Tree → List String
  | [] => []
  | .text _ :: rest => prettyNodes depth rest
  | .node kind children :: rest =>
    prettyAt depth (.node kind children) :: prettyNodes depth rest

end

/-- A tree on several lines. -/
def pretty (tree : Tree) : String := prettyAt 0 tree

/-- The displays of children are those of each child. -/
theorem displayAll_eq_map (children : List Tree) : displayAll children = children.map display := by
  induction children with
  | nil => rfl
  | cons child rest inductionHypothesis => simp [displayAll, inductionHypothesis]

/-- The printed nodes among children are those of each node. -/
theorem prettyNodes_eq_map (depth : Nat) (children : List Tree) :
    prettyNodes depth children = (children.filter isNode).map (prettyAt depth) := by
  induction children with
  | nil => rfl
  | cons child rest inductionHypothesis =>
    cases child <;> simp [prettyNodes, List.filter_cons, inductionHypothesis]

end ContextualQuery.Tree
