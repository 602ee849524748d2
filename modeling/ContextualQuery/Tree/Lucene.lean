import ContextualQuery.Error
import ContextualQuery.Tree.Cql

/-!
# Trees as Lucene queries

A clause with an index becomes `index:term`, followed by `^` and the boost where there is one.
Booleans, terms and groups look as they do in a query text. Lucene has no counterpart of the
comparitors other than `=`, so the leftmost relation with another comparitor is reported.
-/

namespace ContextualQuery.Tree

/-- The values of all children between spaces, or the first error among them. -/
def luceneChildren (children : List (Tree × Except UnsupportedError String)) :
    Except UnsupportedError String :=
  (children.mapM Prod.snd).map (" ".intercalate ·)

/-- A search clause: a group in parentheses, an index with its term and boost, or a lone term. -/
def luceneSearchClause (children : List (Tree × Except UnsupportedError String)) :
    Except UnsupportedError String :=
  match children.filter (·.1.isNode) with
  | [(.node .cqlQuery _, query)] => query.map fun query => "(" ++ query ++ ")"
  | [(_, index), (_, relation), (_, searchTerm)] => do
    let index ← index
    let searchTerm ← searchTerm
    let relation ← relation
    return index ++ ":" ++ searchTerm ++ relation
  | _ => luceneChildren children

/-- A relation: nothing, or the boost of its modifiers. Only the comparitor `=` can be rendered. -/
def luceneRelation (children : List (Tree × Except UnsupportedError String)) :
    Except UnsupportedError String :=
  let comparitor := ((children[0]?.bind (·.1.text?)).getD "")
  if comparitor = "=" then
    match children[1]?.filter (·.1.isNode) with
    | some (_, modifiers) => modifiers
    | none => .ok ""
  else .error (UnsupportedError.ofFeature (.luceneRelation comparitor) comparitor)

/-- A modifier: its value as a boost. -/
def luceneModifier (children : List (Tree × Except UnsupportedError String)) : String :=
  "^" ++ (children[2]?.bind (·.1.text?)).getD ""

/-- The traversal that renders a tree as a Lucene query. -/
def luceneTraversal : Traversal (Except UnsupportedError String) where
  text := .ok
  combine := fun _ children => luceneChildren children
  visit := fun kind children =>
    match kind with
    | .searchClause => luceneSearchClause children
    | .boolean => .ok (Text.upper (Traversal.soleText children))
    | .relation => luceneRelation children
    | .modifier => .ok (luceneModifier children)
    | .term => .ok (Token.quoteTerm (Traversal.soleText children))
    | _ => luceneChildren children

/-- A tree as a Lucene query. -/
def toLucene (tree : Tree) : Except UnsupportedError String := tree.accept luceneTraversal

/-- A term is rendered with quotes where it needs them. -/
@[simp] theorem toLucene_term (value : String) :
    (term value).toLucene = .ok (Token.quoteTerm value) := rfl

/-- A boolean is rendered in upper case. -/
@[simp] theorem toLucene_boolean (operator : String) :
    (boolean operator).toLucene = .ok (Text.upper (Text.lower operator)) := rfl

/-- A relation without modifiers is rendered exactly when its comparitor is `=`. -/
theorem toLucene_relation_none (value : String) :
    (relation (comparitor value) none).toLucene =
      if value = "=" then .ok ""
      else .error (UnsupportedError.ofFeature (.luceneRelation value) value) := rfl

end ContextualQuery.Tree
