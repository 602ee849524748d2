import ContextualQuery.Text.LetterCase
import ContextualQuery.Token
import ContextualQuery.Tree.Traversal

/-!
# Trees as query texts

A tree is rendered as a query text that reads back as the same tree. Booleans are in upper case and
stand between spaces, terms are quoted where they need it, and groups stand in parentheses. A relation
stands between spaces too, except the lone comparitor `=`, which no word can run into.
-/

namespace ContextualQuery

/-- The text that is the only child of a node, or the empty text. -/
def Traversal.soleText {α : Type} : List (Tree × α) → String
  | [(.text value, _)] => value
  | _ => ""

namespace Tree

/-- The values of the children that are nodes, without anything between them. -/
def concatNodes (children : List (Tree × String)) : String :=
  String.join (Traversal.nodeValues children)

/-- A relation between spaces, or a lone `=` without spaces. -/
def spacedRelation (relation : String) : String :=
  if relation = "=" then relation else " " ++ relation ++ " "

/-- A search clause: a group in parentheses, or its parts one after another. -/
def cqlSearchClause : List (Tree × String) → String
  | (.node .cqlQuery _, query) :: _ => "(" ++ query ++ ")"
  | children => concatNodes children

/-- The values of all children between spaces. -/
def spaceSeparated (children : List (Tree × String)) : String :=
  " ".intercalate (children.map Prod.snd)

/-- The traversal that renders a tree as a query text. -/
def cqlTraversal : Traversal String where
  text := fun value => value
  combine := fun _ children => spaceSeparated children
  visit := fun kind children =>
    match kind with
    | .searchClause => cqlSearchClause children
    | .boolean => Text.upper (Traversal.soleText children)
    | .relation => spacedRelation (concatNodes children)
    | .modifier => "/" ++ concatNodes children
    | .comparitor | .identifier => Traversal.soleText children
    | .term => Token.quoteTerm (Traversal.soleText children)
    | _ => spaceSeparated children

/-- A tree as a query text. -/
def toCql (tree : Tree) : String := tree.accept cqlTraversal

/-- A query is rendered as its clause. -/
@[simp] theorem toCql_cqlQuery (clause : Tree) : (cqlQuery clause).toCql = clause.toCql := rfl

/-- A term is rendered with quotes where it needs them. -/
@[simp] theorem toCql_term (value : String) : (term value).toCql = Token.quoteTerm value := rfl

/-- A comparitor is rendered as it is. -/
@[simp] theorem toCql_comparitor (value : String) : (comparitor value).toCql = value := rfl

/-- An identifier is rendered as it is. -/
@[simp] theorem toCql_identifier (value : String) : (identifier value).toCql = value := rfl

/-- A boolean is rendered in upper case. -/
@[simp] theorem toCql_boolean (operator : String) :
    (boolean operator).toCql = Text.upper (Text.lower operator) := rfl

end Tree

end ContextualQuery
