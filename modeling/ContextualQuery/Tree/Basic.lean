import ContextualQuery.Text.LetterCase

/-!
# Syntax trees

A syntax tree is a text or a node of some kind with its children in order. The kinds are a closed
set. The parser builds these shapes, and the constructors below are named after them:

* a query holds one scoped clause;
* a scoped clause holds one clause, or two clauses around a boolean;
* a search clause holds a search term, or an index, a relation and a search term, or a query that
  stood in parentheses;
* a relation holds a comparitor and at most one list of modifiers;
* a modifier holds an identifier, a comparitor and a term;
* booleans, comparitors, terms and identifiers are terminal: they hold one text.

Trees of any other shape can be built too, and every operation on trees accepts them.
-/

namespace ContextualQuery

/-- The kind of a node. -/
inductive Kind where
  | cqlQuery
  | scopedClause
  | searchClause
  | boolean
  | searchTerm
  | index
  | relation
  | comparitor
  | modifierList
  | modifier
  | term
  | identifier
deriving DecidableEq, Repr

namespace Kind

/-- The kinds in their order. -/
def all : List Kind :=
  [cqlQuery, scopedClause, searchClause, boolean, searchTerm, index, relation, comparitor,
    modifierList, modifier, term, identifier]

/-- The name under which a kind is printed. -/
def name : Kind → String
  | cqlQuery => "CqlQuery"
  | scopedClause => "ScopedClause"
  | searchClause => "SearchClause"
  | boolean => "Boolean"
  | searchTerm => "SearchTerm"
  | index => "Index"
  | relation => "Relation"
  | comparitor => "Comparitor"
  | modifierList => "ModifierList"
  | modifier => "Modifier"
  | term => "Term"
  | identifier => "Identifier"

/-- Terminal kinds hold a single text. -/
def isTerminal : Kind → Bool
  | boolean | comparitor | term | identifier => true
  | _ => false

/-- The place of a kind in the order of the kinds. -/
def rank (kind : Kind) : Nat := all.idxOf kind

/-- Every kind is on the list of all kinds. -/
theorem mem_all (kind : Kind) : kind ∈ all := by cases kind <;> decide

/-- Kinds of the same rank are the same kind. -/
theorem rank_injective {left right : Kind} (same : left.rank = right.rank) : left = right := by
  cases left <;> cases right <;> first | rfl | exact absurd same (by decide)

/-- Kinds of the same name are the same kind. -/
theorem name_injective {left right : Kind} (same : left.name = right.name) : left = right := by
  cases left <;> cases right <;> first | rfl | exact absurd same (by decide)

end Kind

/-- A syntax tree. -/
inductive Tree where
  | text (value : String)
  | node (kind : Kind) (children : List Tree)

namespace Tree

mutual

/-- Equality of trees is decided child by child. -/
def decideEq : (left right : Tree) → Decidable (left = right)
  | .text value, .text value' =>
    if same : value = value' then isTrue (same ▸ rfl) else isFalse (by simpa using same)
  | .node kind children, .node kind' children' =>
    if same : kind = kind' then
      match decideAllEq children children' with
      | isTrue equal => isTrue (same ▸ equal ▸ rfl)
      | isFalse differ => isFalse (by simp [differ])
    else isFalse (by simp [same])
  | .text _, .node _ _ => isFalse (by simp)
  | .node _ _, .text _ => isFalse (by simp)

/-- Equality of lists of trees is decided from the front. -/
def decideAllEq : (left right : List Tree) → Decidable (left = right)
  | [], [] => isTrue rfl
  | head :: tail, head' :: tail' =>
    match decideEq head head', decideAllEq tail tail' with
    | isTrue equal, isTrue equal' => isTrue (equal ▸ equal' ▸ rfl)
    | isFalse differ, _ => isFalse (by simp [differ])
    | _, isFalse differ => isFalse (by simp [differ])
  | [], _ :: _ => isFalse (by simp)
  | _ :: _, [] => isFalse (by simp)

end

/-- Equality of trees is decided part by part. -/
instance : DecidableEq Tree := decideEq

/-- To show a property of all trees, it is enough to show it of texts, and of a node whenever all its
children have it. -/
@[elab_as_elim, induction_eliminator]
theorem induct {motive : Tree → Prop} (text : ∀ value, motive (.text value))
    (node : ∀ kind children, (∀ child ∈ children, motive child) → motive (.node kind children))
    (tree : Tree) : motive tree :=
  Tree.rec (motive_1 := motive) (motive_2 := fun children => ∀ child ∈ children, motive child)
    text (fun kind children each => node kind children each) (by simp)
    (fun _ _ head tail child member => by
      rcases List.mem_cons.mp member with rfl | member
      · exact head
      · exact tail child member)
    tree

/-! ### Shapes that the parser builds -/

/-- A query. -/
def cqlQuery (clause : Tree) : Tree := .node .cqlQuery [clause]

/-- A scoped clause with a single clause. -/
def singleClause (clause : Tree) : Tree := .node .scopedClause [clause]

/-- A scoped clause that joins two clauses with a boolean. -/
def joinedClause (left boolean right : Tree) : Tree := .node .scopedClause [left, boolean, right]

/-- A search clause with a search term alone. -/
def searchClause (searchTerm : Tree) : Tree := .node .searchClause [searchTerm]

/-- A search clause with an index, a relation and a search term. -/
def indexedSearchClause (index relation searchTerm : Tree) : Tree :=
  .node .searchClause [index, relation, searchTerm]

/-- A search clause with a query that stood in parentheses. -/
def group (query : Tree) : Tree := .node .searchClause [query]

/-- A boolean, whose text is kept in lower case. -/
def boolean (operator : String) : Tree := .node .boolean [.text (Text.lower operator)]

/-- A search term. -/
def searchTerm (term : Tree) : Tree := .node .searchTerm [term]

/-- An index. -/
def index (term : Tree) : Tree := .node .index [term]

/-- A relation with its modifiers, if there are any. -/
def relation (comparitor : Tree) (modifiers? : Option Tree) : Tree :=
  .node .relation (comparitor :: modifiers?.toList)

/-- A comparitor, as written. -/
def comparitor (value : String) : Tree := .node .comparitor [.text value]

/-- A list of modifiers. -/
def modifierList (modifiers : List Tree) : Tree := .node .modifierList modifiers

/-- A modifier with its name, comparitor and value. -/
def modifier (name comparitor value : Tree) : Tree := .node .modifier [name, comparitor, value]

/-- A term, without quotes and escapes. -/
def term (value : String) : Tree := .node .term [.text value]

/-- The name of a modifier. -/
def identifier (value : String) : Tree := .node .identifier [.text value]

/-! ### Parts of a tree -/

/-- The kind of a node. -/
def kind? : Tree → Option Kind
  | .text _ => none
  | .node kind _ => some kind

/-- The tree is a node of the given kind. -/
def hasKind (tree : Tree) (kind : Kind) : Bool := tree.kind? == some kind

/-- The children of a node. -/
def children : Tree → List Tree
  | .text _ => []
  | .node _ children => children

/-- The tree is a node. -/
def isNode : Tree → Bool
  | .text _ => false
  | .node _ _ => true

/-- A text is no node. -/
@[simp] theorem isNode_text (value : String) : isNode (.text value) = false := rfl

/-- A node is a node, whatever its children. -/
@[simp] theorem isNode_node (kind : Kind) (children : List Tree) :
    isNode (.node kind children) = true := rfl

/-- The value of a text. -/
def asText? : Tree → Option String
  | .text value => some value
  | .node _ _ => none

/-- The child at a place, if it is a node. -/
def child? (tree : Tree) (place : Nat) : Option Tree := tree.children[place]?.filter isNode

/-- The children that are nodes. -/
def childNodes (tree : Tree) : List Tree := tree.children.filter isNode

/-- The text that is the only child of a node. -/
def text? : Tree → Option String
  | .node _ [.text value] => some value
  | _ => none

/-- The text below a node with one child, however many nodes with one child lie between. -/
def termText? : Tree → Option String
  | .node _ [.text value] => some value
  | .node _ [child] => child.termText?
  | _ => none

/-- The text of a boolean is kept in lower case. -/
theorem text?_boolean (operator : String) :
    (boolean operator).text? = some (Text.lower operator) := rfl

/-- The text of a term is its value. -/
theorem text?_term (value : String) : (term value).text? = some value := rfl

end Tree

end ContextualQuery
