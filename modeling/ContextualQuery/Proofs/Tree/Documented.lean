import ContextualQuery.Parser.Grammar
import ContextualQuery.Proofs.Derivation
import ContextualQuery.Proofs.Tree.Clausal

/-!
# Documented shapes

Queries and clauses can be built directly, in the shapes that the parser builds but in any
arrangement: a scoped clause can hold any scoped clauses. Two things decide what becomes of such a tree
when it is rendered. Its terms are written with quotes where they need them, and a quoted term must not
end in a backslash, which would keep the quote behind it from closing. And its scoped clauses are
written without parentheses, so that each boolean must bind as tightly in the text as in the tree.
-/

namespace ContextualQuery

/-- A search clause or a scoped clause, of which scoped clauses are made. -/
def Kind.IsOperand (kind : Kind) : Prop := kind = .searchClause ∨ kind = .scopedClause

/-- A term that can be written: if it needs quotes, it does not end in a backslash. -/
def Token.IsWritable (term : String) : Prop :=
  needsQuotes term = true → term.toList.getLast? ≠ some '\\'

namespace Tree

/-- The tree is a query or a clause of the given kind in one of the documented shapes. -/
inductive Documented : Kind → Tree → Prop
  | word (value : String) : Documented .searchClause (searchClause (searchTerm (term value)))
  | indexed (name value : String) {comparitor : String} (listed : comparitor ∈ comparitors) :
      Documented .searchClause (indexedSearchClause (index (term name))
        (relation (Tree.comparitor comparitor) none) (searchTerm (term value)))
  | boosted (name value : String) {comparitor boost : String} (listed : comparitor ∈ comparitors)
      (isBoost : Grammar.isBoostValue boost = true) :
      Documented .searchClause (indexedSearchClause (index (term name))
        (relation (Tree.comparitor comparitor) (some (modifierList
          [modifier (identifier boostModifier) (Tree.comparitor "=") (term boost)])))
        (searchTerm (term value)))
  | group {clause : Tree} (inner : Documented .scopedClause clause) :
      Documented .searchClause (group (Tree.cqlQuery clause))
  | singleClause {kind : Kind} {clause : Tree} (isOperand : kind.IsOperand)
      (inner : Documented kind clause) : Documented .scopedClause (singleClause clause)
  | joinedClause {leftKind rightKind : Kind} {left right : Tree} {boolean : Token}
      (leftIsOperand : leftKind.IsOperand) (isBoolean : boolean.IsBoolean)
      (rightIsOperand : rightKind.IsOperand) (leftInner : Documented leftKind left)
      (rightInner : Documented rightKind right) :
      Documented .scopedClause (joinedClause left (Tree.boolean boolean.text) right)
  | cqlQuery {clause : Tree} (inner : Documented .scopedClause clause) :
      Documented .cqlQuery (cqlQuery clause)

/-! ### Terms that can be written -/

/-- The terms within a tree, from the left. -/
def terms (tree : Tree) : List String :=
  tree.subtrees.filterMap fun inner => if inner.hasKind .term then inner.text? else none

/-- Every term within the tree can be written. -/
def Writable (tree : Tree) : Prop := ∀ value ∈ tree.terms, Token.IsWritable value

/-- Whether a term can be written is decided by its text. -/
instance (value : String) : Decidable (Token.IsWritable value) :=
  inferInstanceAs (Decidable (_ → _))

/-- Whether a tree can be written is decided by its terms. -/
instance (tree : Tree) : Decidable tree.Writable :=
  inferInstanceAs (Decidable (∀ value ∈ tree.terms, _))

/-- A tree can be written exactly if every term within it can. -/
theorem writable_iff {tree : Tree} :
    tree.Writable ↔ ∀ inner ∈ tree.subtrees, inner.hasKind .term = true →
      ∀ value ∈ inner.text?, Token.IsWritable value := by
  simp only [Writable, terms, List.mem_filterMap, forall_exists_index, and_imp]
  constructor
  · intro writable inner within isTerm value isText
    exact writable value inner within (by simpa [isTerm] using isText)
  · intro writable value inner within found
    obtain ⟨isTerm, isText⟩ := Option.ite_none_right_eq_some.mp found
    exact writable inner within isTerm value isText

/-- A text holds no term, so it can be written. -/
theorem writable_text (value : String) : (text value).Writable := by
  simp [writable_iff, subtrees, hasKind, kind?]

/-- A node other than a term is writable where its children are. -/
theorem writable_node {kind : Kind} (noTerm : kind ≠ .term) {children : List Tree} :
    (node kind children).Writable ↔ ∀ child ∈ children, child.Writable := by
  simp [writable_iff, forall_mem_subtrees_node, hasKind, kind?, noTerm]

/-- A term can be written exactly if its text can. -/
theorem writable_term (value : String) : (term value).Writable ↔ Token.IsWritable value := by
  have sole : (term value).terms = [value] := rfl
  simp [Writable, sole]

/-! ### Booleans that bind as in the tree -/

/-- The booleans of a query or a clause outside parentheses, from the left. -/
def outerBooleans : Tree → List String
  | .node .cqlQuery [clause] => outerBooleans clause
  | .node .scopedClause [clause] => outerBooleans clause
  | .node .scopedClause [left, boolean, right] =>
    outerBooleans left ++ boolean.text?.toList ++ outerBooleans right
  | _ => []

/-- The boolean of a joined clause binds its sides also without parentheses around them. It is an
`or`, or no `or` is seen in the sides; and behind a `not` no boolean at all is seen. -/
def KeepsSides : Tree → Prop
  | .node .scopedClause [left, boolean, right] =>
    boolean.text? = some "or" ∨
      ("or" ∉ left.outerBooleans ∧ "or" ∉ right.outerBooleans) ∧
        (boolean.text? = some "not" → right.outerBooleans = [])
  | _ => True

/-- Every boolean within the tree binds its sides also without parentheses. -/
def KeepsPrecedence (tree : Tree) : Prop := ∀ inner ∈ tree.subtrees, inner.KeepsSides

/-- Whether a boolean binds its sides is decided by the booleans outside parentheses. -/
instance (tree : Tree) : Decidable tree.KeepsSides := by
  unfold KeepsSides
  split <;> infer_instance

/-- Whether all booleans bind their sides is decided by looking at each. -/
instance (tree : Tree) : Decidable tree.KeepsPrecedence :=
  inferInstanceAs (Decidable (∀ inner ∈ tree.subtrees, _))

/-- A text holds no boolean that could bind its sides wrongly. -/
theorem keepsPrecedence_text (value : String) : (text value).KeepsPrecedence := by
  simp [KeepsPrecedence, subtrees, KeepsSides]

/-- A node other than a joined clause keeps precedence where its children do. -/
theorem keepsPrecedence_node {kind : Kind} {children : List Tree}
    (noJoin : kind ≠ .scopedClause ∨ children.length ≠ 3) :
    (node kind children).KeepsPrecedence ↔ ∀ child ∈ children, child.KeepsPrecedence := by
  have here : (node kind children).KeepsSides := by
    unfold KeepsSides
    split
    case h_1 shape =>
      obtain ⟨rfl, rfl⟩ := Tree.node.inj shape
      simp at noJoin
    case h_2 => trivial
  simp [KeepsPrecedence, forall_mem_subtrees_node, here]

/-- Joined clauses keep the precedence exactly if their own boolean binds its sides, and both sides
keep it. -/
theorem keepsPrecedence_joinedClause {left right : Tree} {operator : String} :
    (joinedClause left (boolean operator) right).KeepsPrecedence ↔
      (Text.lower operator = "or" ∨
        ("or" ∉ left.outerBooleans ∧ "or" ∉ right.outerBooleans) ∧
          (Text.lower operator = "not" → right.outerBooleans = [])) ∧
      left.KeepsPrecedence ∧ right.KeepsPrecedence := by
  have booleanKeeps : (boolean operator).KeepsPrecedence := by
    rw [boolean, keepsPrecedence_node (by simp)]
    simpa using keepsPrecedence_text _
  have here : (joinedClause left (boolean operator) right).KeepsSides ↔
      (Text.lower operator = "or" ∨
        ("or" ∉ left.outerBooleans ∧ "or" ∉ right.outerBooleans) ∧
          (Text.lower operator = "not" → right.outerBooleans = [])) := by
    simp [joinedClause, KeepsSides, text?_boolean]
  rw [← here]
  unfold KeepsPrecedence at booleanKeeps ⊢
  rw [joinedClause, forall_mem_subtrees_node, ← joinedClause, List.forall_mem_cons,
    List.forall_mem_cons, List.forall_mem_singleton, and_iff_right booleanKeeps]

end Tree

end ContextualQuery
