import ContextualQuery.Tree.Outline

/-!
# Rewritten trees

A replacing traversal changes a tree only where a kind has a replacement. A place within a tree is
exposed when no node above it is replaced. At an exposed place stands in the result what the replacement
makes of the node there or, where its kind has none, the same text or a node of the same kind with as
many children. This determines the whole result: below a node that is kept, the children are exposed
too, and what a replacement gives is taken as it is.

The induction is on the tree. A node that is kept is rewritten exactly if its children are, each in its
place; below a node that is replaced, no place is exposed.
-/

namespace ContextualQuery.Tree

/-- The tree at a place, which is told by the numbers of the children that lead there. -/
def at? : Tree → List Nat → Option Tree
  | tree, [] => some tree
  | tree, number :: path => tree.children[number]?.bind fun child => child.at? path

/-- No node above the place is replaced. -/
def Exposed (replacement? : Kind → Option (Tree → Tree)) (tree : Tree) (place : List Nat) : Prop :=
  ∀ above, above <+: place → above ≠ place →
    ∀ kind children, tree.at? above = some (node kind children) → replacement? kind = none

/-- What becomes of a tree at an exposed place: a text stays, a node with a replacement is replaced, and
any other node keeps its kind and the number of its children. -/
inductive Becomes (replacement? : Kind → Option (Tree → Tree)) : Tree → Tree → Prop
  | text (value : String) : Becomes replacement? (text value) (text value)
  | replaced {kind : Kind} {children : List Tree} {change : Tree → Tree}
      (overridden : replacement? kind = some change) :
      Becomes replacement? (node kind children) (change (node kind children))
  | kept {kind : Kind} {children others : List Tree} (overridden : replacement? kind = none)
      (sameCount : others.length = children.length) :
      Becomes replacement? (node kind children) (node kind others)

/-- At every exposed place of the tree, the result has what becomes of the tree there. -/
def Rewritten (replacement? : Kind → Option (Tree → Tree)) (tree result : Tree) : Prop :=
  ∀ place inner, tree.Exposed replacement? place → tree.at? place = some inner →
    ∃ outcome, result.at? place = some outcome ∧ Becomes replacement? inner outcome

variable {replacement? : Kind → Option (Tree → Tree)} {kind : Kind} {children : List Tree}
  {child result : Tree} {number : Nat} {path : List Nat}

/-! ### Places -/

/-- The tree itself stands in no node that is replaced. -/
theorem exposed_nil (tree : Tree) : tree.Exposed replacement? [] := by
  intro above begins other
  exact absurd (List.prefix_nil.mp begins) other

/-- A path is followed from child to child. -/
theorem at?_cons (isChild : children[number]? = some child) (path : List Nat) :
    (node kind children).at? (number :: path) = child.at? path := by
  have below : (node kind children).children[number]? = some child := isChild
  rw [at?, below, Option.bind_some]

/-- A place below a node is exposed if the node is kept and the place is exposed within the child. -/
theorem exposed_cons_iff (isChild : children[number]? = some child) :
    (node kind children).Exposed replacement? (number :: path) ↔
      replacement? kind = none ∧ child.Exposed replacement? path := by
  constructor
  · intro exposed
    refine ⟨exposed [] List.nil_prefix (by simp) kind children rfl, fun above begins other => ?_⟩
    rw [← at?_cons isChild]
    exact exposed (number :: above) (List.cons_prefix_cons.mpr ⟨rfl, begins⟩) (by simpa using other)
  · rintro ⟨kept, exposed⟩ above begins other kind' children' here
    rcases List.prefix_cons_iff.mp begins with rfl | ⟨rest, rfl, restBegins⟩
    · obtain ⟨rfl, rfl⟩ := Tree.node.inj (Option.some.inj here)
      exact kept
    · rw [at?_cons isChild] at here
      exact exposed rest restBegins (by simpa using other) kind' children' here

/-- Below a node that is replaced, no place is exposed. -/
theorem Exposed.eq_nil {change : Tree → Tree} {place : List Nat}
    (exposed : (node kind children).Exposed replacement? place)
    (overridden : replacement? kind = some change) : place = [] := by
  cases place with
  | nil => rfl
  | cons number path =>
    have kept := exposed [] List.nil_prefix (by simp) kind children rfl
    simp [overridden] at kept

/-! ### One level of a tree -/

/-- What becomes of the whole tree stands at its root. -/
theorem Rewritten.becomes {tree : Tree} (rewritten : Rewritten replacement? tree result) :
    Becomes replacement? tree result := by
  obtain ⟨outcome, here, becomes⟩ := rewritten [] tree (exposed_nil tree) rfl
  obtain rfl := Option.some.inj here
  exact becomes

/-- A text is rewritten to itself alone. -/
theorem rewritten_text_iff {value : String} :
    Rewritten replacement? (text value) result ↔ result = text value := by
  constructor
  · intro rewritten
    cases rewritten.becomes
    rfl
  · rintro rfl place inner _ here
    cases place with
    | nil =>
      obtain rfl := Option.some.inj here
      exact ⟨_, rfl, .text value⟩
    | cons number path => exact absurd here (by simp [at?, Tree.children])

/-- A node whose kind is replaced is rewritten to its replacement alone. -/
theorem rewritten_replaced_iff {change : Tree → Tree} (overridden : replacement? kind = some change) :
    Rewritten replacement? (node kind children) result ↔ result = change (node kind children) := by
  constructor
  · intro rewritten
    cases rewritten.becomes with
    | replaced overridden' =>
      obtain rfl := Option.some.inj (overridden.symm.trans overridden')
      rfl
    | kept overridden' => exact absurd (overridden.symm.trans overridden') (by simp)
  · rintro rfl place inner exposed here
    obtain rfl := exposed.eq_nil overridden
    obtain rfl := Option.some.inj here
    exact ⟨_, rfl, .replaced overridden⟩

/-- A node that is kept is rewritten exactly if its children are, each in its place. -/
theorem rewritten_kept_iff (overridden : replacement? kind = none) :
    Rewritten replacement? (node kind children) result ↔
      ∃ others, result = node kind others ∧ others.length = children.length ∧
        ∀ (number : Nat) (child : Tree), children[number]? = some child →
          ∃ other, others[number]? = some other ∧ Rewritten replacement? child other := by
  constructor
  · intro rewritten
    cases rewritten.becomes with
    | replaced overridden' => exact absurd (overridden.symm.trans overridden') (by simp)
    | @kept _ _ others _ sameCount =>
      refine ⟨others, rfl, sameCount, fun number child isChild => ?_⟩
      obtain ⟨inside, _⟩ := List.getElem?_eq_some_iff.mp isChild
      have isOther : others[number]? = some others[number] := List.getElem?_eq_getElem _
      refine ⟨others[number], isOther, fun place inner exposed here => ?_⟩
      rw [← at?_cons isOther]
      rw [← at?_cons isChild] at here
      exact rewritten (number :: place) inner ((exposed_cons_iff isChild).mpr ⟨overridden, exposed⟩) here
  · rintro ⟨others, rfl, sameCount, below⟩ place inner exposed here
    cases place with
    | nil =>
      obtain rfl := Option.some.inj here
      exact ⟨_, rfl, .kept overridden sameCount⟩
    | cons number path =>
      obtain ⟨child, isChild, inChild⟩ := Option.bind_eq_some_iff.mp here
      obtain ⟨other, isOther, rewritten⟩ := below number child isChild
      rw [at?_cons isOther]
      exact rewritten path inner ((exposed_cons_iff isChild).mp exposed).2 inChild

/-! ### Whole trees -/

/-- A handler gets the node as it stands in the tree. -/
theorem accept_replacing_node (kind : Kind) (children : List Tree) :
    (node kind children).accept (Traversal.replacing replacement?) =
      match replacement? kind with
      | some change => change (node kind children)
      | none => node kind (children.map (·.accept (Traversal.replacing replacement?))) := by
  rw [accept_node]
  simp only [Traversal.replacing]
  cases replacement? kind <;> simp [Function.comp_def]

/-- A replacing traversal gives the rewritten tree, and there is only one. By induction on the tree. The
children of a node without a handler are compared number by number, as places are given. -/
theorem rewritten_iff {tree : Tree} :
    Rewritten replacement? tree result ↔
      result = tree.accept (Traversal.replacing replacement?) := by
  induction tree generalizing result with
  | text value => exact rewritten_text_iff
  | node kind children below =>
    rw [accept_replacing_node]
    cases overridden : replacement? kind with
    | some change => exact rewritten_replaced_iff overridden
    | none =>
      rw [rewritten_kept_iff overridden]
      constructor
      · rintro ⟨others, rfl, sameCount, rewritten⟩
        refine congrArg (node kind) (List.ext_getElem? fun number => ?_)
        rw [List.getElem?_map]
        cases isChild : children[number]? with
        | none =>
          rw [List.getElem?_eq_none_iff] at isChild
          exact List.getElem?_eq_none_iff.mpr (sameCount ▸ isChild)
        | some child =>
          obtain ⟨other, isOther, childRewritten⟩ := rewritten number child isChild
          rw [isOther, (below child (List.mem_of_getElem? isChild)).mp childRewritten]
          rfl
      · rintro rfl
        refine ⟨_, rfl, List.length_map _, fun number child isChild => ?_⟩
        refine ⟨_, by rw [List.getElem?_map, isChild]; rfl, ?_⟩
        exact (below child (List.mem_of_getElem? isChild)).mpr rfl

/-- The replacement of the nodes of one kind. -/
def onlyAt (kind : Kind) (change : Tree → Tree) : Kind → Option (Tree → Tree) :=
  fun other => if other = kind then some change else none

/-- The tree with its indexes in upper case is rewritten only at the outermost indexes. -/
theorem rewritten_upperIndexes (tree : Tree) :
    Rewritten (onlyAt .index upperIndex) tree tree.upperIndexes := rewritten_iff.mpr rfl

/-- A traversal that replaces the nodes of one kind, and copies all others, gives the one tree that has
at every place outside of the outermost nodes of the kind what stood there: the same text, or a node of
the same kind with as many children; and at the place of each outermost node of the kind what the
replacement makes of this node. Without a replacement the tree is the same. -/
theorem rewriting_exact (kind : Kind) (change : Tree → Tree) (tree : Tree) :
    (∀ result, Rewritten (onlyAt kind change) tree result ↔
      result = tree.accept (Traversal.replacing (onlyAt kind change))) ∧
    tree.copy = tree :=
  ⟨fun _ => rewritten_iff, copy_eq tree⟩

end ContextualQuery.Tree
