import ContextualQuery.Proofs.Expression.Normalized
import ContextualQuery.Proofs.Tree.Clausal
import Mathlib.Data.List.Forall2

/-!
# What a tree has to give

A tree of any shape is normalized to a fragment or not at all. `Gives` says by shape which fragment it
is. Most nodes pass on what their only child gives, whatever its kind. Scoped clauses, search clauses
and relations are read by their shape, and a few kinds are asked for there: a query or a search term
that is alone below a search clause, and an index that comes first of three. Normalizing finds a
fragment exactly if the tree gives it.
-/

namespace ContextualQuery

/-- Nodes of these kinds give what their only child gives. The other three kinds are read by their
shape. -/
def Kind.passesOn : Kind → Bool
  | scopedClause | searchClause | relation => false
  | _ => true

/-- A mapped result is a result of the first computation. -/
theorem map_eq_ok_iff {ε α β : Type} {first : Except ε α} {result : β} {f : α → β} :
    f <$> first = .ok result ↔ ∃ value, first = .ok value ∧ result = f value := by
  cases first <;> simp [Functor.map, Except.map, eq_comm]

namespace Normalized

/-- A text is asked for and found exactly where the finding is a text. -/
theorem text_eq_ok_iff {tree : Tree} {found : Normalized} {value : String} :
    found.text tree = .ok value ↔ found = .ok (.text value) := by
  cases found with
  | error error => simp [Normalized.text]
  | ok fragment => cases fragment <;> simp [Normalized.text]

/-- A relation is asked for and found exactly where the finding is a relation. -/
theorem relation_eq_ok_iff {tree : Tree} {found : Normalized} {comparitor : String}
    {boost? : Option Binary64} :
    found.relation tree = .ok (comparitor, boost?) ↔ found = .ok (.relation comparitor boost?) := by
  cases found with
  | error error => simp [Normalized.relation]
  | ok fragment => cases fragment <;> simp [Normalized.relation]

end Normalized

namespace Tree

/-- The third part of the only node below a tree: in a list of modifiers, the value of its modifier. -/
def soleValue? (tree : Tree) : Option Tree :=
  match tree.childNodes with
  | [modifier] => modifier.child? 2
  | _ => none

/-- The fragment is what a tree has to give, by its shape. -/
inductive Gives : Tree → Fragment → Prop
  | text (value : String) : Gives (.text value) (.text value)
  | passed {kind : Kind} {child : Tree} {fragment : Fragment} (passes : kind.passesOn = true)
      (inner : Gives child fragment) : Gives (.node kind [child]) fragment
  | collected {kind : Kind} {children : List Tree} {fragments : List Fragment}
      (passes : kind.passesOn = true) (notSole : fragments.length ≠ 1)
      (inner : List.Forall₂ Gives children fragments) :
      Gives (.node kind children) (.sequence fragments)
  | single {children : List Tree} {clause : Tree} {expression : Expression}
      (nodes : children.filter isNode = [clause]) (inner : Gives clause (.expression expression)) :
      Gives (.node .scopedClause children) (.expression expression)
  | joined {children : List Tree} {left boolean right : Tree} {operator : String}
      {leftExpression rightExpression joined : Expression}
      (nodes : children.filter isNode = [left, boolean, right])
      (leftGives : Gives left (.expression leftExpression))
      (booleanGives : Gives boolean (.text operator))
      (rightGives : Gives right (.expression rightExpression))
      (isJoined : Expression.joinedBy? (Text.lower operator) leftExpression rightExpression =
        some joined) :
      Gives (.node .scopedClause children) (.expression joined)
  | group {children : List Tree} {query : Tree} {expression : Expression}
      (nodes : children.filter isNode = [query]) (isQuery : query.hasKind .cqlQuery = true)
      (inner : Gives query (.expression expression)) :
      Gives (.node .searchClause children) (.expression expression)
  | word {children : List Tree} {term : Tree} {value : String}
      (nodes : children.filter isNode = [term]) (isTerm : term.hasKind .searchTerm = true)
      (inner : Gives term (.text value)) :
      Gives (.node .searchClause children) (.expression (.ofTerm value))
  | indexed {children : List Tree} {index relation term : Tree} {name comparitor value : String}
      {boost? : Option Binary64} (nodes : children.filter isNode = [index, relation, term])
      (isIndex : index.hasKind .index = true) (indexGives : Gives index (.text name))
      (relationGives : Gives relation (.relation comparitor boost?))
      (termGives : Gives term (.text value)) :
      Gives (.node .searchClause children) (.expression
        (.search { index? := some name, relation? := some comparitor, term := value, boost? }))
  | relation {children : List Tree} {comparitor : Tree} {value : String}
      (first : (node .relation children).child? 0 = some comparitor)
      (second : (node .relation children).child? 1 = none)
      (inner : Gives comparitor (.text value)) :
      Gives (.node .relation children) (.relation value none)
  | boosted {children : List Tree} {comparitor modifiers number : Tree} {value digits : String}
      {boost : Binary64} (first : (node .relation children).child? 0 = some comparitor)
      (second : (node .relation children).child? 1 = some modifiers)
      (third : modifiers.soleValue? = some number)
      (inner : Gives comparitor (.text value)) (numberGives : Gives number (.text digits))
      (read : Binary64.read? digits = some boost) :
      Gives (.node .relation children) (.relation value (some boost))

/-! ### Views -/

/-- A tree with what is found at it. -/
def finding (tree : Tree) : Finding := (tree, tree.normalized)

/-- A tree with what normalizing finds at it in three ways. -/
def view (tree : Tree) : Tree × Normal := (tree, tree.accept Normal.traversal)

/-- The finding at a place among the children is that of the child there. -/
theorem getElem?_view (kind : Kind) (children : List Tree) (place : Nat) :
    (children.map view)[place]?.filter (·.1.isNode) =
      ((node kind children).child? place).map view := by
  rw [child?, Tree.children, List.getElem?_map]
  cases children[place]? with
  | none => rfl
  | some child => cases child <;> rfl

/-- The findings on nodes are those of the children that are nodes. -/
theorem filter_view (children : List Tree) :
    (children.map view).filter (·.1.isNode) = (children.filter isNode).map view := by
  rw [List.filter_map]
  rfl

/-- The children that are nodes, with what is found at them. -/
theorem findings_view (children : List Tree) :
    (((children.map view).filter (·.1.isNode)).map fun (child, normal) => (child, normal.found)) =
      (children.filter isNode).map finding := by
  rw [filter_view, List.map_map]
  rfl

/-- The findings come with the children that they are of. -/
theorem trees_view (children : List Tree) : (children.map view).map Prod.fst = children := by
  rw [List.map_map]
  exact List.map_id children

/-- The finding on a node is made from the findings on its children. -/
theorem normalized_node_view (kind : Kind) (children : List Tree) :
    (node kind children).normalized = Normal.ofNode kind (children.map view) :=
  normalized_node kind children

/-- The traversal hands the finding on the third child up, as the value of a modifier. -/
theorem value?_accept (tree : Tree) :
    (tree.accept Normal.traversal).value? = (tree.child? 2).map finding := by
  cases tree with
  | text value => rfl
  | node kind children =>
    rw [accept_node]
    change ((children.map view)[2]?.filter (·.1.isNode)).map _ = _
    rw [getElem?_view kind, Option.map_map]
    rfl

/-- The value of the only modifier is seen from the list of modifiers. -/
theorem soleValue?_accept (tree : Tree) :
    (tree.accept Normal.traversal).soleValue? = tree.soleValue?.map finding := by
  cases tree with
  | text value => rfl
  | node kind children =>
    rw [accept_node, soleValue?, childNodes, Tree.children]
    change Normal.soleValueOf? (children.map view) = _
    rw [Normal.soleValueOf?, filter_view]
    rcases children.filter isNode with _ | ⟨modifier, _ | ⟨next, rest⟩⟩
    · rfl
    · exact value?_accept modifier
    · rfl

/-! ### What is found at each kind of node -/

variable {children : List Tree} {fragment : Fragment}

/-- A scoped clause looks at the findings on its nodes. -/
theorem normalized_scopedClause (children : List Tree) :
    (node .scopedClause children).normalized =
      Normal.scopedClause (node .scopedClause children)
        ((children.filter isNode).map finding) := by
  rw [normalized_node_view, Normal.ofNode]
  dsimp only
  rw [trees_view, findings_view]

/-- A search clause looks at the findings on its nodes. -/
theorem normalized_searchClause (children : List Tree) :
    (node .searchClause children).normalized =
      Normal.searchClause (node .searchClause children)
        ((children.filter isNode).map finding) := by
  rw [normalized_node_view, Normal.ofNode]
  dsimp only
  rw [trees_view, findings_view]

/-- A relation looks at the findings on all of its children. -/
theorem normalized_relation_view (children : List Tree) :
    (node .relation children).normalized =
      Normal.relation (node .relation children) (children.map view) := by
  rw [normalized_node_view, Normal.ofNode, trees_view]

/-- Kinds that pass findings on combine those of all children. -/
theorem normalized_of_passesOn {kind : Kind} (passes : kind.passesOn = true)
    (children : List Tree) :
    (node kind children).normalized = Normal.combined (children.map normalized) := by
  rw [normalized_node_view, Normal.ofNode.eq_def]
  cases kind
  case scopedClause | searchClause | relation => exact absurd passes Bool.false_ne_true
  all_goals
    dsimp only
    rw [List.map_map]
    rfl

/-- A scoped clause gives an expression: that of its only clause, or those of two clauses joined by a
boolean. -/
theorem scopedClause_eq_ok_iff {tree : Tree} {nodes : List Tree} :
    Normal.scopedClause tree (nodes.map finding) = .ok fragment ↔
      (∃ clause expression, nodes = [clause] ∧
        clause.normalized = .ok (.expression expression) ∧ fragment = .expression expression) ∨
      ∃ left boolean right leftExpression rightExpression operator joined,
        nodes = [left, boolean, right] ∧
        left.normalized = .ok (.expression leftExpression) ∧
        right.normalized = .ok (.expression rightExpression) ∧
        boolean.normalized = .ok (.text operator) ∧
        Expression.joinedBy? (Text.lower operator) leftExpression rightExpression = some joined ∧
        fragment = .expression joined := by
  rcases nodes with _ | ⟨left, _ | ⟨boolean, _ | ⟨right, _ | ⟨next, rest⟩⟩⟩⟩
  · simp [Normal.scopedClause]
  · simp [Normal.scopedClause, finding, map_eq_ok_iff, Normalized.expression_eq_ok_iff]
  · simp [Normal.scopedClause]
  · constructor
    · intro found
      simp only [Normal.scopedClause, List.map_cons, List.map_nil, finding, bind_eq_ok_iff,
        Normalized.expression_eq_ok_iff, Normalized.text_eq_ok_iff] at found
      obtain ⟨leftExpression, leftFound, rightExpression, rightFound, operator, booleanFound,
        found⟩ := found
      split at found
      case h_1 joined isJoined =>
        exact .inr ⟨_, _, _, _, _, _, _, rfl, leftFound, rightFound, booleanFound, isJoined,
          by simpa [pure, Except.pure, eq_comm] using found⟩
      case h_2 => simp [throw, throwThe, MonadExceptOf.throw] at found
    · rintro (⟨clause, expression, nodes, _⟩ |
        ⟨_, _, _, leftExpression, rightExpression, operator, joined, nodes, leftFound, rightFound,
          booleanFound, isJoined, rfl⟩)
      · simp at nodes
      · simp only [List.cons.injEq, and_true] at nodes
        obtain ⟨rfl, rfl, rfl⟩ := nodes
        simp only [List.map_cons, List.map_nil, finding, leftFound, rightFound, booleanFound]
        exact scopedClause_joined isJoined
  · simp [Normal.scopedClause]

/-- A search clause gives what a query in it gives, a search for its term, or a search for its term in its
index under its relation, and nothing else. The cases are the number of nodes and the kind of the first
one, by which the handler decides. -/
theorem searchClause_eq_ok_iff {tree : Tree} {nodes : List Tree} :
    Normal.searchClause tree (nodes.map finding) = .ok fragment ↔
      (∃ query expression, nodes = [query] ∧ query.hasKind .cqlQuery = true ∧
        query.normalized = .ok (.expression expression) ∧ fragment = .expression expression) ∨
      (∃ term value, nodes = [term] ∧ term.hasKind .searchTerm = true ∧
        term.normalized = .ok (.text value) ∧ fragment = .expression (.ofTerm value)) ∨
      ∃ index relation term name comparitor boost? value,
        nodes = [index, relation, term] ∧ index.hasKind .index = true ∧
        relation.normalized = .ok (.relation comparitor boost?) ∧
        index.normalized = .ok (.text name) ∧ term.normalized = .ok (.text value) ∧
        fragment = .expression
          (.search
            { index? := some name, relation? := some comparitor, term := value, boost? }) := by
  rcases nodes with _ | ⟨first, _ | ⟨second, _ | ⟨third, _ | ⟨next, rest⟩⟩⟩⟩
  · simp [Normal.searchClause]
  · cases first with
    | text value => simp [Normal.searchClause, finding, hasKind, kind?]
    | node kind children =>
      cases kind <;>
        simp [Normal.searchClause, finding, hasKind, kind?, map_eq_ok_iff,
          Normalized.expression_eq_ok_iff, Normalized.text_eq_ok_iff]
  · simp [Normal.searchClause]
  · cases first with
    | text value => simp [Normal.searchClause, finding, hasKind, kind?]
    | node kind children =>
      cases kind
      case index =>
        simp only [Normal.searchClause, finding, List.map_cons, List.map_nil, bind_eq_ok_iff,
          Normalized.text_eq_ok_iff]
        constructor
        · rintro ⟨⟨comparitor, boost?⟩, relationFound, name, indexFound, value, termFound, same⟩
          rw [Normalized.relation_eq_ok_iff] at relationFound
          exact .inr (.inr ⟨_, _, _, _, _, _, _, rfl, rfl, relationFound, indexFound, termFound,
            (Except.ok.inj same).symm⟩)
        · rintro (⟨query, expression, nodes, -⟩ | ⟨term, value, nodes, -⟩ |
            ⟨_, _, _, name, comparitor, boost?, value, nodes, -, relationFound, indexFound,
              termFound, rfl⟩)
          · simp at nodes
          · simp at nodes
          · simp only [List.cons.injEq, and_true] at nodes
            obtain ⟨rfl, rfl, rfl⟩ := nodes
            exact ⟨_, Normalized.relation_eq_ok_iff.mpr relationFound, name, indexFound, value,
              termFound, rfl⟩
      all_goals simp [Normal.searchClause, finding, hasKind, kind?]
  · simp [Normal.searchClause]

/-- What the traversal finds at a tree is the finding on the tree. -/
theorem found_view (tree : Tree) : tree.view.2.found = tree.normalized := rfl

/-- The value of the only modifier, as the traversal hands it up, is the finding on that value. -/
theorem soleValue?_view (tree : Tree) : tree.view.2.soleValue? = tree.soleValue?.map finding :=
  soleValue?_accept tree

/-- A boost is read where the only modifier has a value, and this value a number for a text. -/
theorem boost_eq_ok_iff {modifiers : Tree} {value? : Option Tree} {boost : Binary64} :
    Normal.boost modifiers (value?.map finding) = .ok boost ↔
      ∃ number digits, value? = some number ∧ number.normalized = .ok (.text digits) ∧
        Binary64.read? digits = some boost := by
  have read_eq_ok_iff (read? : Option Binary64) :
      read?.elim (Except.error (ParseError.malformed modifiers)) Except.ok = Except.ok boost ↔
        read? = some boost := by
    cases read? <;> simp
  cases value? with
  | none => simp [Normal.boost, bind, Except.bind]
  | some number =>
    rw [Normal.boost]
    simp only [Option.map_some, Option.elim_some, bind_eq_ok_iff, read_eq_ok_iff, finding]
    simp [Normalized.text_eq_ok_iff]

/-- A relation gives its comparitor, and with modifiers the number of the only one as the boost. -/
theorem normalized_relation_eq_ok_iff :
    (node .relation children).normalized = .ok fragment ↔
      ∃ comparitor value, (node .relation children).child? 0 = some comparitor ∧
        comparitor.normalized = .ok (.text value) ∧
        (((node .relation children).child? 1 = none ∧ fragment = .relation value none) ∨
          ∃ modifiers number digits boost,
            (node .relation children).child? 1 = some modifiers ∧
            modifiers.soleValue? = some number ∧ number.normalized = .ok (.text digits) ∧
            Binary64.read? digits = some boost ∧ fragment = .relation value (some boost)) := by
  rw [normalized_relation_view, Normal.relation, getElem?_view .relation, getElem?_view .relation]
  cases (node .relation children).child? 0 with
  | none => simp
  | some comparitor =>
    cases (node .relation children).child? 1 with
    | none => simp [found_view, map_eq_ok_iff, Normalized.text_eq_ok_iff]
    | some modifiers =>
      simp only [Option.map_some, found_view, soleValue?_view, bind_eq_ok_iff,
        Normalized.text_eq_ok_iff, boost_eq_ok_iff]
      constructor
      · rintro ⟨value, comparitorFound, boost, ⟨number, digits, third, numberFound, read⟩, same⟩
        exact ⟨_, value, rfl, comparitorFound, .inr ⟨_, number, digits, boost, rfl, third,
          numberFound, read, (Except.ok.inj same).symm⟩⟩
      · rintro ⟨_, value, first, comparitorFound, ⟨none, -⟩ |
          ⟨_, number, digits, boost, second, third, numberFound, read, rfl⟩⟩
        · simp at none
        · obtain rfl := Option.some.inj first
          obtain rfl := Option.some.inj second
          exact ⟨value, comparitorFound, boost, ⟨number, digits, third, numberFound, read⟩, rfl⟩

/-- Fragments are collected from the children one by one. -/
theorem collected_eq_ok_iff {fragments : List Fragment} :
    ((children.map normalized).mapM fun found => found) = .ok fragments ↔
      List.Forall₂ (fun child fragment => child.normalized = .ok fragment) children fragments := by
  induction children generalizing fragments with
  | nil => cases fragments <;> simp [pure, Except.pure]
  | cons child rest inductionHypothesis =>
    rw [List.map_cons, List.mapM_cons, bind_eq_ok_iff]
    constructor
    · rintro ⟨fragment, found, collected⟩
      obtain ⟨others, restCollected, same⟩ := bind_eq_ok_iff.mp collected
      obtain rfl : fragment :: others = fragments := by simpa [pure, Except.pure] using same
      exact .cons found (inductionHypothesis.mp restCollected)
    · intro each
      cases each with
      | cons found each =>
        refine ⟨_, found, ?_⟩
        rw [inductionHypothesis.mpr each]
        rfl

/-- Findings combine if all of them are there: a single one is passed on, and any other number makes
a sequence. -/
theorem combined_eq_ok_iff {findings : List Normalized} :
    Normal.combined findings = .ok fragment ↔
      ∃ fragments, (findings.mapM fun found => found) = .ok fragments ∧
        (fragments = [fragment] ∨ fragments.length ≠ 1 ∧ fragment = .sequence fragments) := by
  rw [Normal.combined]
  cases findings.mapM fun found => found with
  | error error => simp
  | ok fragments =>
    rcases fragments with _ | ⟨first, _ | ⟨second, rest⟩⟩
    · simp [eq_comm]
    · simp
    · simp [eq_comm]

/-- A node of a kind that passes on gives what its only child gives, or else the sequence of what its
children give. -/
theorem normalized_eq_ok_iff_of_passesOn {kind : Kind} (passes : kind.passesOn = true) :
    (node kind children).normalized = .ok fragment ↔
      ∃ fragments,
        List.Forall₂ (fun child fragment => child.normalized = .ok fragment) children fragments ∧
          (fragments = [fragment] ∨ fragments.length ≠ 1 ∧ fragment = .sequence fragments) := by
  rw [normalized_of_passesOn passes, combined_eq_ok_iff]
  simp only [collected_eq_ok_iff]

/-- The value of the only modifier is a part of the list of modifiers. -/
theorem mem_subtrees_of_soleValue? {tree value : Tree} (found : tree.soleValue? = some value) :
    value ∈ tree.subtrees := by
  rw [soleValue?] at found
  split at found
  case h_1 modifier sole =>
    have isChild : modifier ∈ tree.children :=
      (List.mem_filter.mp (sole ▸ List.mem_singleton_self modifier)).1
    exact mem_subtrees_of_child isChild
      (mem_subtrees_of_child (mem_children_of_child? found) (self_mem_subtrees value))
  case h_2 => simp at found

/-- Relations that agree on the members of a list agree on it. -/
theorem forall₂_congr_of_mem {α β : Type} {first second : α → β → Prop} {left : List α}
    {right : List β} (same : ∀ a ∈ left, ∀ b, first a b ↔ second a b) :
    List.Forall₂ first left right ↔ List.Forall₂ second left right := by
  induction left generalizing right with
  | nil => simp
  | cons head tail inductionHypothesis =>
    obtain ⟨headSame, tailSame⟩ := List.forall_mem_cons.mp same
    cases right with
    | nil => simp
    | cons head' tail' =>
      rw [List.forall₂_cons, List.forall₂_cons, headSame, inductionHypothesis tailSame]

/-! ### Nodes that give what is found at them -/

section

variable
  (each : ∀ child ∈ children, ∀ fragment, child.normalized = .ok fragment ↔ child.Gives fragment)

include each

/-- For the kinds that pass findings on, the finding is what the tree gives, if this is so for the
children. -/
theorem gives_iff_of_passesOn {kind : Kind} (passes : kind.passesOn = true) :
    (node kind children).normalized = .ok fragment ↔ (node kind children).Gives fragment := by
  rw [normalized_eq_ok_iff_of_passesOn passes]
  simp only [forall₂_congr_of_mem each]
  constructor
  · rintro ⟨fragments, gives, rfl | ⟨notSole, rfl⟩⟩
    · obtain ⟨child, inner, rfl⟩ : ∃ child, child.Gives fragment ∧ children = [child] := by
        cases gives with
        | cons inner rest => cases rest with | nil => exact ⟨_, inner, rfl⟩
      exact .passed passes inner
    · exact .collected passes notSole gives
  · intro gives
    cases gives with
    | passed _ inner => exact ⟨[fragment], .cons inner .nil, .inl rfl⟩
    | collected _ notSole inner => exact ⟨_, inner, .inr ⟨notSole, rfl⟩⟩
    | single | joined | group | word | indexed | relation | boosted =>
      exact absurd passes (by decide)

/-- For the children that are nodes, the finding is what the child gives. -/
theorem gives_iff_of_mem_nodes :
    ∀ child ∈ children.filter isNode, ∀ fragment,
      child.normalized = .ok fragment ↔ child.Gives fragment :=
  fun child member => each child (List.mem_filter.mp member).1

/-- The finding on a scoped clause is what the tree gives, if this is so for its parts. -/
theorem gives_iff_of_scopedClause :
    (node .scopedClause children).normalized = .ok fragment ↔
      (node .scopedClause children).Gives fragment := by
  have eachNode := gives_iff_of_mem_nodes each
  rw [normalized_scopedClause, scopedClause_eq_ok_iff]
  constructor
  · rintro (⟨clause, expression, nodes, found, rfl⟩ |
      ⟨left, boolean, right, leftExpression, rightExpression, operator, joined, nodes,
        leftFound, rightFound, booleanFound, isJoined, rfl⟩)
    · rw [eachNode _ (by simp [nodes])] at found
      exact .single nodes found
    · rw [eachNode _ (by simp [nodes])] at leftFound rightFound booleanFound
      exact .joined nodes leftFound booleanFound rightFound isJoined
  · intro gives
    cases gives with
    | passed passes | collected passes => exact absurd passes (by decide)
    | single nodes inner =>
      rw [← eachNode _ (by simp [nodes])] at inner
      exact .inl ⟨_, _, nodes, inner, rfl⟩
    | joined nodes leftGives booleanGives rightGives isJoined =>
      rw [← eachNode _ (by simp [nodes])] at leftGives booleanGives rightGives
      exact .inr ⟨_, _, _, _, _, _, _, nodes, leftGives, rightGives, booleanGives, isJoined, rfl⟩

/-- The finding on a search clause is what the tree gives, if this is so for its parts. Both sides name
the same three shapes, and the hypothesis carries each over to what its parts give. -/
theorem gives_iff_of_searchClause :
    (node .searchClause children).normalized = .ok fragment ↔
      (node .searchClause children).Gives fragment := by
  have eachNode := gives_iff_of_mem_nodes each
  rw [normalized_searchClause, searchClause_eq_ok_iff]
  constructor
  · rintro (⟨query, expression, nodes, isQuery, found, rfl⟩ |
      ⟨term, value, nodes, isTerm, found, rfl⟩ |
      ⟨index, relation, term, name, comparitor, boost?, value, nodes, isIndex, relationFound,
        indexFound, termFound, rfl⟩)
    · rw [eachNode _ (by simp [nodes])] at found
      exact .group nodes isQuery found
    · rw [eachNode _ (by simp [nodes])] at found
      exact .word nodes isTerm found
    · rw [eachNode _ (by simp [nodes])] at indexFound relationFound termFound
      exact .indexed nodes isIndex indexFound relationFound termFound
  · intro gives
    cases gives with
    | passed passes | collected passes => exact absurd passes (by decide)
    | group nodes isQuery inner =>
      rw [← eachNode _ (by simp [nodes])] at inner
      exact .inl ⟨_, _, nodes, isQuery, inner, rfl⟩
    | word nodes isTerm inner =>
      rw [← eachNode _ (by simp [nodes])] at inner
      exact .inr (.inl ⟨_, _, nodes, isTerm, inner, rfl⟩)
    | indexed nodes isIndex indexGives relationGives termGives =>
      rw [← eachNode _ (by simp [nodes])] at indexGives relationGives termGives
      exact .inr (.inr ⟨_, _, _, _, _, _, _, nodes, isIndex, relationGives, indexGives, termGives,
        rfl⟩)

end

/-- The value of a modifier stands three levels below the relation, so what is found there is known
within the children and not only at them. -/
theorem gives_iff_of_relation
    (within : ∀ child ∈ children, ∀ inner ∈ child.subtrees, ∀ fragment,
      inner.normalized = .ok fragment ↔ inner.Gives fragment) :
    (node .relation children).normalized = .ok fragment ↔
      (node .relation children).Gives fragment := by
  have atChild {child : Tree} {place : Nat}
      (found : (node .relation children).child? place = some child) (fragment : Fragment) :
      child.normalized = .ok fragment ↔ child.Gives fragment :=
    within child (mem_children_of_child? found) child (self_mem_subtrees child) fragment
  have atValue {modifiers number : Tree}
      (second : (node .relation children).child? 1 = some modifiers)
      (third : modifiers.soleValue? = some number) (fragment : Fragment) :
      number.normalized = .ok fragment ↔ number.Gives fragment :=
    within modifiers (mem_children_of_child? second) number (mem_subtrees_of_soleValue? third)
      fragment
  rw [normalized_relation_eq_ok_iff]
  constructor
  · rintro ⟨comparitor, value, first, found,
      ⟨second, rfl⟩ | ⟨modifiers, number, digits, boost, second, third, numberFound, read, rfl⟩⟩
    · exact .relation first second ((atChild first _).mp found)
    · exact .boosted first second third ((atChild first _).mp found)
        ((atValue second third _).mp numberFound) read
  · intro gives
    cases gives with
    | passed passes | collected passes => exact absurd passes (by decide)
    | relation first second inner =>
      exact ⟨_, _, first, (atChild first _).mpr inner, .inl ⟨second, rfl⟩⟩
    | boosted first second third inner numberGives read =>
      exact ⟨_, _, first, (atChild first _).mpr inner,
        .inr ⟨_, _, _, _, second, third, (atValue second third _).mpr numberGives, read, rfl⟩⟩

/-- What normalizing finds at a tree is what the tree has to give. -/
theorem normalized_eq_ok_iff (tree : Tree) (fragment : Fragment) :
    tree.normalized = .ok fragment ↔ tree.Gives fragment := by
  induction tree using within_induct generalizing fragment with
  | step tree within =>
    cases tree with
    | text value =>
      constructor
      · intro found
        obtain rfl : Fragment.text value = fragment := Except.ok.inj found
        exact .text value
      · rintro ⟨⟩
        rfl
    | node kind children =>
      have each : ∀ child ∈ children, ∀ fragment,
          child.normalized = .ok fragment ↔ child.Gives fragment :=
        fun child member => within child member child (self_mem_subtrees child)
      cases kind with
      | scopedClause => exact gives_iff_of_scopedClause each
      | searchClause => exact gives_iff_of_searchClause each
      | relation => exact gives_iff_of_relation within
      | _ => exact gives_iff_of_passesOn each rfl

end Tree

end ContextualQuery
