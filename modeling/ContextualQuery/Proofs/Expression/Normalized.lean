import ContextualQuery.Expression.Normal
import ContextualQuery.Proofs.Derivation

/-!
# What normalizing finds

What is found at each shape that the parser builds, from what is found at its parts; and, for trees
of any shape, where a found expression comes from. It is a search that is not negated, or it was
found at a child already, or it joins two expressions that were found at children. Nothing else
gives an expression, so what holds of searches and is kept by joining holds of every expression
that is found.
-/

namespace ContextualQuery

/-- An expression is asked for and found exactly where the finding is an expression. -/
theorem Normalized.expression_eq_ok_iff {tree : Tree} {found : Normalized}
    {expression : Expression} :
    found.expression tree = .ok expression ↔ found = .ok (.expression expression) := by
  cases found with
  | error error => simp [Normalized.expression]
  | ok fragment => cases fragment <;> simp [Normalized.expression]

namespace Tree

/-- A node is normalized from its kind and the findings on its children. -/
theorem normalized_node (kind : Kind) (children : List Tree) :
    (node kind children).normalized =
      Normal.ofNode kind (children.map fun child => (child, child.accept Normal.traversal)) := by
  rw [normalized, accept_node]
  rfl

/-- A text is found as itself, so an expression is found at a node only. -/
theorem isNode_of_normalized {tree : Tree} {expression : Expression}
    (found : tree.normalized = .ok (.expression expression)) : tree.isNode = true := by
  cases tree with
  | text value =>
    have same : Except.ok (Fragment.text value) = Except.ok (Fragment.expression expression) :=
      found
    simp at same
  | node kind children => rfl

/-- The expression of a tree is the one that is found at it. -/
theorem toExpression_eq_ok_iff {tree : Tree} {expression : Expression} :
    tree.toExpression = .ok expression ↔ tree.normalized = .ok (.expression expression) :=
  Normalized.expression_eq_ok_iff

/-! ### Shapes that the parser builds -/

/-- A single word is normalized to a search for it. -/
theorem normalized_word (value : String) :
    (searchClause (searchTerm (term value))).normalized =
      .ok (.expression (Expression.ofTerm value)) := rfl

/-- A relation without modifiers is normalized to its comparitor. -/
theorem normalized_relation (comparitor : String) :
    (relation (Tree.comparitor comparitor) none).normalized = .ok (.relation comparitor none) := rfl

/-- A boost is read as a number. -/
theorem normalized_boost {boost : String} {number : Binary64}
    (read : Binary64.read? boost = some number) (comparitor : String) :
    (relation (Tree.comparitor comparitor) (some (modifierList [modifier (identifier boostModifier)
      (Tree.comparitor "=") (term boost)]))).normalized =
      .ok (.relation comparitor (some number)) := by
  change Except.bind ((Binary64.read? boost).elim _ .ok) _ = _
  rw [read]
  rfl

/-- A clause with an index asks for its parts, with the boost that its relation gives. -/
theorem normalized_indexed {comparitor : String} {modifiers? : Option Tree}
    {boost? : Option Binary64}
    (found : (relation (Tree.comparitor comparitor) modifiers?).normalized =
      .ok (.relation comparitor boost?)) (name value : String) :
    (indexedSearchClause (index (term name)) (relation (Tree.comparitor comparitor) modifiers?)
      (searchTerm (term value))).normalized =
      .ok (.expression (.search
        { index? := some name, relation? := some comparitor, term := value, boost? })) := by
  change Except.bind (Normalized.relation _ (normalized _)) _ = _
  rw [found]
  rfl

variable {clause : Tree} {expression : Expression}

/-- A query is its scoped clause. -/
theorem normalized_cqlQuery (found : clause.normalized = .ok (.expression expression)) :
    (cqlQuery clause).normalized = .ok (.expression expression) := by
  change Normal.combined [clause.normalized] = _
  rw [found]
  rfl

/-- Parentheses leave no trace. -/
theorem normalized_group (found : (cqlQuery clause).normalized = .ok (.expression expression)) :
    (group (cqlQuery clause)).normalized = .ok (.expression expression) := by
  change Except.bind (Normalized.expression _ (cqlQuery clause).normalized) _ = _
  rw [found]
  rfl

/-- A clause that stands alone asks for what its only part asks for. -/
theorem normalized_singleClause (found : clause.normalized = .ok (.expression expression)) :
    (singleClause clause).normalized = .ok (.expression expression) := by
  rw [singleClause, normalized_node, Normal.ofNode]
  simp only [List.map_cons, List.map_nil, List.filter_cons, isNode_of_normalized found]
  change Except.bind (Normalized.expression _ clause.normalized) _ = _
  rw [found]
  rfl

/-- A scoped clause of three parts joins the expressions of its sides, if its boolean is one that
joins. -/
theorem scopedClause_joined {node left boolean right : Tree} {operator : String}
    {leftExpression rightExpression joined : Expression}
    (isJoined : Expression.joinedBy? (Text.lower operator) leftExpression rightExpression =
      some joined) :
    Normal.scopedClause node
      [(left, .ok (.expression leftExpression)), (boolean, .ok (.text operator)),
        (right, .ok (.expression rightExpression))] = .ok (.expression joined) := by
  simp [Normal.scopedClause, Normalized.expression, Normalized.text, isJoined, bind, Except.bind,
    pure, Except.pure]

/-- The expression of two sides joined by a boolean. -/
theorem normalized_joinedClause {left right : Tree}
    {leftExpression rightExpression joined : Expression} {boolean : Token}
    (leftFound : left.normalized = .ok (.expression leftExpression))
    (rightFound : right.normalized = .ok (.expression rightExpression))
    (isBoolean : boolean.IsBoolean)
    (isJoined : Expression.joinedBy? (Text.lower boolean.text) leftExpression rightExpression =
      some joined) :
    (joinedClause left (Tree.boolean boolean.text) right).normalized =
      .ok (.expression joined) := by
  have parts : (Tree.joinedClause left (Tree.boolean boolean.text) right).normalized =
      Normal.scopedClause (Tree.joinedClause left (Tree.boolean boolean.text) right)
        [(left, left.normalized),
          (Tree.boolean boolean.text, .ok (.text (Text.lower boolean.text))),
          (right, right.normalized)] := by
    rw [Tree.joinedClause, normalized_node, Normal.ofNode]
    simp only [List.map_cons, List.map_nil, List.filter_cons, List.filter_nil,
      isNode_of_normalized leftFound, isNode_of_normalized rightFound]
    rfl
  rw [parts, leftFound, rightFound, scopedClause_joined]
  rwa [isBoolean.lower_lower]

end Tree

/-! ### Where a found expression comes from -/

/-- A step in the reading of a node succeeds if what it reads does and what it does then does. -/
theorem bind_eq_ok_iff {ε α β : Type} {first : Except ε α} {next : α → Except ε β} {result : β} :
    first >>= next = .ok result ↔ ∃ value, first = .ok value ∧ next value = .ok result := by
  cases first with
  | error error => simp [bind, Except.bind]
  | ok value => simp [bind, Except.bind]

namespace Normal

/-- The ways in which an expression comes from what is found at the children of a node. -/
inductive Origin (findings : List Normalized) : Expression → Prop
  | passed {expression : Expression} (member : .ok (.expression expression) ∈ findings) :
      Origin findings expression
  | search {parts : Search} (plain : parts.mustNot = false) : Origin findings (.search parts)
  | joined {boolean : String} {left right joined : Expression}
      (leftMember : .ok (.expression left) ∈ findings)
      (rightMember : .ok (.expression right) ∈ findings)
      (isJoined : Expression.joinedBy? boolean left right = some joined) :
      Origin findings joined

variable {node : Tree} {nodes : List Finding} {findings others : List Normalized}
  {expression : Expression}

/-- More findings contain every origin that fewer of them contain. -/
theorem Origin.mono (origin : Origin findings expression) (among : findings ⊆ others) :
    Origin others expression := by
  cases origin with
  | passed member => exact .passed (among member)
  | search plain => exact .search plain
  | joined leftMember rightMember isJoined =>
    exact .joined (among leftMember) (among rightMember) isJoined

/-- Fragments are collected only if there is one at every child. -/
theorem eq_map_ok_of_mapM {findings : List Normalized} {fragments : List Fragment}
    (collected : findings.mapM (fun found => found) = .ok fragments) :
    findings = fragments.map .ok := by
  induction findings generalizing fragments with
  | nil =>
    obtain rfl : [] = fragments := by simpa [pure, Except.pure] using collected
    rfl
  | cons found rest inductionHypothesis =>
    rw [List.mapM_cons, bind_eq_ok_iff] at collected
    obtain ⟨fragment, rfl, collected⟩ := collected
    obtain ⟨others, restCollected, same⟩ := bind_eq_ok_iff.mp collected
    obtain rfl : fragment :: others = fragments := by simpa [pure, Except.pure] using same
    rw [inductionHypothesis restCollected, List.map_cons]

/-- A node that is combined gives an expression only if it has a single child. -/
theorem origin_combined (found : combined findings = .ok (.expression expression)) :
    Origin findings expression := by
  rw [combined] at found
  split at found
  case h_1 => simp at found
  case h_2 fragment collected =>
    obtain rfl : fragment = .expression expression := by simpa using found
    exact .passed (by simp [eq_map_ok_of_mapM collected])
  case h_3 => simp at found

/-- The expression of a scoped clause comes from the findings on its nodes. -/
theorem origin_scopedClause (found : scopedClause node nodes = .ok (.expression expression)) :
    Origin (nodes.map Prod.snd) expression := by
  rw [scopedClause.eq_def] at found
  split at found
  case h_1 clause finding =>
    obtain ⟨inner, isFound, same⟩ := bind_eq_ok_iff.mp found
    obtain rfl : inner = expression := by simpa [pure, Except.pure] using same
    rw [Normalized.expression_eq_ok_iff] at isFound
    exact .passed (by simp [isFound])
  case h_2 left leftFinding boolean booleanFinding right rightFinding =>
    obtain ⟨leftExpression, leftFound, found⟩ := bind_eq_ok_iff.mp found
    obtain ⟨rightExpression, rightFound, found⟩ := bind_eq_ok_iff.mp found
    obtain ⟨operator, booleanFound, found⟩ := bind_eq_ok_iff.mp found
    rw [Normalized.expression_eq_ok_iff] at leftFound rightFound
    split at found
    case h_1 joined isJoined =>
      obtain rfl : joined = expression := by simpa [pure, Except.pure] using found
      exact .joined (by simp [leftFound]) (by simp [rightFound]) isJoined
    case h_2 => simp [throw, throwThe, MonadExceptOf.throw] at found
  case h_3 => simp at found

/-- The expression of a search clause comes from the findings on its nodes. -/
theorem origin_searchClause (found : searchClause node nodes = .ok (.expression expression)) :
    Origin (nodes.map Prod.snd) expression := by
  rw [searchClause.eq_def] at found
  split at found
  case h_1 =>
    obtain ⟨inner, isFound, same⟩ := bind_eq_ok_iff.mp found
    obtain rfl : inner = expression := by simpa [pure, Except.pure] using same
    rw [Normalized.expression_eq_ok_iff] at isFound
    exact .passed (by simp [isFound])
  case h_2 =>
    obtain ⟨term, termFound, same⟩ := bind_eq_ok_iff.mp found
    obtain rfl : Expression.ofTerm term = expression := by simpa [pure, Except.pure] using same
    exact .search rfl
  case h_3 =>
    obtain ⟨⟨comparitor, boost?⟩, relationFound, found⟩ := bind_eq_ok_iff.mp found
    obtain ⟨index, indexFound, found⟩ := bind_eq_ok_iff.mp found
    obtain ⟨term, termFound, same⟩ := bind_eq_ok_iff.mp found
    simp only [pure, Except.pure, Except.ok.injEq, Fragment.expression.injEq] at same
    rw [← same]
    exact .search rfl
  case h_4 => simp at found

/-- A relation is no expression. -/
theorem relation_ne_expression (node : Tree) (children : List (Tree × Normal))
    (expression : Expression) : relation node children ≠ .ok (.expression expression) := by
  intro found
  rw [relation.eq_def] at found
  split at found
  case h_1 => simp at found
  case h_2 =>
    obtain ⟨comparitor, comparitorFound, found⟩ := bind_eq_ok_iff.mp found
    split at found
    case h_1 => simp [pure, Except.pure] at found
    case h_2 =>
      obtain ⟨boost, boostFound, same⟩ := bind_eq_ok_iff.mp found
      simp [pure, Except.pure] at same

end Normal

namespace Tree

/-- An expression that is found at a node comes from what is found at its children. -/
theorem origin_of_normalized {kind : Kind} {children : List Tree} {expression : Expression}
    (found : (node kind children).normalized = .ok (.expression expression)) :
    Normal.Origin (children.map normalized) expression := by
  rw [normalized_node, Normal.ofNode.eq_def] at found
  have nodesAmong : (((children.map fun child => (child, child.accept Normal.traversal)).filter
      (·.1.isNode)).map fun finding => (finding.1, finding.2.found)).map Prod.snd ⊆
        children.map normalized := by
    intro finding member
    rw [List.map_map] at member
    obtain ⟨child, isChild, rfl⟩ := List.mem_map.mp member
    obtain ⟨tree, isTree, rfl⟩ := List.mem_map.mp (List.mem_filter.mp isChild).1
    exact List.mem_map.mpr ⟨tree, isTree, rfl⟩
  dsimp only at found
  split at found
  · exact (Normal.origin_scopedClause found).mono nodesAmong
  · exact (Normal.origin_searchClause found).mono nodesAmong
  · exact absurd found (Normal.relation_ne_expression _ _ _)
  · apply Normal.origin_combined
    rw [List.map_map] at found
    exact found

/-- To show a property of every expression that is found at some tree, it is enough to show it of
searches that are not negated, and of two expressions joined whenever both have it. -/
theorem normalized_induct {motive : Expression → Prop}
    (search : ∀ parts : Search, parts.mustNot = false → motive (.search parts))
    (joined : ∀ boolean left right joined, motive left → motive right →
      Expression.joinedBy? boolean left right = some joined → motive joined)
    {tree : Tree} {expression : Expression}
    (found : tree.normalized = .ok (.expression expression)) : motive expression := by
  induction tree generalizing expression with
  | text value => exact absurd (isNode_of_normalized found) (by simp)
  | node kind children each =>
    have known : ∀ inner, Except.ok (Fragment.expression inner) ∈ children.map normalized →
        motive inner := by
      intro inner member
      obtain ⟨child, isChild, childFound⟩ := List.mem_map.mp member
      exact each child isChild childFound
    cases origin_of_normalized found with
    | passed member => exact known _ member
    | search plain => exact search _ plain
    | joined leftMember rightMember isJoined =>
      exact joined _ _ _ _ (known _ leftMember) (known _ rightMember) isJoined

end Tree

end ContextualQuery
