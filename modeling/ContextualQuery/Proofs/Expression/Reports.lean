import ContextualQuery.Proofs.Expression.Gives

/-!
# What normalizing reports

A tree that is not normalized is reported, and the report is about a tree within it: the one whose
shape is missed, the one that gives a fragment of another sort than it is asked for, or, for a boost
that is no number, its list of modifiers.
-/

namespace ContextualQuery

/-- A step in the reading of a node fails if what it reads does, or else what it then does. -/
theorem bind_eq_error_iff {ε α β : Type} {first : Except ε α} {next : α → Except ε β} {error : ε} :
    first >>= next = .error error ↔
      first = .error error ∨ ∃ value, first = .ok value ∧ next value = .error error := by
  cases first with
  | error error => simp [bind, Except.bind]
  | ok value => simp [bind, Except.bind]

namespace Normalized

variable {tree : Tree} {found : Normalized} {error : ParseError}

/-- An expression is missing because finding failed, or because something else was found. -/
theorem expression_eq_error (failed : found.expression tree = .error error) :
    found = .error error ∨ error = ParseError.malformed tree := by
  cases found with
  | error error' => exact .inl (by simpa [Normalized.expression] using failed)
  | ok fragment => cases fragment <;> simp_all [Normalized.expression]

/-- A text is missing because finding failed, or because something else was found. -/
theorem text_eq_error (failed : found.text tree = .error error) :
    found = .error error ∨ error = ParseError.malformed tree := by
  cases found with
  | error error' => exact .inl (by simpa [Normalized.text] using failed)
  | ok fragment => cases fragment <;> simp_all [Normalized.text]

/-- A relation is missing because finding failed, or because something else was found. -/
theorem relation_eq_error (failed : found.relation tree = .error error) :
    found = .error error ∨ error = ParseError.malformed tree := by
  cases found with
  | error error' => exact .inl (by simpa [Normalized.relation] using failed)
  | ok fragment => cases fragment <;> simp_all [Normalized.relation]

end Normalized

namespace Tree

variable {tree : Tree} {nodes children : List Tree} {error : ParseError}

/-- The report names a malformed tree within the tree. -/
def Reports (tree : Tree) (error : ParseError) : Prop :=
  ∃ inner ∈ tree.subtrees, error = ParseError.malformed inner

/-- The report on a tree itself is a report on a malformed tree within it. -/
theorem reports_self (tree : Tree) : tree.Reports (ParseError.malformed tree) :=
  ⟨tree, self_mem_subtrees tree, rfl⟩

/-- What is reported of a part is reported of the whole. -/
theorem Reports.of_within {inner : Tree} (reports : inner.Reports error)
    (within : inner ∈ tree.subtrees) : tree.Reports error := by
  obtain ⟨deeper, isDeeper, rfl⟩ := reports
  exact ⟨deeper, mem_subtrees_trans within isDeeper, rfl⟩

/-- The report is made at a tree or about it. -/
def Fails (tree : Tree) (error : ParseError) : Prop :=
  tree.normalized = .error error ∨ error = ParseError.malformed tree

/-- Asking a tree for an expression fails with a report at the tree or about it. -/
theorem fails_of_expression (failed : tree.normalized.expression tree = .error error) :
    tree.Fails error :=
  Normalized.expression_eq_error failed

/-- Asking a tree for a text fails with a report at the tree or about it. -/
theorem fails_of_text (failed : tree.normalized.text tree = .error error) : tree.Fails error :=
  Normalized.text_eq_error failed

/-- Asking a tree for a relation fails with a report at the tree or about it. -/
theorem fails_of_relation (failed : tree.normalized.relation tree = .error error) :
    tree.Fails error :=
  Normalized.relation_eq_error failed

/-- A scoped clause fails by itself or where one of its nodes does. -/
theorem scopedClause_eq_error
    (failed : Normal.scopedClause tree (nodes.map finding) = .error error) :
    error = ParseError.malformed tree ∨ ∃ node ∈ nodes, node.Fails error := by
  rcases nodes with _ | ⟨left, _ | ⟨boolean, _ | ⟨right, _ | ⟨next, rest⟩⟩⟩⟩
  · exact .inl (by simpa [Normal.scopedClause, eq_comm] using failed)
  · rw [List.map_singleton, finding, Normal.scopedClause, bind_eq_error_iff] at failed
    rcases failed with failed | ⟨expression, -, failed⟩
    · exact .inr ⟨left, by simp, fails_of_expression failed⟩
    · simp [pure, Except.pure] at failed
  · exact .inl (by simpa [Normal.scopedClause, eq_comm] using failed)
  · simp only [Normal.scopedClause, List.map_cons, List.map_nil, finding, bind_eq_error_iff]
      at failed
    rcases failed with failed | ⟨leftExpression, -, failed | ⟨rightExpression, -, failed |
      ⟨operator, -, failed⟩⟩⟩
    · exact .inr ⟨left, by simp, fails_of_expression failed⟩
    · exact .inr ⟨right, by simp, fails_of_expression failed⟩
    · exact .inr ⟨boolean, by simp, fails_of_text failed⟩
    · split at failed
      case h_1 => simp [pure, Except.pure] at failed
      case h_2 =>
        exact .inr ⟨boolean, by simp, .inr (Except.error.inj failed).symm⟩
  · exact .inl (by simpa [Normal.scopedClause, eq_comm] using failed)

/-- A search clause fails by itself or where one of its nodes does. The cases are the shapes that the
handler tells apart, and in each of them the parts are asked in the order of the handler. -/
theorem searchClause_eq_error
    (failed : Normal.searchClause tree (nodes.map finding) = .error error) :
    error = ParseError.malformed tree ∨ ∃ node ∈ nodes, node.Fails error := by
  have ofMember {node : Tree} {found : Normalized} (member : (node, found) ∈ nodes.map finding) :
      node ∈ nodes ∧ found = node.normalized := by
    obtain ⟨other, isNode, same⟩ := List.mem_map.mp member
    obtain ⟨rfl, rfl⟩ := Prod.mk.inj same
    exact ⟨isNode, rfl⟩
  rw [Normal.searchClause.eq_def] at failed
  split at failed
  case h_1 query found shape =>
    obtain ⟨isNode, rfl⟩ := ofMember (shape ▸ List.mem_singleton_self _)
    rcases bind_eq_error_iff.mp failed with failed | ⟨expression, -, failed⟩
    · exact .inr ⟨_, isNode, fails_of_expression failed⟩
    · simp [pure, Except.pure] at failed
  case h_2 term found shape =>
    obtain ⟨isNode, rfl⟩ := ofMember (shape ▸ List.mem_singleton_self _)
    rcases bind_eq_error_iff.mp failed with failed | ⟨value, -, failed⟩
    · exact .inr ⟨_, isNode, fails_of_text failed⟩
    · simp [pure, Except.pure] at failed
  case h_3 index indexFound relation relationFound term termFound shape =>
    obtain ⟨isIndex, rfl⟩ := ofMember (shape ▸ by simp : (node .index index, indexFound) ∈ _)
    obtain ⟨isRelation, rfl⟩ := ofMember (shape ▸ by simp : (relation, relationFound) ∈ _)
    obtain ⟨isTerm, rfl⟩ := ofMember (shape ▸ by simp : (term, termFound) ∈ _)
    rcases bind_eq_error_iff.mp failed with failed | ⟨⟨comparitor, boost?⟩, -, failed⟩
    · exact .inr ⟨relation, isRelation, fails_of_relation failed⟩
    rcases bind_eq_error_iff.mp failed with failed | ⟨name, -, failed⟩
    · exact .inr ⟨_, isIndex, fails_of_text failed⟩
    rcases bind_eq_error_iff.mp failed with failed | ⟨value, -, failed⟩
    · exact .inr ⟨term, isTerm, fails_of_text failed⟩
    · simp [pure, Except.pure] at failed
  case h_4 => exact .inl (Except.error.inj failed).symm

/-- A boost fails at the list of modifiers, or where the number that it asks for does. -/
theorem boost_eq_error {modifiers : Tree} {value? : Option Tree}
    (failed : Normal.boost modifiers (value?.map finding) = .error error) :
    error = ParseError.malformed modifiers ∨ ∃ number, value? = some number ∧ number.Fails error := by
  cases value? with
  | none => exact .inl (Except.error.inj failed).symm
  | some number =>
    rcases bind_eq_error_iff.mp failed with failed | ⟨⟨_, _⟩, same, failed⟩
    · simp [finding] at failed
    · obtain ⟨rfl, rfl⟩ := Prod.mk.inj (Except.ok.inj same)
      rcases bind_eq_error_iff.mp failed with failed | ⟨digits, -, failed⟩
      · exact .inr ⟨number, rfl, fails_of_text failed⟩
      · left
        cases read : Binary64.read? digits with
        | none => simpa [read, eq_comm] using failed
        | some boost => simp [read] at failed

/-- A relation fails at its comparitor, at its modifiers or at the value of a modifier. -/
theorem relation_eq_error (failed : (node .relation children).normalized = .error error) :
    error = ParseError.malformed (node .relation children) ∨
      (∃ place child, (node .relation children).child? place = some child ∧ child.Fails error) ∨
      ∃ modifiers number, (node .relation children).child? 1 = some modifiers ∧
        modifiers.soleValue? = some number ∧ number.Fails error := by
  rw [normalized_relation_view, Normal.relation, getElem?_view .relation, getElem?_view .relation]
    at failed
  cases first : (node .relation children).child? 0 with
  | none =>
    rw [first] at failed
    exact .inl (Except.error.inj failed).symm
  | some comparitor =>
    rw [first] at failed
    rcases bind_eq_error_iff.mp failed with failed | ⟨value, -, failed⟩
    · exact .inr (.inl ⟨0, comparitor, first, fails_of_text failed⟩)
    cases second : (node .relation children).child? 1 with
    | none => simp [second, pure, Except.pure] at failed
    | some modifiers =>
      rw [second] at failed
      rcases bind_eq_error_iff.mp failed with failed | ⟨boost, -, failed⟩
      · rw [soleValue?_accept] at failed
        rcases boost_eq_error failed with rfl | ⟨number, third, fails⟩
        · exact .inr (.inl ⟨1, modifiers, second, .inr rfl⟩)
        · exact .inr (.inr ⟨modifiers, number, rfl, third, fails⟩)
      · simp [pure, Except.pure] at failed

/-- Combined findings fail as one of them does. -/
theorem combined_eq_error {findings : List Normalized}
    (failed : Normal.combined findings = .error error) : .error error ∈ findings := by
  have collected : findings.mapM (fun found => found) = .error error := by
    rw [Normal.combined] at failed
    split at failed
    case h_1 error' collected => exact collected.trans (congrArg _ (Except.error.inj failed))
    case h_2 => simp at failed
    case h_3 => simp at failed
  clear failed
  induction findings with
  | nil => simp [pure, Except.pure] at collected
  | cons found rest inductionHypothesis =>
    rw [List.mapM_cons] at collected
    rcases bind_eq_error_iff.mp collected with rfl | ⟨fragment, -, collected⟩
    · exact List.mem_cons_self
    rcases bind_eq_error_iff.mp collected with collected | ⟨fragments, -, collected⟩
    · exact List.mem_cons_of_mem _ (inductionHypothesis collected)
    · simp [pure, Except.pure] at collected

/-- Whatever a tree is, normalizing reports a malformed tree within it if it reports anything. The
induction has the hypothesis for everything within the tree and not for the children only, since a
relation looks into the value of its modifier. -/
theorem reports_of_normalized (failed : tree.normalized = .error error) : tree.Reports error := by
  induction tree using within_induct with
  | step tree within =>
    cases tree with
    | text value => exact absurd failed (by simp [normalized, accept, Normal.traversal])
    | node kind children =>
      -- What fails is a child, or the value of a modifier, which lies deeper within a child.
      have ofWithin {child inner : Tree} (isChild : child ∈ children)
          (isInner : inner ∈ child.subtrees) (fails : inner.Fails error) :
          (node kind children).Reports error := by
        have reports : inner.Reports error := by
          rcases fails with failed | rfl
          · exact within child isChild inner isInner failed
          · exact reports_self inner
        exact reports.of_within (mem_subtrees_of_child isChild isInner)
      have ofNodes (fails : error = ParseError.malformed (node kind children) ∨
          ∃ child ∈ children.filter isNode, child.Fails error) :
          (node kind children).Reports error := by
        rcases fails with rfl | ⟨child, isNode, fails⟩
        · exact reports_self _
        · exact ofWithin (List.mem_filter.mp isNode).1 (self_mem_subtrees child) fails
      cases kind with
      | scopedClause => exact ofNodes (scopedClause_eq_error (normalized_scopedClause _ ▸ failed))
      | searchClause => exact ofNodes (searchClause_eq_error (normalized_searchClause _ ▸ failed))
      | relation =>
        rcases relation_eq_error failed with rfl | ⟨place, child, found, fails⟩ |
          ⟨modifiers, number, second, third, fails⟩
        · exact reports_self _
        · exact ofWithin (mem_children_of_child? found) (self_mem_subtrees child) fails
        · exact ofWithin (mem_children_of_child? second) (mem_subtrees_of_soleValue? third) fails
      | _ =>
        rw [normalized_of_passesOn rfl] at failed
        obtain ⟨child, isChild, failed⟩ := List.mem_map.mp (combined_eq_error failed)
        exact ofWithin isChild (self_mem_subtrees child) (.inl failed)

/-- A tree that asks for no expression is reported as malformed, at itself or within. -/
theorem reports_of_toExpression (failed : tree.toExpression = .error error) :
    tree.Reports error := by
  rcases fails_of_expression failed with failed | rfl
  · exact reports_of_normalized failed
  · exact reports_self tree

end Tree

end ContextualQuery
