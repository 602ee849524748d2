import ContextualQuery.Proofs.Expression.Normalized

/-!
# Canonical expressions

An expression is canonical when no part of it could be written with fewer levels or fewer flags:
every operator has at least two operands, an operand with the same operator is merged unless it is
negated, an `or` has no negated operand, and an `and` starts with an operand that is not negated.
Every expression that a tree is normalized to is canonical, and it is not negated itself, whatever
the shape of the tree.

The operands that a side brings under an operator are the reason. Either the side is its only
operand and could not be merged, or the side is merged and its operands were arranged already under
the same operator. Both lists can follow one another, because the left side is never negated and
the right side is negated under an `and` only.
-/

namespace ContextualQuery

namespace Expression

/-- The operands are as canonical expressions have them under an operator. -/
structure Arranged (operator : Operator) (operands : List Expression) : Prop where
  several : 2 ≤ operands.length
  merged : ∀ operand ∈ operands, operand.operator? = some operator → operand.mustNot = true
  affirmed : operator = .or → ∀ operand ∈ operands, operand.mustNot = false
  led : operator = .and → ∀ first ∈ operands.head?, first.mustNot = false

/-- Every nested expression has its operands as they should be, at all levels. -/
inductive Canonical : Expression → Prop
  | search (parts : Search) : Canonical (.search parts)
  | nested {operator : Operator} {operands : List Expression} (mustNot : Bool)
      (arranged : Arranged operator operands) (each : ∀ operand ∈ operands, Canonical operand) :
      Canonical (.nested operator operands mustNot)

variable {operator : Operator} {expression left right : Expression}

/-- A flag does not matter to what is below it. -/
theorem Canonical.setMustNot (canonical : Canonical expression) (mustNot : Bool) :
    Canonical (expression.setMustNot mustNot) := by
  cases canonical with
  | search parts => exact .search _
  | nested _ arranged each => exact .nested mustNot arranged each

/-- A side is merged, or it is an operand that could not be. -/
theorem operandsUnder_cases (operator : Operator) (expression : Expression) :
    (∃ operands, expression = .nested operator operands false ∧
      expression.operandsUnder operator = operands) ∨
    (expression.operandsUnder operator = [expression] ∧
      (expression.operator? = some operator → expression.mustNot = true)) := by
  cases expression with
  | search parts => exact .inr ⟨rfl, by simp [operator?]⟩
  | nested inner operands mustNot =>
    by_cases same : inner = operator ∧ mustNot = false
    · obtain ⟨rfl, rfl⟩ := same
      exact .inl ⟨operands, rfl, by simp [operandsUnder]⟩
    · right
      constructor
      · simp [operandsUnder, same]
      · intro sameOperator
        have notPlain : mustNot ≠ false := fun plain =>
          same ⟨Option.some.inj sameOperator, plain⟩
        simpa [Expression.mustNot] using notPlain

/-! ### What a side brings -/

/-- A canonical expression has operands under every operator, if only itself. -/
theorem Canonical.operandsUnder_ne_nil (canonical : Canonical expression) (operator : Operator) :
    expression.operandsUnder operator ≠ [] := by
  rcases operandsUnder_cases operator expression with ⟨operands, rfl, same⟩ | ⟨same, _⟩
  · cases canonical with
    | nested _ arranged _ =>
      intro nothing
      have several := arranged.several
      rw [← same, nothing] at several
      simp at several
  · simp [same]

/-- The operands of a canonical expression are canonical. -/
theorem Canonical.of_mem_operandsUnder (canonical : Canonical expression) {operand : Expression}
    (member : operand ∈ expression.operandsUnder operator) : Canonical operand := by
  rcases operandsUnder_cases operator expression with ⟨operands, rfl, same⟩ | ⟨same, _⟩
  · cases canonical with
    | nested _ _ each => exact each operand (same ▸ member)
  · obtain rfl : operand = expression := by simpa [same] using member
    exact canonical

/-- An operand with the same operator that is not negated would have been merged. -/
theorem Canonical.merged_operandsUnder (canonical : Canonical expression) {operand : Expression}
    (member : operand ∈ expression.operandsUnder operator)
    (sameOperator : operand.operator? = some operator) : operand.mustNot = true := by
  rcases operandsUnder_cases operator expression with ⟨operands, rfl, same⟩ | ⟨same, negated⟩
  · cases canonical with
    | nested _ arranged _ => exact arranged.merged operand (same ▸ member) sameOperator
  · obtain rfl : operand = expression := by simpa [same] using member
    exact negated sameOperator

/-- A side that is not negated brings no negated operand under an `or`. -/
theorem Canonical.affirmed_operandsUnder (canonical : Canonical expression)
    (plain : expression.mustNot = false) {operand : Expression}
    (member : operand ∈ expression.operandsUnder .or) : operand.mustNot = false := by
  rcases operandsUnder_cases .or expression with ⟨operands, rfl, same⟩ | ⟨same, _⟩
  · cases canonical with
    | nested _ arranged _ => exact arranged.affirmed rfl operand (same ▸ member)
  · obtain rfl : operand = expression := by simpa [same] using member
    exact plain

/-- A side that is not negated starts with an operand that is not negated under an `and`. -/
theorem Canonical.led_operandsUnder (canonical : Canonical expression)
    (plain : expression.mustNot = false) {first : Expression}
    (isFirst : first ∈ (expression.operandsUnder .and).head?) : first.mustNot = false := by
  rcases operandsUnder_cases .and expression with ⟨operands, rfl, same⟩ | ⟨same, _⟩
  · cases canonical with
    | nested _ arranged _ => exact arranged.led rfl first (same ▸ isFirst)
  · obtain rfl : expression = first := by simpa [same] using isFirst
    exact plain

/-! ### Joining -/

/-- Two canonical sides are arranged when joined, if no flag is lost: the left side is not negated,
and the right side is negated at most under an `and`. -/
theorem Arranged.joined (leftCanonical : Canonical left) (rightCanonical : Canonical right)
    (leftPlain : left.mustNot = false) (rightPlain : operator = .or → right.mustNot = false) :
    Arranged operator (left.operandsUnder operator ++ right.operandsUnder operator) := by
  constructor
  case several =>
    have leftSome := List.length_pos_iff.mpr (leftCanonical.operandsUnder_ne_nil operator)
    have rightSome := List.length_pos_iff.mpr (rightCanonical.operandsUnder_ne_nil operator)
    rw [List.length_append]
    omega
  case merged =>
    intro operand member
    rcases List.mem_append.mp member with member | member
    · exact leftCanonical.merged_operandsUnder member
    · exact rightCanonical.merged_operandsUnder member
  case affirmed =>
    rintro rfl operand member
    rcases List.mem_append.mp member with member | member
    · exact leftCanonical.affirmed_operandsUnder leftPlain member
    · exact rightCanonical.affirmed_operandsUnder (rightPlain rfl) member
  case led =>
    rintro rfl first isFirst
    obtain ⟨leftFirst, rest, shape⟩ :=
      List.exists_cons_of_ne_nil (leftCanonical.operandsUnder_ne_nil .and)
    apply leftCanonical.led_operandsUnder leftPlain
    simpa [shape] using isFirst

/-- Joining two canonical sides is canonical, if the left one is not negated, and under `or` the
right one is not either. -/
theorem Canonical.joined (leftCanonical : Canonical left) (rightCanonical : Canonical right)
    (leftPlain : left.mustNot = false) (rightPlain : operator = .or → right.mustNot = false) :
    Canonical (left.joined operator right) := by
  apply Canonical.nested
  · exact Arranged.joined leftCanonical rightCanonical leftPlain rightPlain
  · intro operand member
    rcases List.mem_append.mp member with member | member
    · exact leftCanonical.of_mem_operandsUnder member
    · exact rightCanonical.of_mem_operandsUnder member

/-- Joining by a boolean keeps expressions canonical and not negated. Only a `not` negates a side,
and it puts that side second under an `and`. -/
theorem Canonical.joinedBy {boolean : String} {joined : Expression}
    (leftCanonical : Canonical left) (rightCanonical : Canonical right)
    (leftPlain : left.mustNot = false) (rightPlain : right.mustNot = false)
    (isJoined : joinedBy? boolean left right = some joined) :
    joined.mustNot = false ∧ joined.Canonical := by
  unfold joinedBy? at isJoined
  split at isJoined
  case isTrue =>
    obtain rfl := Option.some.inj isJoined
    exact ⟨rfl, leftCanonical.joined rightCanonical leftPlain fun _ => rightPlain⟩
  case isFalse =>
    split at isJoined
    case isTrue =>
      obtain rfl := Option.some.inj isJoined
      exact ⟨rfl, leftCanonical.joined rightCanonical leftPlain fun _ => rightPlain⟩
    case isFalse =>
      split at isJoined
      case isTrue =>
        obtain rfl := Option.some.inj isJoined
        exact ⟨rfl, leftCanonical.joined (rightCanonical.setMustNot true) leftPlain (by simp)⟩
      case isFalse => simp at isJoined

end Expression

/-- Whatever the shape of a tree, the expression that it asks for is canonical and not negated.

Proof: by induction on how normalizing builds expressions. A search is canonical, and so is what joins two
canonical expressions that are not negated. -/
theorem toExpression_canonical (tree : Tree) (expression : Expression)
    (found : tree.toExpression = .ok expression) :
    expression.mustNot = false ∧ expression.Canonical := by
  apply Tree.normalized_induct (motive := fun found => found.mustNot = false ∧ found.Canonical)
  case found => exact Tree.toExpression_eq_ok_iff.mp found
  case search =>
    intro parts plain
    exact ⟨plain, .search parts⟩
  case joined =>
    intro boolean left right joined leftSettled rightSettled isJoined
    exact leftSettled.2.joinedBy rightSettled.2 leftSettled.1 rightSettled.1 isJoined

/-- A text beside the clauses and an index around one of them do not matter. The merged operands of
the left side stand beside the right side, which is kept apart by its flag. -/
theorem toExpression_canonical_wrapped :
    ∃ tree expression,
      tree = Tree.node .scopedClause
        [.text "beside",
          .node .index
            [Tree.joinedClause (Tree.searchClause (Tree.searchTerm (Tree.term "a")))
              (Tree.boolean "and") (Tree.searchClause (Tree.searchTerm (Tree.term "b")))],
          Tree.boolean "NOT",
          Tree.group (Tree.cqlQuery
            (Tree.joinedClause (Tree.searchClause (Tree.searchTerm (Tree.term "c")))
              (Tree.boolean "not") (Tree.searchClause (Tree.searchTerm (Tree.term "d")))))] ∧
      expression =
        .nested .and
          [.ofTerm "a", .ofTerm "b",
            .nested .and [.ofTerm "c", (Expression.ofTerm "d").negated] true] false ∧
      tree.toExpression = .ok expression ∧ expression.mustNot = false ∧ expression.Canonical := by
  refine ⟨_, _, rfl, rfl, ?found, toExpression_canonical _ _ ?found⟩
  rfl

end ContextualQuery
