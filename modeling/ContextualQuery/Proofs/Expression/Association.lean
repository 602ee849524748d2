import ContextualQuery.Proofs.Expression.Derived

/-!
# Grouping of joined clauses

Three clauses can be joined in two ways: the first two are joined before the third, or the last two
before the first. Both trees ask for the same expression if their booleans have the same operator and
the first of them is not `not`. The operands of the inner clause are merged with the others in either
tree, because a joined clause asks for an expression that is not negated. Behind a `not` it is negated
as a whole, so that it cannot be merged.

The clauses may be trees of any shape at which an expression is found.
-/

namespace ContextualQuery

namespace Expression

/-- Linking is associative between booleans with the same operator, as long as the first does not
negate what follows it. -/
theorem linked_assoc {first second : Token} (sameOperator : linkOperator first = linkOperator second)
    (notNegating : Text.lower first.text ≠ "not") (left middle right : Expression) :
    linked second (linked first left middle) right =
      linked first left (linked second middle right) := by
  have plain : linkSide first (linked second middle right) = linked second middle right :=
    if_neg notNegating
  calc linked second (linked first left middle) right
      = joined (linkOperator second)
          (joined (linkOperator second) left (linkSide first middle)) (linkSide second right) := by
        rw [linked, linked, sameOperator]
    _ = joined (linkOperator second) left
          (joined (linkOperator second) middle (linkSide second right)) := by
        rw [linkSide, if_neg notNegating, joined_assoc]
    _ = linked first left (linked second middle right) := by
        rw [linked, plain, sameOperator, linked]

end Expression

namespace Tree

variable {left middle right : Tree} {leftExpression middleExpression rightExpression : Expression}

/-- A joined clause asks for the expressions of its sides, linked by its boolean. -/
theorem toExpression_joinedClause {boolean : Token} (isBoolean : boolean.IsBoolean)
    (leftFound : left.toExpression = .ok leftExpression)
    (rightFound : right.toExpression = .ok rightExpression) :
    (joinedClause left (Tree.boolean boolean.text) right).toExpression =
      .ok (leftExpression.linked boolean rightExpression) := by
  rw [toExpression_eq_ok_iff] at *
  exact normalized_joinedClause leftFound rightFound isBoolean
    (Expression.joinedBy?_eq_linked isBoolean _ _)

/-- Both ways to group three clauses ask for one expression. -/
theorem exists_toExpression_grouped {first second : Token} (firstIsBoolean : first.IsBoolean)
    (secondIsBoolean : second.IsBoolean)
    (sameOperator : Expression.linkOperator first = Expression.linkOperator second)
    (notNegating : Text.lower first.text ≠ "not")
    (leftFound : left.toExpression = .ok leftExpression)
    (middleFound : middle.toExpression = .ok middleExpression)
    (rightFound : right.toExpression = .ok rightExpression) :
    ∃ expression,
      (joinedClause (joinedClause left (boolean first.text) middle) (boolean second.text)
        right).toExpression = .ok expression ∧
      (joinedClause left (boolean first.text)
        (joinedClause middle (boolean second.text) right)).toExpression = .ok expression := by
  refine ⟨_, toExpression_joinedClause secondIsBoolean
    (toExpression_joinedClause firstIsBoolean leftFound middleFound) rightFound, ?_⟩
  rw [Expression.linked_assoc sameOperator notNegating]
  exact toExpression_joinedClause firstIsBoolean leftFound
    (toExpression_joinedClause secondIsBoolean middleFound rightFound)

/-- The expression of clauses joined by `and`, of clauses joined by `or`, and of clauses joined by `and`
and then `not` does not depend on how the tree groups them. -/
theorem toExpression_grouped (left middle right : Tree)
    (leftGives : ∃ expression, left.toExpression = .ok expression)
    (middleGives : ∃ expression, middle.toExpression = .ok expression)
    (rightGives : ∃ expression, right.toExpression = .ok expression) :
    (∃ expression,
      (joinedClause (joinedClause left (boolean "and") middle) (boolean "and")
        right).toExpression = .ok expression ∧
      (joinedClause left (boolean "and")
        (joinedClause middle (boolean "and") right)).toExpression = .ok expression) ∧
    (∃ expression,
      (joinedClause (joinedClause left (boolean "or") middle) (boolean "or")
        right).toExpression = .ok expression ∧
      (joinedClause left (boolean "or")
        (joinedClause middle (boolean "or") right)).toExpression = .ok expression) ∧
    ∃ expression,
      (joinedClause (joinedClause left (boolean "and") middle) (boolean "not")
        right).toExpression = .ok expression ∧
      (joinedClause left (boolean "and")
        (joinedClause middle (boolean "not") right)).toExpression = .ok expression := by
  obtain ⟨leftExpression, leftFound⟩ := leftGives
  obtain ⟨middleExpression, middleFound⟩ := middleGives
  obtain ⟨rightExpression, rightFound⟩ := rightGives
  have lower : ∀ name ∈ ["and", "or", "not"], Text.lower name = name := fun name member =>
    Token.lower_stable name (List.mem_append_left [")"] member)
  have lowerAnd := lower "and" (by simp)
  have lowerOr := lower "or" (by simp)
  have lowerNot := lower "not" (by simp)
  have isAnd : Token.IsBoolean ⟨"and"⟩ := .inl lowerAnd
  have isOr : Token.IsBoolean ⟨"or"⟩ := .inr (.inl lowerOr)
  have isNot : Token.IsBoolean ⟨"not"⟩ := .inr (.inr lowerNot)
  refine ⟨?bothAnd, ?bothOr, ?andNot⟩
  case bothAnd =>
    exact exists_toExpression_grouped isAnd isAnd rfl (by simp [lowerAnd]) leftFound middleFound
      rightFound
  case bothOr =>
    exact exists_toExpression_grouped isOr isOr rfl (by simp [lowerOr]) leftFound middleFound
      rightFound
  case andNot =>
    have sameOperator : Expression.linkOperator ⟨"and"⟩ = Expression.linkOperator ⟨"not"⟩ := by
      simp [Expression.linkOperator, lowerAnd, lowerNot]
    exact exists_toExpression_grouped isAnd isNot sameOperator (by simp [lowerAnd]) leftFound
      middleFound rightFound

/-- The left side joins by `or` and stays an operand under `and`, the middle one is merged there, and so
is the right one, unless it stands behind `not`. -/
theorem toExpression_grouped_mixed :
    ∃ word : String → Tree, ∃ left middle right,
      word = (fun name => searchClause (searchTerm (term name))) ∧
      left = joinedClause (word "a") (boolean "or") (word "b") ∧
      middle = joinedClause (word "c") (boolean "and") (word "d") ∧
      right = joinedClause (word "e") (boolean "not") (word "f") ∧
      left.toExpression = .ok (.nested .or [.ofTerm "a", .ofTerm "b"] false) ∧
      middle.toExpression = .ok (.nested .and [.ofTerm "c", .ofTerm "d"] false) ∧
      right.toExpression = .ok (.nested .and [.ofTerm "e", (Expression.ofTerm "f").negated] false) ∧
      (∃ expression,
        (joinedClause (joinedClause left (boolean "and") middle) (boolean "and")
          right).toExpression = .ok expression ∧
        (joinedClause left (boolean "and")
          (joinedClause middle (boolean "and") right)).toExpression = .ok expression) ∧
      (∃ expression,
        (joinedClause (joinedClause left (boolean "or") middle) (boolean "or")
          right).toExpression = .ok expression ∧
        (joinedClause left (boolean "or")
          (joinedClause middle (boolean "or") right)).toExpression = .ok expression) ∧
      ∃ expression,
        (joinedClause (joinedClause left (boolean "and") middle) (boolean "not")
          right).toExpression = .ok expression ∧
        (joinedClause left (boolean "and")
          (joinedClause middle (boolean "not") right)).toExpression = .ok expression := by
  refine ⟨_, _, _, _, rfl, rfl, rfl, rfl, rfl, rfl, rfl, ?_⟩
  apply toExpression_grouped
  case leftGives => exact ⟨.nested .or [.ofTerm "a", .ofTerm "b"] false, rfl⟩
  case middleGives => exact ⟨.nested .and [.ofTerm "c", .ofTerm "d"] false, rfl⟩
  case rightGives =>
    exact ⟨.nested .and [.ofTerm "e", (Expression.ofTerm "f").negated] false, rfl⟩

end Tree

end ContextualQuery
