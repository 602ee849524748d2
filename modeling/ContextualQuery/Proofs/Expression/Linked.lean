import ContextualQuery.Expression.Normal
import ContextualQuery.Proofs.Derivation

/-!
# Linked expressions

A boolean links an expression to the one before it, and a list of links continues a run of
expressions as a chain continues a run of clauses: an `or` ends the run, and the links behind it are
a run of their own. Joining is associative, because the operands of a side are merged. So a list of
links can be cut at any of its `or`, and a list without an `or` can be cut at any of its `and`,
without a change to the expression.
-/

namespace ContextualQuery

namespace Expression

variable {left right : Expression}

/-! ### Joining -/

/-- A joined expression is merged under its own operator. -/
theorem operandsUnder_joined (operator : Operator) (left right : Expression) :
    (joined operator left right).operandsUnder operator =
      left.operandsUnder operator ++ right.operandsUnder operator := by
  simp [joined, operandsUnder]

/-- Joining three expressions by one operator does not depend on the grouping. -/
theorem joined_assoc (operator : Operator) (left middle right : Expression) :
    joined operator (joined operator left middle) right =
      joined operator left (joined operator middle right) := by
  rw [joined, operandsUnder_joined, List.append_assoc, ← operandsUnder_joined, ← joined]

/-! ### Links -/

/-- The operator of a boolean. Every boolean other than `or` is taken for an `and`. -/
def linkOperator (boolean : Token) : Operator :=
  if Text.lower boolean.text = "or" then .or else .and

/-- The right side of a boolean, negated behind `not`. -/
def linkSide (boolean : Token) (right : Expression) : Expression :=
  if Text.lower boolean.text = "not" then right.negated else right

/-- The expression that a boolean makes of two sides. -/
def linked (boolean : Token) (left right : Expression) : Expression :=
  joined (linkOperator boolean) left (linkSide boolean right)

/-- The booleans of the language join two sides as linking does. -/
theorem joinedBy?_eq_linked {boolean : Token} (isBoolean : boolean.IsBoolean)
    (left right : Expression) :
    joinedBy? (Text.lower boolean.text) left right = some (linked boolean left right) := by
  rcases isBoolean with name | name | name <;>
    simp [joinedBy?, linked, linkOperator, linkSide, name]

/-- Around `or` two expressions are joined by `or`. -/
theorem linked_of_or {boolean : Token} (isOr : Text.lower boolean.text = "or") :
    linked boolean left right = joined .or left right := by
  simp [linked, linkOperator, linkSide, isOr]

/-- Around `and` two expressions are joined by `and`. -/
theorem linked_of_and {boolean : Token} (isAnd : Text.lower boolean.text = "and") :
    linked boolean left right = joined .and left right := by
  simp [linked, linkOperator, linkSide, isAnd]

/-- Around every boolean but `or` two expressions are joined by `and`, and `not` negates the right
one. -/
theorem linked_of_not_or {boolean : Token} (notOr : Text.lower boolean.text ≠ "or") :
    linked boolean left right = joined .and left (linkSide boolean right) := by
  rw [linked, linkOperator, if_neg notOr]

/-- A linked expression is not negated. -/
theorem mustNot_linked (boolean : Token) (left right : Expression) :
    (linked boolean left right).mustNot = false := rfl

/-! ### Runs -/

/-- The expression of the links that follow the run read so far. -/
def linkedAfter (run : Expression) : List (Token × Expression) → Expression
  | [] => run
  | (boolean, next) :: rest =>
    if Text.lower boolean.text = "or" then linked boolean run (linkedAfter next rest)
    else linkedAfter (linked boolean run next) rest

/-- There is no `or` among the links. -/
def NoOr {α : Type} (links : List (Token × α)) : Prop :=
  ∀ link ∈ links, Text.lower link.1.text ≠ "or"

/-- Whether there is an `or` among the links is decided by looking at each. -/
instance {α : Type} (links : List (Token × α)) : Decidable (NoOr links) :=
  inferInstanceAs (Decidable (∀ link ∈ links, _))

variable {run next : Expression} {boolean : Token} {front back : List (Token × Expression)}

/-- An `or` ends the run before it and starts another. -/
theorem linkedAfter_cons_or (isOr : Text.lower boolean.text = "or") :
    linkedAfter run ((boolean, next) :: back) = joined .or run (linkedAfter next back) := by
  rw [linkedAfter, if_pos isOr, linked_of_or isOr]

/-- A boolean other than `or` goes on with the run. -/
theorem linkedAfter_cons_run (notOr : Text.lower boolean.text ≠ "or") :
    linkedAfter run ((boolean, next) :: back) = linkedAfter (linked boolean run next) back := by
  rw [linkedAfter, if_neg notOr]

/-- Links can be cut at an `or`, whatever stands on either side of it. -/
theorem linkedAfter_or (isOr : Text.lower boolean.text = "or") :
    linkedAfter run (front ++ (boolean, next) :: back) =
      joined .or (linkedAfter run front) (linkedAfter next back) := by
  induction front generalizing run with
  | nil => exact linkedAfter_cons_or isOr
  | cons link rest inductionHypothesis =>
    obtain ⟨first, clause⟩ := link
    by_cases firstIsOr : Text.lower first.text = "or"
    · rw [List.cons_append, linkedAfter_cons_or firstIsOr, linkedAfter_cons_or firstIsOr,
        inductionHypothesis, joined_assoc]
    · rw [List.cons_append, linkedAfter_cons_run firstIsOr, linkedAfter_cons_run firstIsOr,
        inductionHypothesis]

/-- Links without an `or` before others make a run that the others continue. -/
theorem linkedAfter_append (frontNoOr : NoOr front) :
    linkedAfter run (front ++ back) = linkedAfter (linkedAfter run front) back := by
  induction front generalizing run with
  | nil => rfl
  | cons link rest inductionHypothesis =>
    obtain ⟨first, clause⟩ := link
    obtain ⟨notOr, restNoOr⟩ := List.forall_mem_cons.mp frontNoOr
    rw [List.cons_append, linkedAfter_cons_run notOr, linkedAfter_cons_run notOr,
      inductionHypothesis restNoOr]

/-- What stands in front of a run without an `or` can be joined to it in the end. -/
theorem linkedAfter_joined (backNoOr : NoOr back) :
    linkedAfter (joined .and run next) back = joined .and run (linkedAfter next back) := by
  induction back generalizing next with
  | nil => rfl
  | cons link rest inductionHypothesis =>
    obtain ⟨first, clause⟩ := link
    obtain ⟨notOr, restNoOr⟩ := List.forall_mem_cons.mp backNoOr
    rw [linkedAfter_cons_run notOr, linkedAfter_cons_run notOr, linked_of_not_or notOr,
      linked_of_not_or notOr, joined_assoc, inductionHypothesis restNoOr]

/-- Links without an `or` can be cut at an `and`. -/
theorem linkedAfter_and (isAnd : Text.lower boolean.text = "and") (frontNoOr : NoOr front)
    (backNoOr : NoOr back) :
    linkedAfter run (front ++ (boolean, next) :: back) =
      joined .and (linkedAfter run front) (linkedAfter next back) := by
  rw [linkedAfter_append frontNoOr, linkedAfter_cons_run (by simp [isAnd]), linked_of_and isAnd,
    linkedAfter_joined backNoOr]

end Expression

end ContextualQuery
