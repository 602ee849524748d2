import ContextualQuery.Expression.Basic

/-!
# Walks over expressions

An expression is walked in order: first itself, then its operands from the left, each with everything
below it. A walk that only looks keeps the expressions still to be seen, the next one first. A walk
that changes what it sees descends into the operands of the changed expression, so new operands are
seen too, and a change that puts in what it will change again need not come to an end; it is given a
number of levels, and a deeper descent has no result.
-/

namespace ContextualQuery.Expression

mutual

/-- The number of expressions within an expression, itself included. -/
def size : Expression → Nat
  | .nested _ operands _ => 1 + sizeAll operands
  | .search _ => 1

/-- The number of expressions within a list of expressions. -/
def sizeAll : List Expression → Nat
  | [] => 0
  | head :: tail => size head + sizeAll tail

end

mutual

/-- The number of levels of an expression. -/
def depth : Expression → Nat
  | .nested _ operands _ => 1 + depthAll operands
  | .search _ => 1

/-- The number of levels below a list of operands. -/
def depthAll : List Expression → Nat
  | [] => 0
  | head :: tail => max (depth head) (depthAll tail)

end

/-- The sizes of two lists add up. -/
theorem sizeAll_append (left right : List Expression) :
    sizeAll (left ++ right) = sizeAll left + sizeAll right := by
  induction left with
  | nil => simp [sizeAll]
  | cons head tail inductionHypothesis => simp [sizeAll, inductionHypothesis, Nat.add_assoc]

/-- An expression counts itself and what its operands hold. -/
theorem size_eq (expression : Expression) : expression.size = 1 + sizeAll expression.operands := by
  cases expression <;> simp [size, operands, sizeAll]

/-- A walk, by the expressions still to be seen with everything below them. -/
structure Walk where
  pending : List Expression

namespace Walk

/-- The walk over an expression. -/
def start (expression : Expression) : Walk := ⟨[expression]⟩

/-- The next expression, and the walk after it. -/
def next? (walk : Walk) : Option (Expression × Walk) :=
  match walk.pending with
  | [] => none
  | head :: rest => some (head, ⟨head.operands ++ rest⟩)

/-- Each step of a walk takes one expression off, so the walk ends. -/
theorem sizeAll_next? {walk after : Walk} {expression : Expression}
    (step : walk.next? = some (expression, after)) :
    sizeAll after.pending < sizeAll walk.pending := by
  unfold next? at step
  split at step
  · simp at step
  next head rest pending =>
    simp only [Option.some.injEq, Prod.mk.injEq] at step
    obtain ⟨rfl, rfl⟩ := step
    rw [pending, sizeAll, sizeAll_append, size_eq]
    omega

/-- The expressions that a walk sees, in order. -/
def toList (walk : Walk) : List Expression :=
  match _step : walk.next? with
  | none => []
  | some (expression, after) => expression :: after.toList
termination_by sizeAll walk.pending
decreasing_by exact sizeAll_next? _step

end Walk

/-- The expressions within an expression, in order. -/
def toList (expression : Expression) : List Expression := (Walk.start expression).toList

/-- A change of an expression, with a state from one expression to the next. -/
abbrev Change (σ : Type) := σ → Expression → Expression × σ

/-- Changes the expressions of a list one after the other. -/
def changeList? {σ : Type} (changeOne? : σ → Expression → Option (Expression × σ)) :
    σ → List Expression → Option (List Expression × σ)
  | state, [] => some ([], state)
  | state, head :: tail =>
    match changeOne? state head with
    | none => none
    | some (head, state) =>
      match changeList? changeOne? state tail with
      | none => none
      | some (tail, state) => some (head :: tail, state)

/-- Changes an expression and then its operands, as they are after the change, down to a number of
levels. -/
def changeEach? {σ : Type} (change : Change σ) : Nat → σ → Expression → Option (Expression × σ)
  | 0, _, _ => none
  | levels + 1, state, expression =>
    match change state expression with
    | (.search parts, state) => some (.search parts, state)
    | (.nested operator operands mustNot, state) =>
      (changeList? (changeEach? change levels) state operands).map fun (operands, state) =>
        (.nested operator operands mustNot, state)

/-- The change that puts an expression in the place of every search for a term. -/
def replacing (term : String) (replacement : Expression) : Change Unit := fun state expression =>
  match expression with
  | .search parts => (if parts.term = term then replacement else expression, state)
  | .nested .. => (expression, state)

/-- The change that counts the expressions from zero, and adds a suffix and the count to terms. -/
def numbering (suffix : String) : Change Nat := fun count expression =>
  match expression with
  | .search parts =>
    (.search { parts with term := parts.term ++ suffix ++ toString count }, count + 1)
  | .nested .. => (expression, count + 1)

/-- The change that negates every expression, or takes its negation away. -/
def toggling : Change Unit := fun state expression =>
  (expression.setMustNot !expression.mustNot, state)

/-- An expression with another in the place of every search for a term. A replacement that is a
search for the term itself stands after one change; one with such a search below it never ends. -/
def replaceTerm? (expression : Expression) (term : String) (replacement : Expression) :
    Option Expression :=
  (changeEach? (replacing term replacement) (expression.depth + replacement.depth) () expression).map
    Prod.fst

/-- An expression with a suffix and a count added to its terms. -/
def numberTerms? (expression : Expression) (suffix : String) : Option Expression :=
  (changeEach? (numbering suffix) expression.depth 0 expression).map Prod.fst

/-- An expression with the flag of every expression in it turned. -/
def toggleAll? (expression : Expression) : Option Expression :=
  (changeEach? toggling expression.depth () expression).map Prod.fst

end ContextualQuery.Expression
