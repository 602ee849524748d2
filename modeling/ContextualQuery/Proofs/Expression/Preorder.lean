import ContextualQuery.Expression.Walk

/-!
# The order of a walk

A walk over an expression sees it first and then everything below its operands from the left. The walk
keeps what is still to be seen in a list, and what it sees from there on is the order of that list, also
when the list holds several expressions.

A place within an expression is told by the numbers of the operands that lead to it. In the order of
the walk the places increase, which puts an expression in front of what is below it, and no place is
left out or comes twice.
-/

namespace ContextualQuery.Expression

/-! ### The order -/

mutual

/-- An expression, and behind it everything below its operands from the left. -/
def preorder : Expression → List Expression
  | .nested operator operands mustNot => .nested operator operands mustNot :: preorderAll operands
  | .search parts => [.search parts]

/-- The expressions of a list from the left, each with everything below it. -/
def preorderAll : List Expression → List Expression
  | [] => []
  | head :: tail => preorder head ++ preorderAll tail

end

/-- An expression comes first, and then what its operands hold. -/
theorem preorder_eq (expression : Expression) :
    expression.preorder = expression :: preorderAll expression.operands := by
  cases expression <;> rfl

/-- The pre-orders of two lists stand one behind the other. -/
theorem preorderAll_append (front back : List Expression) :
    preorderAll (front ++ back) = preorderAll front ++ preorderAll back := by
  induction front with
  | nil => rfl
  | cons head tail inductionHypothesis => simp [preorderAll, inductionHypothesis]

/-- A walk sees the pending expressions in order. -/
theorem Walk.toList_eq_preorderAll (walk : Walk) : walk.toList = preorderAll walk.pending := by
  rw [Walk.toList.eq_def]
  split
  case h_1 ended =>
    have nothing : walk.pending = [] := by
      cases pending : walk.pending with
      | nil => rfl
      | cons head rest => simp [Walk.next?, pending] at ended
    rw [nothing, preorderAll]
  case h_2 expression after step =>
    have shorter := Walk.sizeAll_next? step
    rw [Walk.toList_eq_preorderAll after]
    cases pending : walk.pending with
    | nil => simp [Walk.next?, pending] at step
    | cons head rest =>
      obtain ⟨rfl, rfl⟩ : head = expression ∧ ⟨head.operands ++ rest⟩ = after := by
        simpa [Walk.next?, pending] using step
      rw [preorderAll, preorder_eq, preorderAll_append, List.cons_append]
termination_by sizeAll walk.pending

/-- The walk with a stack gives the expressions in pre-order. -/
theorem toList_eq_preorder (expression : Expression) : expression.toList = expression.preorder := by
  rw [toList, Walk.toList_eq_preorderAll, Walk.start, preorderAll, preorderAll, List.append_nil]

/-! ### Places -/

/-- The expression at a place, which is told by the numbers of the operands that lead there. -/
def at? : Expression → List Nat → Option Expression
  | expression, [] => some expression
  | expression, number :: path => expression.operands[number]?.bind fun operand => operand.at? path

mutual

/-- The places within an expression, in the order of the expressions that stand there. -/
def places : Expression → List (List Nat)
  | .nested _ operands _ => [] :: placesFrom 0 operands
  | .search _ => [[]]

/-- The places within operands, of which the first has the given number. -/
def placesFrom : Nat → List Expression → List (List Nat)
  | _, [] => []
  | number, head :: tail => (places head).map (number :: ·) ++ placesFrom (number + 1) tail

end

/-- The first place is that of the expression itself, and then those within its operands follow. -/
theorem places_eq (expression : Expression) :
    expression.places = [] :: placesFrom 0 expression.operands := by
  cases expression <;> rfl

/-- A place within operands is a place within one of them. -/
theorem mem_placesFrom {first : Nat} {operands : List Expression} {place : List Nat} :
    place ∈ placesFrom first operands ↔
      ∃ number operand path, operands[number]? = some operand ∧ path ∈ operand.places ∧
        place = (first + number) :: path := by
  induction operands generalizing first with
  | nil => simp [placesFrom]
  | cons head tail inductionHypothesis =>
    rw [placesFrom, List.mem_append, List.mem_map, inductionHypothesis]
    constructor
    · rintro (⟨path, isPlace, rfl⟩ | ⟨number, operand, path, found, isPlace, rfl⟩)
      · exact ⟨0, head, path, rfl, isPlace, rfl⟩
      · exact ⟨number + 1, operand, path, found, isPlace, by rw [Nat.add_right_comm, Nat.add_assoc]⟩
    · rintro ⟨number, operand, path, found, isPlace, rfl⟩
      cases number with
      | zero =>
        obtain rfl : head = operand := by simpa using found
        exact .inl ⟨path, isPlace, rfl⟩
      | succ number =>
        exact .inr ⟨number, operand, path, found, isPlace, by rw [Nat.add_right_comm, Nat.add_assoc]⟩

/-- The places within an expression are those where an expression stands. -/
theorem mem_places {expression : Expression} {place : List Nat} :
    place ∈ expression.places ↔ (expression.at? place).isSome = true := by
  induction place generalizing expression with
  | nil => simp [places_eq, at?]
  | cons number path inductionHypothesis =>
    rw [places_eq, List.mem_cons, mem_placesFrom, at?]
    cases found : expression.operands[number]? with
    | none =>
      simp only [reduceCtorEq, false_or, Option.bind_none, Option.isSome_none, Bool.false_eq_true,
        iff_false]
      rintro ⟨number', operand, path', found', _, same⟩
      obtain ⟨rfl, rfl⟩ : number = number' ∧ path = path' := by simpa using same
      simp [found] at found'
    | some operand =>
      rw [Option.bind_some, ← inductionHypothesis]
      simp only [reduceCtorEq, false_or]
      constructor
      · rintro ⟨number', operand', path', found', isPlace, same⟩
        obtain ⟨rfl, rfl⟩ : number = number' ∧ path = path' := by simpa using same
        obtain rfl := Option.some.inj (found.symm.trans found')
        exact isPlace
      · intro isPlace
        exact ⟨number, operand, path, found, isPlace, by rw [Nat.zero_add]⟩

mutual

/-- The places within an expression increase from the left. -/
theorem places_increasing : ∀ expression : Expression,
    expression.places.Pairwise (List.Lex (· < ·))
  | .nested _ operands _ => by
    rw [places]
    refine List.pairwise_cons.mpr ⟨?_, placesFrom_increasing 0 operands⟩
    intro place member
    obtain ⟨number, _, path, _, _, rfl⟩ := mem_placesFrom.mp member
    exact .nil
  | .search _ => List.pairwise_singleton _ _

/-- The places within operands come in lexicographic order, since the operands are counted up. -/
theorem placesFrom_increasing : ∀ (first : Nat) (operands : List Expression),
    (placesFrom first operands).Pairwise (List.Lex (· < ·))
  | _, [] => List.Pairwise.nil
  | first, head :: tail => by
    rw [placesFrom, List.pairwise_append]
    refine ⟨?_, placesFrom_increasing (first + 1) tail, ?_⟩
    · exact List.pairwise_map.mpr ((places_increasing head).imp .cons)
    · intro left isLeft right isRight
      obtain ⟨path, _, rfl⟩ := List.mem_map.mp isLeft
      obtain ⟨number, _, path', _, _, rfl⟩ := mem_placesFrom.mp isRight
      exact .rel (by omega)

end

mutual

/-- What stands at the places are the expressions in order. -/
theorem map_at?_places : ∀ expression : Expression,
    expression.places.map expression.at? = expression.preorder.map some
  | .nested operator operands mustNot => by
    rw [places, preorder, List.map_cons, List.map_cons,
      map_at?_placesFrom (.nested operator operands mustNot) 0 operands rfl, at?]
  | .search _ => rfl

/-- At the places within operands stand, one by one, the expressions that these hold. -/
theorem map_at?_placesFrom (expression : Expression) : ∀ (first : Nat) (operands : List Expression),
    expression.operands.drop first = operands →
      (placesFrom first operands).map expression.at? = (preorderAll operands).map some
  | _, [], _ => rfl
  | first, head :: tail, stands => by
    have here : expression.operands[first]? = some head := by
      rw [← List.head?_drop, stands, List.head?_cons]
    have behind : expression.operands.drop (first + 1) = tail := by
      rw [← List.tail_drop, stands, List.tail_cons]
    have inside : (expression.at? ∘ fun path => first :: path) = head.at? := by
      funext path
      rw [Function.comp_apply, at?, here, Option.bind_some]
    rw [placesFrom, preorderAll, List.map_append, List.map_append, List.map_map, inside,
      map_at?_places head, map_at?_placesFrom expression (first + 1) tail behind]

end

end ContextualQuery.Expression
