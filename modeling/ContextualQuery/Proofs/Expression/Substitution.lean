import ContextualQuery.Proofs.Expression.Calls
import ContextualQuery.Proofs.Expression.Searches

/-!
# Substitution in place

The change that puts an expression in the place of every search for a term also walks through what it
has put in. If the term is not searched for there, the change does nothing more to it, so the walk
comes to its end, and what it leaves is the expression with all these searches substituted at once.
The walk needs no more levels than the expression and the replacement have together.
-/

namespace ContextualQuery.Expression

mutual

/-- The expression with another one for every search for a term. -/
def substitute (term : String) (replacement : Expression) : Expression → Expression
  | .nested operator operands mustNot =>
    .nested operator (substituteAll term replacement operands) mustNot
  | .search parts => if parts.term = term then replacement else .search parts

/-- The expressions of a list with another one for every search for a term. -/
def substituteAll (term : String) (replacement : Expression) : List Expression → List Expression
  | [] => []
  | head :: tail => substitute term replacement head :: substituteAll term replacement tail

end

variable {term : String} {replacement expression : Expression} {levels : Nat}

/-- Substituting in some operands is substituting in each of them. -/
theorem substituteAll_eq_map (term : String) (replacement : Expression)
    (operands : List Expression) :
    substituteAll term replacement operands = operands.map (substitute term replacement) := by
  induction operands with
  | nil => rfl
  | cons head tail inductionHypothesis => rw [substituteAll, inductionHypothesis, List.map_cons]

/-- The searches for the term give way to those of the replacement, and the others stay in their
places. -/
theorem searches_substitute (term : String) (replacement expression : Expression) :
    (substitute term replacement expression).searches =
      expression.searches.flatMap fun parts =>
        if parts.term = term then replacement.searches else [parts] := by
  induction expression with
  | search parts =>
    rw [substitute, searches, List.flatMap_singleton]
    split <;> rfl
  | nested operator operands mustNot each =>
    rw [substitute, searches, searches, substituteAll_eq_map, searchesAll_eq_flatMap,
      searchesAll_eq_flatMap, List.flatMap_map, List.flatMap_assoc, List.flatMap_def,
      List.map_congr_left each, List.flatMap_def]

/-! ### The walk -/

/-- Operands that are changed one by one, without a state. -/
theorem changeList?_eq_map {changeOne? : Unit → Expression → Option (Expression × Unit)}
    {operands : List Expression} (changed : Expression → Expression)
    (each : ∀ operand ∈ operands, changeOne? () operand = some (changed operand, ())) :
    changeList? changeOne? () operands = some (operands.map changed, ()) := by
  induction operands with
  | nil => rfl
  | cons head tail inductionHypothesis =>
    obtain ⟨first, others⟩ := List.forall_mem_cons.mp each
    rw [changeList?_cons, first, Option.bind_some, inductionHypothesis others, Option.map_some,
      List.map_cons]

/-- What the operands search for is searched for by the expression. -/
theorem searches_operands_subset {operand : Expression} (member : operand ∈ expression.operands) :
    operand.searches ⊆ expression.searches := by
  cases expression with
  | search parts => simp [operands] at member
  | nested operator operands mustNot =>
    rw [searches, searchesAll_eq_flatMap]
    exact fun parts isSearch => List.mem_flatMap.mpr ⟨operand, member, isSearch⟩

/-- Where the term is not searched for, there is nothing to change. -/
theorem replacing_of_fresh (fresh : ∀ parts ∈ expression.searches, parts.term ≠ term) :
    replacing term replacement () expression = (expression, ()) := by
  cases expression with
  | nested operator operands mustNot => rfl
  | search parts => rw [replacing, if_neg (fresh parts (by simp [searches]))]

/-- An expression that does not search for the term is walked through without a change. -/
theorem changeEach?_replacing_of_fresh (fresh : ∀ parts ∈ expression.searches, parts.term ≠ term)
    (enough : expression.depth ≤ levels) :
    changeEach? (replacing term replacement) levels () expression = some (expression, ()) := by
  induction levels generalizing expression with
  | zero => exact absurd enough (Nat.not_le_of_lt expression.depth_pos)
  | succ levels inductionHypothesis =>
    have below : ∀ operand ∈ expression.operands, operand.depth ≤ levels := fun operand member =>
      Nat.le_of_lt_succ (Nat.lt_of_lt_of_le (depth_lt_of_mem_operands member) enough)
    have operandsStay := changeList?_eq_map id fun operand member =>
      inductionHypothesis (fun parts isSearch => fresh parts (searches_operands_subset member isSearch))
        (below operand member)
    rw [changeEach?_succ, replacing_of_fresh fresh, operandsStay, Option.map_some, List.map_id,
      withOperands_operands]

/-- The walk comes to its end. It descends into a replacement that was put in, and leaves it as it is. By
induction on the levels. A search for the term needs those of the replacement besides its own, which is
why the depths are added. -/
theorem changeEach?_replacing (fresh : ∀ parts ∈ replacement.searches, parts.term ≠ term)
    (enough : expression.depth + replacement.depth ≤ levels) :
    changeEach? (replacing term replacement) levels () expression =
      some (substitute term replacement expression, ()) := by
  induction levels generalizing expression with
  | zero =>
    have positive := expression.depth_pos
    omega
  | succ levels inductionHypothesis =>
    cases expression with
    | nested operator operands mustNot =>
      have below : ∀ operand ∈ operands, operand.depth + replacement.depth ≤ levels := by
        intro operand member
        have fewer : operand.depth < (nested operator operands mustNot).depth :=
          depth_lt_of_mem_operands member
        omega
      have replaced : changeList? (changeEach? (replacing term replacement) levels) () operands =
          some (operands.map (substitute term replacement), ()) :=
        changeList?_eq_map _ fun operand member => inductionHypothesis (below operand member)
      rw [changeEach?, substitute, substituteAll_eq_map]
      simp only [replacing, replaced, Option.map_some]
    | search parts =>
      by_cases found : parts.term = term
      · have putIn : replacing term replacement () (.search parts) = (replacement, ()) := by
          rw [replacing, if_pos found]
        have stays : changeEach? (replacing term replacement) (levels + 1) () replacement =
            some (replacement, ()) := changeEach?_replacing_of_fresh fresh (by omega)
        rw [changeEach?_succ, replacing_of_fresh fresh] at stays
        rw [changeEach?_succ, putIn, stays, substitute, if_pos found]
      · have others : ∀ parts' ∈ (Expression.search parts).searches, parts'.term ≠ term := by
          simpa [searches] using found
        rw [changeEach?_replacing_of_fresh others (by omega), substitute,
          if_neg found]

/-- If a replacement does not search for the term, replacing comes to its end and gives the expression
with the replacement for every search for the term. No search for the term remains.

Proof: the levels of the change are those of the expression and of the replacement, which is not changed
any more because it is fresh. -/
theorem replaceTerm?_exact (fresh : ∀ parts ∈ replacement.searches, parts.term ≠ term)
    (expression : Expression) :
    (∀ levels, expression.depth + replacement.depth ≤ levels →
      changeEach? (replacing term replacement) levels () expression =
        some (substitute term replacement expression, ())) ∧
    replaceTerm? expression term replacement = some (substitute term replacement expression) ∧
    ∀ parts ∈ (substitute term replacement expression).searches, parts.term ≠ term := by
  refine ⟨fun levels enough => changeEach?_replacing fresh enough, ?_, ?_⟩
  · rw [replaceTerm?, changeEach?_replacing fresh (Nat.le_refl _), Option.map_some]
  · rw [searches_substitute]
    intro parts member
    obtain ⟨original, _, isThere⟩ := List.mem_flatMap.mp member
    by_cases found : original.term = term
    · rw [if_pos found] at isThere
      exact fresh parts isThere
    · rw [if_neg found, List.mem_singleton] at isThere
      rwa [isThere]

/-- A search in an index and a negated one give way to the group, which is not negated. -/
theorem replaceTerm?_exact_group :
    let replacement : Expression := .nested .or [ofTerm "b1", ofTerm "b2"] false
    let expression : Expression :=
      .nested .or [.nested .and [ofTerm "a", (ofTerm "b").negated] true, ofIndexed "title" "=" "b"]
        false
    (∀ parts ∈ replacement.searches, parts.term ≠ "b") ∧
      replaceTerm? expression "b" replacement =
        some (.nested .or [.nested .and [ofTerm "a", replacement] true, replacement] false) ∧
      ∀ parts ∈ (substitute "b" replacement expression).searches, parts.term ≠ "b" := by
  intro replacement expression
  have fresh : ∀ parts ∈ replacement.searches, parts.term ≠ "b" := by
    simp [replacement, searches, searchesAll, ofTerm]
  obtain ⟨_, replaced, none⟩ := replaceTerm?_exact fresh expression
  exact ⟨fresh, replaced, none⟩

end ContextualQuery.Expression
