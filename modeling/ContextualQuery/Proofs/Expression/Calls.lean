import ContextualQuery.Proofs.Expression.Preorder

/-!
# The calls of a change

A walk that changes an expression descends into the operands that the change has left there. Where they
are the operands from before, the change is called for the same expressions, in the same order, that a
walk sees which only looks. Calls are noted together with the state in which they are made, and the
order of the calls for a list of operands follows from that of the calls for each of them.
-/

namespace ContextualQuery.Expression

variable {σ : Type} {change : Change σ} {levels : Nat} {state : σ} {expression : Expression}

/-- An expression with other operands. A search has none and stays as it is. -/
def withOperands (operands : List Expression) : Expression → Expression
  | .nested operator _ mustNot => .nested operator operands mustNot
  | .search parts => .search parts

/-- Giving an expression its own operands changes nothing. -/
@[simp] theorem withOperands_operands (expression : Expression) :
    expression.withOperands expression.operands = expression := by
  cases expression <;> rfl

/-- An expression is one level deeper than its operands. -/
theorem depth_eq (expression : Expression) :
    expression.depth = 1 + depthAll expression.operands := by
  cases expression <;> simp [depth, operands, depthAll]

/-- Every expression has a level. -/
theorem depth_pos (expression : Expression) : 0 < expression.depth := by
  rw [depth_eq]
  omega

/-- An operand is no deeper than the deepest of the operands. -/
theorem depth_le_depthAll {operand : Expression} {operands : List Expression}
    (member : operand ∈ operands) : operand.depth ≤ depthAll operands := by
  induction operands with
  | nil => cases member
  | cons head tail inductionHypothesis =>
    rw [depthAll]
    rcases List.mem_cons.mp member with rfl | member
    · exact Nat.le_max_left _ _
    · exact Nat.le_trans (inductionHypothesis member) (Nat.le_max_right _ _)

/-- An operand has fewer levels than the expression. -/
theorem depth_lt_of_mem_operands {operand : Expression} (member : operand ∈ expression.operands) :
    operand.depth < expression.depth := by
  have bounded := depth_le_depthAll member
  rw [depth_eq expression]
  omega

/-- First the expression is changed, and then the operands that it has after that. -/
theorem changeEach?_succ (change : Change σ) (levels : Nat) (state : σ) (expression : Expression) :
    changeEach? change (levels + 1) state expression =
      (changeList? (changeEach? change levels) (change state expression).2
        (change state expression).1.operands).map fun rest =>
          ((change state expression).1.withOperands rest.1, rest.2) := by
  rw [changeEach?]
  rcases change state expression with ⟨changed, after⟩
  cases changed with
  | nested operator operands mustNot => rfl
  | search parts => rfl

/-- The operands are changed from the left. -/
theorem changeList?_cons (changeOne? : σ → Expression → Option (Expression × σ)) (state : σ)
    (head : Expression) (tail : List Expression) :
    changeList? changeOne? state (head :: tail) =
      (changeOne? state head).bind fun first =>
        (changeList? changeOne? first.2 tail).map fun rest => (first.1 :: rest.1, rest.2) := by
  rw [changeList?]
  cases changeOne? state head with
  | none => rfl
  | some first =>
    rw [Option.bind_some]
    dsimp only
    cases changeList? changeOne? first.2 tail with
    | none => rfl
    | some rest => rfl

/-! ### Noting the calls -/

/-- The state of a change, and the calls that were noted: each with the state in which it was made. -/
abbrev Memory (σ : Type) := σ × List (σ × Expression)

/-- The change that also notes, behind what it has noted before, that it is called. -/
def recording (change : Change σ) : Change (Memory σ) := fun memory expression =>
  ((change memory.1 expression).1,
    (change memory.1 expression).2, memory.2 ++ [(memory.1, expression)])

/-- The calls of a change that is given expressions one after the other, with the states it is called
in. -/
def callsOn (change : Change σ) : σ → List Expression → List (σ × Expression)
  | _, [] => []
  | state, head :: tail => (state, head) :: callsOn change (change state head).2 tail

/-- The state after a change was given expressions one after the other. -/
def stateAfter (change : Change σ) (state : σ) (expressions : List Expression) : σ :=
  expressions.foldl (fun state expression => (change state expression).2) state

/-- In this call, the change leaves the operands as they are. -/
def KeepsOperands (change : Change σ) (call : σ × Expression) : Prop :=
  (change call.1 call.2).1.operands = call.2.operands

/-- Recording the calls of a change does not make it touch the operands. -/
theorem KeepsOperands.operands_recording (kept : KeepsOperands change (state, expression))
    (noted : List (σ × Expression)) :
    (recording change (state, noted) expression).1.operands = expression.operands :=
  kept

/-- The calls are made on the expressions, one for each and in their order. -/
theorem map_snd_callsOn (change : Change σ) (state : σ) (expressions : List Expression) :
    (callsOn change state expressions).map Prod.snd = expressions := by
  induction expressions generalizing state with
  | nil => rfl
  | cons head tail inductionHypothesis => rw [callsOn, List.map_cons, inductionHypothesis]

/-- The calls on a longer list are those on its front, and behind them those on its back. -/
theorem callsOn_append (change : Change σ) (state : σ) (front back : List Expression) :
    callsOn change state (front ++ back) =
      callsOn change state front ++ callsOn change (stateAfter change state front) back := by
  induction front generalizing state with
  | nil => rfl
  | cons head tail inductionHypothesis =>
    rw [List.cons_append, callsOn, callsOn, inductionHypothesis, List.cons_append]
    rfl

/-- The state after a longer list is that after its back, from where its front ended. -/
theorem stateAfter_append (change : Change σ) (state : σ) (front back : List Expression) :
    stateAfter change state (front ++ back) =
      stateAfter change (stateAfter change state front) back :=
  List.foldl_append

/-- Operands that are changed alike one by one, with a note of the calls and without one, are changed
alike all together. -/
theorem changeList?_eq_noting {changeOne? : σ → Expression → Option (Expression × σ)}
    {noting? : Memory σ → Expression → Option (Expression × Memory σ)}
    (alike : ∀ state noted expression, changeOne? state expression =
      (noting? (state, noted) expression).map fun outcome => (outcome.1, outcome.2.1))
    (state : σ) (noted : List (σ × Expression)) (operands : List Expression) :
    changeList? changeOne? state operands =
      (changeList? noting? (state, noted) operands).map fun outcome => (outcome.1, outcome.2.1) := by
  induction operands generalizing state noted with
  | nil => rfl
  | cons head tail inductionHypothesis =>
    rw [changeList?_cons, changeList?_cons, alike state noted head]
    cases noting? (state, noted) head with
    | none => rfl
    | some first =>
      simp only [Option.map_some, Option.bind_some, inductionHypothesis first.2.1 first.2.2,
        Option.map_map]
      rfl

/-- Noting the calls makes no difference to what is changed. -/
theorem changeEach?_eq_recording (change : Change σ) (levels : Nat) (state : σ)
    (noted : List (σ × Expression)) (expression : Expression) :
    changeEach? change levels state expression =
      (changeEach? (recording change) levels (state, noted) expression).map fun outcome =>
        (outcome.1, outcome.2.1) := by
  induction levels generalizing state noted expression with
  | zero => rfl
  | succ levels inductionHypothesis =>
    rw [changeEach?_succ, changeEach?_succ,
      changeList?_eq_noting inductionHypothesis _ (noted ++ [(state, expression)]), Option.map_map,
      Option.map_map]
    rfl

variable {α : Type} {changeOne? : Memory σ → Expression → Option (Expression × Memory σ)}
  {operands : List Expression}

/-- Where the change keeps the operands of the expressions in order, the run on a subject comes to its
end and notes just the calls for them. -/
def VisitsAll (change : Change σ) (expressions : List Expression)
    (run : Memory σ → α → Option (α × Memory σ)) (subject : α) : Prop :=
  ∀ state noted, (∀ call ∈ callsOn change state expressions, KeepsOperands change call) →
    ∃ result, run (state, noted) subject =
      some (result, stateAfter change state expressions, noted ++ callsOn change state expressions)

/-- Where the change kept the operands in all the calls that the run on a subject noted up to its end,
these are the calls for the expressions in order. -/
def VisitsOnly (change : Change σ) (expressions : List Expression)
    (run : Memory σ → α → Option (α × Memory σ)) (subject : α) : Prop :=
  ∀ state noted result final noted', run (state, noted) subject = some (result, final, noted') →
    ∃ calls, noted' = noted ++ calls ∧
      ((∀ call ∈ calls, KeepsOperands change call) →
        calls = callsOn change state expressions ∧ final = stateAfter change state expressions)

/-- If each operand is walked through in full, so is the list of the operands. -/
theorem visitsAll_operands
    (each : ∀ operand ∈ operands, VisitsAll change operand.preorder changeOne? operand) :
    VisitsAll change (preorderAll operands) (changeList? changeOne?) operands := by
  induction operands with
  | nil =>
    intro state noted _
    exact ⟨[], by simp [changeList?, preorderAll, stateAfter, callsOn]⟩
  | cons head tail inductionHypothesis =>
    obtain ⟨first, others⟩ := List.forall_mem_cons.mp each
    intro state noted kept
    rw [preorderAll, callsOn_append, List.forall_mem_append] at kept
    obtain ⟨changed, headRuns⟩ := first state noted kept.1
    obtain ⟨rest, tailRuns⟩ := inductionHypothesis others _
      (noted ++ callsOn change state head.preorder) kept.2
    refine ⟨changed :: rest, ?_⟩
    rw [changeList?_cons, headRuns, Option.bind_some, tailRuns, Option.map_some, preorderAll,
      stateAfter_append, callsOn_append, List.append_assoc]

/-- If nothing but each operand is called on, nothing but the list of the operands is. -/
theorem visitsOnly_operands
    (each : ∀ operand ∈ operands, VisitsOnly change operand.preorder changeOne? operand) :
    VisitsOnly change (preorderAll operands) (changeList? changeOne?) operands := by
  induction operands with
  | nil =>
    intro state noted results final noted' ended
    obtain ⟨rfl, rfl, rfl⟩ : [] = results ∧ state = final ∧ noted = noted' := by
      simpa [changeList?] using ended
    exact ⟨[], (List.append_nil noted).symm, fun _ => ⟨rfl, rfl⟩⟩
  | cons head tail inductionHypothesis =>
    obtain ⟨first, others⟩ := List.forall_mem_cons.mp each
    intro state noted results final noted' ended
    rw [changeList?_cons] at ended
    obtain ⟨⟨changed, after, notedAfter⟩, headEnded, rest⟩ := Option.bind_eq_some_iff.mp ended
    obtain ⟨⟨rests, final', noted''⟩, tailEnded, same⟩ := Option.map_eq_some_iff.mp rest
    obtain ⟨rfl, rfl, rfl⟩ : changed :: rests = results ∧ final' = final ∧ noted'' = noted' := by
      simpa using same
    obtain ⟨headCalls, rfl, headInOrder⟩ := first _ _ _ _ _ headEnded
    obtain ⟨tailCalls, rfl, tailInOrder⟩ := inductionHypothesis others _ _ _ _ _ tailEnded
    refine ⟨headCalls ++ tailCalls, List.append_assoc _ _ _, fun kept => ?_⟩
    obtain ⟨headKept, tailKept⟩ := List.forall_mem_append.mp kept
    obtain ⟨rfl, rfl⟩ := headInOrder headKept
    obtain ⟨rfl, rfl⟩ := tailInOrder tailKept
    rw [preorderAll, callsOn_append, stateAfter_append]
    exact ⟨rfl, rfl⟩

/-- With enough levels, everything in the expression is visited in order. -/
theorem visitsAll_changeEach? (enough : expression.depth ≤ levels) :
    VisitsAll change expression.preorder
      (changeEach? (recording change) levels) expression := by
  induction levels generalizing expression with
  | zero => exact absurd enough (Nat.not_le_of_lt expression.depth_pos)
  | succ levels inductionHypothesis =>
    intro state noted kept
    rw [preorder_eq, callsOn, List.forall_mem_cons] at kept
    obtain ⟨headKept, behind⟩ := kept
    have below : ∀ operand ∈ expression.operands, operand.depth ≤ levels := fun operand member =>
      Nat.le_of_lt_succ (Nat.lt_of_lt_of_le (depth_lt_of_mem_operands member) enough)
    obtain ⟨results, runs⟩ := visitsAll_operands
      (fun operand member => inductionHypothesis (below operand member))
      (change state expression).2 (noted ++ [(state, expression)]) behind
    rw [changeEach?_succ, headKept.operands_recording, recording, runs, Option.map_some, preorder_eq, callsOn]
    exact ⟨_, by rw [List.append_assoc]; rfl⟩

/-- With any number of levels, nothing is visited out of order. -/
theorem visitsOnly_changeEach? (change : Change σ) (levels : Nat) (expression : Expression) :
    VisitsOnly change expression.preorder
      (changeEach? (recording change) levels) expression := by
  induction levels generalizing expression with
  | zero =>
    intro state noted result final noted' ended
    cases ended
  | succ levels inductionHypothesis =>
    intro state noted result final noted' ended
    rw [changeEach?_succ] at ended
    obtain ⟨⟨results, final', noted''⟩, operandsEnded, same⟩ := Option.map_eq_some_iff.mp ended
    obtain ⟨rfl, rfl, rfl⟩ : _ = result ∧ final' = final ∧ noted'' = noted' := by
      simpa using same
    obtain ⟨calls, rfl, inOrder⟩ := visitsOnly_operands
      (fun operand _ => inductionHypothesis operand) _ _ _ _ _ operandsEnded
    refine ⟨(state, expression) :: calls, by simp, fun kept => ?_⟩
    obtain ⟨headKept, behind⟩ := List.forall_mem_cons.mp kept
    obtain ⟨rfl, rfl⟩ := inOrder behind
    rw [headKept.operands_recording, preorder_eq, callsOn]
    exact ⟨rfl, rfl⟩

/-- A walk sees all of an expression, place by place and each place once, an expression before its
operands and the operands from the left. A change that leaves the operands as they are, when it is called
for what the walk sees, comes to its end and is called for just that, in the same order. Whenever a change
comes to its end and has left the operands as they are in all its calls, the calls were these.

Proof: the stack of the walk holds what is still to come in this order. For a change, one induction on its
levels says that it visits all places, and another one that it visits nothing else. -/
theorem walks_agree (expression : Expression) :
    (expression.toList = expression.preorder ∧
      expression.toList.map some = expression.places.map expression.at? ∧
      expression.places.Pairwise (List.Lex (· < ·)) ∧
      ∀ place, place ∈ expression.places ↔ (expression.at? place).isSome = true) ∧
    ∀ {σ : Type} (change : Change σ) (state : σ) (levels : Nat),
      (expression.depth ≤ levels →
        (∀ call ∈ callsOn change state expression.toList, KeepsOperands change call) →
          ∃ result final calls,
            changeEach? change levels state expression = some (result, final) ∧
            changeEach? (recording change) levels (state, []) expression =
              some (result, final, calls) ∧
            calls.map Prod.snd = expression.toList) ∧
      ∀ result final calls,
        changeEach? (recording change) levels (state, []) expression =
            some (result, final, calls) →
          (∀ call ∈ calls, KeepsOperands change call) → calls.map Prod.snd = expression.toList := by
  rw [toList_eq_preorder]
  refine ⟨⟨rfl, (map_at?_places expression).symm, places_increasing expression,
    fun _ => mem_places⟩, fun change state levels => ⟨?_, ?_⟩⟩
  · intro enough kept
    obtain ⟨result, runs⟩ := visitsAll_changeEach? enough state [] kept
    refine ⟨result, _, _, ?_, runs, ?_⟩
    · rw [changeEach?_eq_recording change levels state [], runs, Option.map_some]
    · rw [List.nil_append, map_snd_callsOn]
  · intro result final calls ended kept
    obtain ⟨_, rfl, inOrder⟩ := visitsOnly_changeEach? change levels expression _ _ _ _ _ ended
    rw [(inOrder kept).1, map_snd_callsOn]

/-- The counter goes through a group before it comes to the operand behind it, and equal searches are
visited each in its turn. -/
theorem walks_agree_numbering :
    let expression : Expression :=
      .nested .or [.nested .and [ofTerm "a", ofTerm "a"] true, ofTerm "b"] false
    (∀ call ∈ callsOn (numbering "x") 0 expression.toList, KeepsOperands (numbering "x") call) ∧
      ∃ result final calls,
        changeEach? (numbering "x") expression.depth 0 expression = some (result, final) ∧
        changeEach? (recording (numbering "x")) expression.depth (0, []) expression =
          some (result, final, calls) ∧
        calls.map Prod.snd = expression.toList := by
  intro expression
  have kept : ∀ call ∈ callsOn (numbering "x") 0 expression.toList,
      KeepsOperands (numbering "x") call := by
    rintro ⟨count, visited⟩ _
    cases visited with
    | nested operator operands mustNot => rfl
    | search parts => rfl
  exact ⟨kept, ((walks_agree expression).2 (numbering "x") 0 expression.depth).1 (Nat.le_refl _) kept⟩

end ContextualQuery.Expression
