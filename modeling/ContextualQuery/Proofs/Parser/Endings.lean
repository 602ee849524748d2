import ContextualQuery.Proofs.Parser.Soundness

/-!
# The recursion of the grammar ends

A query is read with a bound on the depth of its groups, and the links of a chain with a bound on their
number. Neither bound is met as long as it exceeds the number of tokens that remain: a group is read
behind the parenthesis that opens it, and every link reads a token. So the bounds can be forgotten.
`unbounded` reads a query with a bound that follows from the state; it is a solution of the recursion
through groups, and it has an end in every state.

The rules compare two productions in a state. That they end, and that they end alike, go through the
grammar in the same way, so one set of rules serves for both.
-/

namespace ContextualQuery

/-- As many tokens are left over as were not read. -/
theorem ParserState.Moves.length_remaining {words : List Token} {state after : ParserState}
    (moves : Moves words state after) :
    state.remaining.length = words.length + after.remaining.length := by
  rw [moves.remaining_eq, List.length_append]

/-- A next token with a text is the token with that text. -/
theorem ParserState.head?_of_any {state : ParserState} {text : String}
    (seen : state.remaining.head?.any (·.text == text) = true) :
    state.remaining.head? = some ⟨text⟩ := by
  cases first : state.remaining.head? with
  | none => simp [first] at seen
  | some token =>
    obtain rfl : token.text = text := by simpa [first] using seen
    rfl

namespace Production

open ParserState

variable {α β : Type} {state : ParserState}

/-- The production does not run out of steps in the state. -/
def Concludes (production : Production α) (state : ParserState) : Prop :=
  (production state).1 ≠ .unfinished

/-- The first production does not run out of steps in the state, and the second one ends like it. -/
structure EndAlike (first second : Production α) (state : ParserState) : Prop where
  concludes : Concludes first state
  same : first state = second state

namespace EndAlike

/-- Giving a value ends, and in one way only. -/
theorem pure (value : α) (state : ParserState) :
    EndAlike (Pure.pure value : Production α) (Pure.pure value) state :=
  ⟨nofun, rfl⟩

/-- Failing ends, and in one way only. -/
theorem fail (state : ParserState) : EndAlike (fail : Production α) Production.fail state :=
  ⟨nofun, rfl⟩

/-- Rejecting ends, and in one way only. -/
theorem reject (feature : Feature) (token : Token) (state : ParserState) :
    EndAlike (reject feature token : Production α) (Production.reject feature token) state :=
  ⟨nofun, rfl⟩

/-- Looking at a token ends, and in one way only. -/
theorem peek (state : ParserState) : EndAlike peek Production.peek state := ⟨nofun, rfl⟩

/-- Taking a token ends, and in one way only. -/
theorem next (state : ParserState) : EndAlike next Production.next state := ⟨nofun, rfl⟩

/-- Comparing the next token ends, and in one way only. -/
theorem sees (text : String) (state : ParserState) :
    EndAlike (sees text) (Production.sees text) state :=
  ⟨nofun, rfl⟩

/-- Recording a chain ends, and in one way only. -/
theorem recordChain (size : Tree.ChainSize) (state : ParserState) :
    EndAlike (recordChain size) (Production.recordChain size) state :=
  ⟨nofun, rfl⟩

/-- The second parts are compared only where the first ones end. -/
theorem bind {first first' : Production α} {second second' : α → Production β}
    (alike : EndAlike first first' state)
    (alikeBehind : ∀ via middle, first state = (.matched via, middle) →
      EndAlike (second via) (second' via) middle) :
    EndAlike (first >>= second) (first' >>= second') state := by
  obtain ⟨concludes, same⟩ := alike
  cases firstEnd : first state with
  | mk attempt middle =>
    have firstEnd' : first' state = (attempt, middle) := same.symm.trans firstEnd
    cases attempt with
    | matched via =>
      have behind := alikeBehind via middle firstEnd
      refine ⟨?_, ?_⟩
      · rw [Concludes, bind_matched firstEnd]
        exact behind.concludes
      · rw [bind_matched firstEnd, bind_matched firstEnd']
        exact behind.same
    | mismatch | rejected rejection =>
      refine ⟨?_, ?_⟩ <;> simp [Concludes, bind_apply, andThen, firstEnd, firstEnd']
    | unfinished => exact absurd (congrArg Prod.fst firstEnd) concludes

/-- Productions that end alike still do so when their values are changed. -/
theorem map {first second : Production α} (change : α → β) (alike : EndAlike first second state) :
    EndAlike (change <$> first) (change <$> second) state :=
  bind alike fun _ _ _ => pure _ _

/-- Expecting a text ends, and in one way only. -/
theorem expect (text : String) (state : ParserState) :
    EndAlike (expect text) (Production.expect text) state := by
  refine bind (next state) fun token? middle _ => ?_
  split
  · exact pure _ _
  · exact fail _

/-- Productions that end alike from a bookmark do so with the bookmark closed. -/
theorem bookmarked {first second : Production α} (alike : EndAlike first second state.marked) :
    EndAlike (bookmarked first) (Production.bookmarked second) state := by
  obtain ⟨concludes, same⟩ := alike
  have same' : second { state with cursor := state.cursor.bookmark } =
      first { state with cursor := state.cursor.bookmark } := same.symm
  refine ⟨?_, ?_⟩
  · rw [Concludes, Production.bookmarked]
    split <;> simp_all [Concludes, marked]
  · rw [Production.bookmarked, Production.bookmarked, same']

/-- Alternatives end alike if the first ones do, and the second ones wherever the first do not
match. -/
theorem orElse {first first' second second' : Production α} (alike : EndAlike first first' state)
    (alikeBehind : ∀ middle, first state = (.mismatch, middle) → EndAlike second second' middle) :
    EndAlike (orElse first second) (Production.orElse first' second') state := by
  obtain ⟨concludes, same⟩ := alike
  cases firstEnd : first state with
  | mk attempt middle =>
    have firstEnd' : first' state = (attempt, middle) := same.symm.trans firstEnd
    cases attempt with
    | mismatch =>
      obtain ⟨concludesBehind, sameBehind⟩ := alikeBehind middle firstEnd
      refine ⟨?_, ?_⟩
      · simpa [Concludes, Production.orElse, firstEnd] using concludesBehind
      · simpa [Production.orElse, firstEnd, firstEnd'] using sameBehind
    | matched value | rejected rejection =>
      refine ⟨?_, ?_⟩ <;> simp [Concludes, Production.orElse, firstEnd, firstEnd']
    | unfinished => exact absurd (congrArg Prod.fst firstEnd) concludes

/-- Productions with steps end alike if they do so with the steps that are given to them. -/
theorem withSteps {first second : Nat → Production α}
    (alike : EndAlike (first (state.cursor.size + 1)) (second (state.cursor.size + 1)) state) :
    EndAlike (withSteps first) (Production.withSteps second) state :=
  ⟨alike.concludes, alike.same⟩

/-- Behind a test of the next token, the token is known if the test succeeds. -/
theorem ofSees {body body' : Bool → Production α} {text : String}
    (alike : ∀ seen, (seen = true → state.remaining.head? = some ⟨text⟩) →
      EndAlike (body seen) (body' seen) state.looked) :
    EndAlike (Production.sees text >>= body) (Production.sees text >>= body') state := by
  refine bind (sees text state) fun seen middle matched => ?_
  rw [sees_eq] at matched
  obtain ⟨rfl, rfl⟩ : state.remaining.head?.any (·.text == text) = seen ∧ state.looked = middle := by
    simpa using matched
  exact alike _ head?_of_any

/-- Productions that end alike do so where they may as well not match. -/
theorem optional {first second : Production α} (alike : EndAlike first second state) :
    EndAlike (optional first) (Production.optional second) state :=
  orElse (map some alike) fun _ _ => pure _ _

end EndAlike

end Production

namespace Grammar

open Production ParserState

variable {options : Options}

/-! ### Productions without recursion -/

/-- Reading a term ends. -/
theorem endAlike_term (state : ParserState) : EndAlike term term state := by
  refine .bind (.peek state) fun token? middle _ => ?_
  split
  · exact .fail _
  · split
    · exact .fail _
    · exact .bind (.next _) fun _ _ _ => .pure _ _

/-- Reading a modifier ends. -/
theorem endAlike_modifier (state : ParserState) :
    EndAlike (modifier options) (modifier options) state := by
  refine .bind (.expect _ state) fun _ _ _ => .bind (.peek _) fun token? middle _ => ?_
  split
  · exact .fail _
  · split
    · exact .fail _
    · split
      · exact .reject _ _ _
      · split
        · exact .reject _ _ _
        · refine .bind (.next _) fun _ _ _ => .bind (.expect _ _) fun _ _ _ =>
            .bind (endAlike_term _) fun value after _ => ?_
          split
          · exact .pure _ _
          · exact .fail _

/-- Reading a list of modifiers ends. -/
theorem endAlike_modifierList (state : ParserState) :
    EndAlike (modifierList options) (modifierList options) state := by
  refine .bind (endAlike_modifier state) fun only _ _ => .bind (.sees _ _) fun seen _ _ => ?_
  split
  · exact .reject _ _ _
  · exact .pure _ _

/-- Reading a comparitor ends. -/
theorem endAlike_comparitor (state : ParserState) :
    EndAlike (comparitor options) (comparitor options) state := by
  refine .bind (.peek state) fun token? middle _ => ?_
  split
  · exact .fail _
  · split
    · exact .fail _
    · split
      · exact .reject _ _ _
      · exact .bind (.next _) fun _ _ _ => .pure _ _

/-- Reading a relation ends. -/
theorem endAlike_relation (state : ParserState) :
    EndAlike (relation options) (relation options) state := by
  refine .bind (endAlike_comparitor state) fun comparitor _ _ => .bind (.sees _ _) fun seen _ _ => ?_
  split
  · exact .bind (endAlike_modifierList _) fun _ _ _ => .pure _ _
  · exact .pure _ _

/-- Reading a boolean ends. -/
theorem endAlike_boolean (state : ParserState) : EndAlike boolean boolean state := by
  refine .bind (.peek state) fun token? middle _ => ?_
  split
  · exact .fail _
  · dsimp only
    split
    · exact .reject _ _ _
    · split
      · exact .bind (.next _) fun _ _ _ => .pure _ _
      · exact .fail _

/-- Reading a boolean with its modifiers ends. -/
theorem endAlike_booleanGroup (state : ParserState) :
    EndAlike booleanGroup booleanGroup state := by
  refine .bind (endAlike_boolean state) fun operator _ _ => .bind (.sees _ _) fun seen _ _ => ?_
  split
  · exact .reject _ _ _
  · exact .pure _ _

/-- Reading a clause with an index ends. -/
theorem endAlike_indexedClause (state : ParserState) :
    EndAlike (indexedClause options) (indexedClause options) state :=
  .bind (.map _ (endAlike_term state)) fun _ _ _ => .bind (endAlike_relation _) fun _ _ _ =>
    .bind (.map _ (endAlike_term _)) fun _ _ _ => .pure _ _

/-- Reading an assignment in front of a query ends. -/
theorem endAlike_prefixAssignment (state : ParserState) :
    EndAlike prefixAssignment prefixAssignment state := by
  refine .bind (.next state) fun mark? _ _ => ?_
  split
  · exact .fail _
  · exact .bind (endAlike_term _) fun _ _ _ => .reject _ _ _

/-! ### Groups and chains -/

variable {inner inner' clause clause' : Production Tree} {state : ParserState}

/-- The query of a group is read where at least the parenthesis that opens the group was left behind. -/
theorem endAlike_group
    (alike : ∀ later, later.remaining.length < state.remaining.length → EndAlike inner inner' later)
    (opened : state.remaining.head? = some ⟨"("⟩) :
    EndAlike (group inner) (group inner') state := by
  obtain ⟨rest, split⟩ := List.head?_eq_some_iff.mp opened
  refine .bind (.next state) fun first middle stepped => ?_
  rw [next_of_cons split] at stepped
  obtain rfl : state.stepped = middle := congrArg Prod.snd stepped
  have fewer := (moves_stepped split).length_remaining
  rw [List.length_singleton] at fewer
  exact .bind (alike _ (by omega)) fun _ _ _ => .bind (.expect _ _) fun _ _ _ => .pure _ _

/-- Search clauses end alike if the queries in their groups do, for which fewer tokens remain. -/
theorem endAlike_searchClause
    (alike : ∀ later, later.remaining.length < state.remaining.length → EndAlike inner inner' later) :
    EndAlike (searchClause options inner) (searchClause options inner') state := by
  refine .ofSees fun seen opened => ?_
  split
  case isTrue isSeen => exact .bookmarked (endAlike_group alike (opened isSeen))
  case isFalse =>
    exact .orElse (.bookmarked (endAlike_indexedClause _)) fun middle _ =>
      .map _ (.map _ (endAlike_term middle))

/-- The clause of a link is read behind its boolean. -/
theorem endAlike_link
    (alike : ∀ later, later.remaining.length ≤ state.remaining.length → EndAlike clause clause' later) :
    EndAlike (link clause) (link clause') state := by
  refine .bind (endAlike_booleanGroup state) fun operator middle matched => ?_
  obtain ⟨words, moves, -⟩ := (reads_booleanGroup state).matched matched
  have fewer := moves.length_remaining
  exact .bind (alike middle (by omega)) fun _ _ _ => .pure _ _

/-- Every link that is read leaves fewer tokens, so the steps are more than the links. -/
theorem endAlike_links (readsClause : ∀ state, Reads clause state (DerivesClause options))
    (alike : ∀ later, later.remaining.length ≤ state.remaining.length → EndAlike clause clause' later)
    {steps steps' : Nat} (enough : state.remaining.length < steps)
    (enough' : state.remaining.length < steps') :
    EndAlike (links clause steps) (links clause' steps') state := by
  induction steps generalizing steps' state with
  | zero => exact absurd enough (Nat.not_lt_zero _)
  | succ steps inductionHypothesis =>
    obtain ⟨steps', rfl⟩ := Nat.exists_eq_succ_of_ne_zero (Nat.ne_zero_of_lt enough')
    refine .bind (.optional (.bookmarked (endAlike_link alike))) fun first? middle matched => ?_
    obtain ⟨words, moves, read⟩ := (Reads.optional (reads_link readsClause _)).matched matched
    obtain ⟨rfl, rfl⟩ | ⟨first, rfl, back, -, -, rfl, trees⟩ := read
    · exact .pure _ _
    · have fewer := moves.length_remaining
      have nonempty := Clause.length_le_linkTokens back
      have one : back.length = 1 := by
        simpa [Clause.linkTrees_eq_map] using congrArg List.length trees
      refine .bind (inductionHypothesis (fun later less => alike later (by omega)) (by omega)
        (by omega)) fun _ _ _ => .pure _ _

/-- Scoped clauses end alike if their clauses do, for which no more tokens remain. -/
theorem endAlike_scopedClause (readsClause : ∀ state, Reads clause state (DerivesClause options))
    (alike : ∀ later, later.remaining.length ≤ state.remaining.length → EndAlike clause clause' later) :
    EndAlike (scopedClause clause) (scopedClause clause') state := by
  refine .bind (alike state (Nat.le_refl _)) fun head middle matched => ?_
  obtain ⟨words, moves, -⟩ := (readsClause state).matched matched
  have fewer := moves.length_remaining
  have enough : middle.remaining.length < middle.cursor.size + 1 :=
    Nat.lt_succ_of_le (length_remaining_le middle)
  have linksAlike := endAlike_links readsClause (fun later less => alike later (by omega)) enough enough
  refine .bind (.withSteps linksAlike) fun following _ _ => ?_
  split
  · exact .bind (.recordChain _ _) fun _ _ _ => .pure _ _
  · exact .pure _ _

/-- Queries end alike if their clauses do, for which no more tokens remain. -/
theorem endAlike_cqlQuery (readsClause : ∀ state, Reads clause state (DerivesClause options))
    (alike : ∀ later, later.remaining.length ≤ state.remaining.length → EndAlike clause clause' later) :
    EndAlike (cqlQuery clause) (cqlQuery clause') state := by
  refine .ofSees fun seen _ => ?_
  split
  · exact .bookmarked (endAlike_prefixAssignment _)
  · exact .map _ (endAlike_scopedClause readsClause alike)

/-- The depth of groups is no bound where it exceeds the number of tokens that remain. -/
theorem endAlike_query {depth depth' : Nat} (enough : state.remaining.length < depth)
    (enough' : state.remaining.length < depth') :
    EndAlike (query options depth) (query options depth') state := by
  induction depth generalizing depth' state with
  | zero => exact absurd enough (Nat.not_lt_zero _)
  | succ depth inductionHypothesis =>
    obtain ⟨depth', rfl⟩ := Nat.exists_eq_succ_of_ne_zero (Nat.ne_zero_of_lt enough')
    refine endAlike_cqlQuery (reads_searchClause (reads_query depth)) fun later less => ?_
    refine endAlike_searchClause fun within fewer => ?_
    exact inductionHypothesis (by omega) (by omega)

/-! ### The query without a bound -/

/-- A query, with groups nested as deep as the tokens that remain allow. -/
def unbounded (options : Options) : Production Tree := fun state =>
  query options (state.remaining.length + 1) state

/-- A query without a bound is one that may nest one group more than there are tokens left. -/
theorem unbounded_apply (options : Options) (state : ParserState) :
    unbounded options state = query options (state.remaining.length + 1) state := rfl

/-- A query without a bound reads the tokens of a query. -/
theorem reads_unbounded (state : ParserState) :
    Reads (unbounded options) state (DerivesChain options) := by
  have reads : Reads (query options (state.remaining.length + 1)) state (DerivesChain options) :=
    reads_query _ state
  obtain ⟨matched, mismatch⟩ := reads
  rw [← unbounded_apply] at matched mismatch
  exact ⟨matched, mismatch⟩

/-- Every depth that exceeds the number of tokens that remain gives the same end. -/
theorem endAlike_unbounded {depth : Nat} (enough : state.remaining.length < depth) :
    EndAlike (query options depth) (unbounded options) state := by
  obtain ⟨concludes, same⟩ := endAlike_query enough (Nat.lt_succ_self state.remaining.length)
  rw [← unbounded_apply] at same
  exact ⟨concludes, same⟩

/-- A query without a bound ends. -/
theorem concludes_unbounded (options : Options) (state : ParserState) :
    Concludes (unbounded options) state := by
  have alike : EndAlike (query options (state.remaining.length + 1)) (unbounded options) state :=
    endAlike_unbounded (Nat.lt_succ_self _)
  rw [Concludes, ← alike.same]
  exact alike.concludes

/-- A search clause whose groups hold queries without a bound. -/
def unboundedClause (options : Options) : Production Tree := searchClause options (unbounded options)

/-- A clause without a bound reads the tokens of a clause. -/
theorem reads_unboundedClause (state : ParserState) :
    Reads (unboundedClause options) state (DerivesClause options) :=
  reads_searchClause reads_unbounded state

/-- The query without a bound is a chain of clauses without a bound. -/
theorem unbounded_eq (options : Options) : unbounded options = cqlQuery (unboundedClause options) := by
  funext state
  refine (endAlike_cqlQuery (reads_searchClause (reads_query _)) fun later less => ?_).same
  exact endAlike_searchClause fun within fewer => endAlike_unbounded (by omega)

/-- A clause without a bound ends. -/
theorem endAlike_unboundedClause (state : ParserState) :
    EndAlike (unboundedClause options) (unboundedClause options) state :=
  endAlike_searchClause fun later _ => ⟨concludes_unbounded options later, rfl⟩

end Grammar

end ContextualQuery
