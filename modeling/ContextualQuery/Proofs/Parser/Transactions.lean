import ContextualQuery.Proofs.Parser.Completeness
import ContextualQuery.Proofs.Parser.Endings

/-!
# Productions are transactions

The clauses, the queries, the booleans and the terms of the grammar either read tokens or leave no
trace: a match moves the cursor on, a mismatch leaves it where it was, and both leave the bookmarks
as they were. The productions inside them are no transactions; a relation, for instance, can read a
comparitor and not match behind it. They are tried from a bookmark, or behind them nothing can fail
to match any more.

So a bookmark is always there when it is dropped or returned to. `guarded` checks that it is, and the
grammar with all its bookmarks checked, `queryWith guarded`, reads as the grammar itself does.
-/

namespace ContextualQuery

namespace Production

open ParserState

variable {α β : Type} {state : ParserState}

/-- A match moves the cursor on and a mismatch leaves it where it was. Neither changes the
bookmarks. -/
structure Transacts (production : Production α) (state : ParserState) : Prop where
  matched : ∀ {value after}, production state = (.matched value, after) →
    state.cursor.position < after.cursor.position ∧
      after.cursor.bookmarks = state.cursor.bookmarks
  mismatch : ∀ {after}, production state = (.mismatch, after) →
    after.cursor.position = state.cursor.position ∧
      after.cursor.bookmarks = state.cursor.bookmarks

/-- A mismatch reads nothing. -/
def Stays (production : Production α) (state : ParserState) : Prop :=
  ∀ after, production state = (.mismatch, after) → Moves [] state after

/-- There is no mismatch. -/
def Commits (production : Production α) (state : ParserState) : Prop :=
  ∀ after, production state ≠ (.mismatch, after)

/-- A production reads what it reads when its value is changed. -/
theorem Reads.of_map {production : Production α} {change : α → β} {Good : List Token → β → Prop}
    (reads : Reads (change <$> production) state Good) :
    Reads production state fun words value => Good words (change value) where
  matched := fun ended => reads.matched (bind_matched ended)
  mismatch := fun ended => reads.mismatch (bind_eq_mismatch.mpr (.inl ended))

/-- A production that reads at least one word and does not read in vain is a transaction. -/
theorem Reads.transacts {production : Production α} {Good : List Token → α → Prop}
    (reads : Reads production state Good) (nonempty : ∀ words value, Good words value → words ≠ [])
    (stays : Stays production state) : Transacts production state where
  matched := by
    intro value after ended
    obtain ⟨words, moves, good⟩ := reads.matched ended
    have positive := List.length_pos_iff.mpr (nonempty words value good)
    have position := moves.position
    exact ⟨by omega, moves.bookmarks⟩
  mismatch := by
    intro after ended
    have moves := stays after ended
    exact ⟨moves.position, moves.bookmarks⟩

/-! ### Without a mismatch -/

namespace Commits

/-- Giving a value is no mismatch. -/
theorem pure (value : α) (state : ParserState) : Commits (Pure.pure value : Production α) state :=
  fun _ => nofun

/-- A rejection is no mismatch. -/
theorem reject (feature : Feature) (token : Token) (state : ParserState) :
    Commits (reject feature token : Production α) state :=
  fun _ => nofun

/-- Taking a token is no mismatch, even at the end. -/
theorem next (state : ParserState) : Commits next state := fun _ => nofun

/-- Comparing the next token is no mismatch, whatever the result. -/
theorem sees (text : String) (state : ParserState) : Commits (sees text) state :=
  fun _ => nofun

/-- Recording a chain is no mismatch. -/
theorem recordChain (size : Tree.ChainSize) (state : ParserState) :
    Commits (recordChain size) state :=
  fun _ => nofun

/-- A sequence of parts that never miss never misses. -/
theorem bind {first : Production α} {second : α → Production β} (commits : Commits first state)
    (commitsBehind : ∀ via middle, Commits (second via) middle) :
    Commits (first >>= second) state := by
  intro after ended
  rcases bind_eq_mismatch.mp ended with firstEnd | ⟨via, middle, -, secondEnd⟩
  · exact commits after firstEnd
  · exact commitsBehind via middle after secondEnd

/-- If a production never misses with any number of steps, it never misses with those it is
given. -/
theorem withSteps {production : Nat → Production α}
    (commits : ∀ steps, Commits (production steps) state) : Commits (withSteps production) state :=
  fun after => commits _ after

/-- What may as well not match never misses. -/
theorem optional (production : Production α) (state : ParserState) :
    Commits (optional production) state := by
  intro after ended
  rw [Production.optional, orElse] at ended
  split at ended
  case h_1 => exact pure _ _ _ ended
  case h_2 distinct => exact distinct after ended

end Commits

/-! ### Mismatches that read nothing -/

namespace Stays

/-- Failing at once reads nothing. -/
theorem fail (state : ParserState) : Stays (fail : Production α) state := by
  intro after ended
  obtain rfl : state = after := congrArg Prod.snd ended
  exact Moves.refl state

/-- What never misses reads nothing when it does. -/
theorem of_commits {production : Production α} (commits : Commits production state) :
    Stays production state :=
  fun after ended => absurd ended (commits after)

/-- Behind the first part there is no mismatch any more. -/
theorem bind {first : Production α} {second : α → Production β} (stays : Stays first state)
    (commitsBehind : ∀ via middle, Commits (second via) middle) :
    Stays (first >>= second) state := by
  intro after ended
  rcases bind_eq_mismatch.mp ended with firstEnd | ⟨via, middle, -, secondEnd⟩
  · exact stays after firstEnd
  · exact absurd secondEnd (commitsBehind via middle after)

/-- Changing the value does not change what a mismatch reads. -/
theorem map {production : Production α} (change : α → β) (stays : Stays production state) :
    Stays (change <$> production) state :=
  stays.bind fun _ _ => Commits.pure _ _

/-- A part that is known to match and reads nothing leaves the rest to the second part. -/
theorem after {first : Production α} {second : α → Production β} {via : α} {middle : ParserState}
    (firstEnd : first state = (.matched via, middle)) (moves : Moves [] state middle)
    (stays : Stays (second via) middle) : Stays (first >>= second) state := by
  intro after ended
  rw [bind_matched firstEnd] at ended
  exact moves.trans (stays after ended)

/-- A look reads nothing, so what follows decides. -/
theorem peek {body : Option Token → Production α}
    (stays : ∀ token?, Stays (body token?) state.looked) : Stays (peek >>= body) state :=
  after (peek_eq state) (moves_looked state) (stays _)

/-- Comparing the next token reads nothing, so what follows decides. If the text is seen, it is the
next token. -/
theorem sees {body : Bool → Production α} {text : String}
    (stays : ∀ seen, (seen = true → state.remaining.head? = some ⟨text⟩) →
      Stays (body seen) state.looked) :
    Stays (sees text >>= body) state :=
  after (sees_eq text state) (moves_looked state) (stays _ head?_of_any)

/-- A mismatch behind a bookmark reads nothing. -/
theorem bookmarked {production : Production α} {Good : List Token → α → Prop}
    (reads : Reads production state.marked Good) : Stays (bookmarked production) state :=
  fun _ ended => reads.restores ended

/-- Alternatives read nothing in vain if neither of them does. -/
theorem orElse {first second : Production α} (stays : Stays first state)
    (staysBehind : ∀ middle, Stays second middle) : Stays (orElse first second) state := by
  intro after ended
  rw [Production.orElse] at ended
  split at ended
  case h_1 middle firstEnd => exact (stays middle firstEnd).trans (staysBehind middle after ended)
  case h_2 distinct => exact absurd ended (distinct after)

end Stays

/-! ### Checked bookmarks -/

/-- Runs a production from a bookmark as `bookmarked` does, but has no end where there is no bookmark
to drop or to return to. -/
def guarded (production : Production α) : Production α := fun state =>
  match production { state with cursor := state.cursor.bookmark } with
  | (.matched value, after) =>
    if after.cursor.bookmarks.isEmpty then (.unfinished, after)
    else (.matched value, { after with cursor := after.cursor.dropBookmark })
  | (.mismatch, after) =>
    if after.cursor.bookmarks.isEmpty then (.unfinished, after)
    else (.mismatch, { after with cursor := after.cursor.revert })
  | (.rejected rejection, after) => (.rejected rejection, after)
  | (.unfinished, after) => (.unfinished, after)

/-- A production that keeps the bookmarks leaves the one it was tried from. -/
theorem guarded_eq {production : Production α} {Good : List Token → α → Prop}
    (reads : Reads production state.marked Good) :
    guarded production state = bookmarked production state := by
  have left {after : ParserState} (kept : Kept state.marked after) :
      after.cursor.bookmarks.isEmpty = false := by
    rw [kept.bookmarks]
    rfl
  cases ended : production state.marked with
  | mk attempt after =>
    have inner : production { state with cursor := state.cursor.bookmark } = (attempt, after) := ended
    rw [guarded, bookmarked, inner]
    cases attempt with
    | matched value =>
      obtain ⟨words, moves, -⟩ := reads.matched ended
      simp [left moves.toKept]
    | mismatch => simp [left (reads.mismatch ended)]
    | rejected rejection | unfinished => rfl

end Production

namespace Grammar

open Production ParserState

variable {options : Options} {inner clause : Production Tree}

/-! ### The grammar with another way to try productions -/

section

variable (tried : {α : Type} → Production α → Production α)

/-- A search clause, as `searchClause` reads it. -/
def searchClauseWith (options : Options) (query : Production Tree) : Production Tree := do
  if ← sees "(" then tried (group query)
  else orElse (tried (indexedClause options)) (Tree.searchClause <$> searchTerm)

/-- The links of a chain, as `links` reads them. -/
def linksWith (clause : Production Tree) : Nat → Production (List Tree.Link)
  | 0 => stop
  | steps + 1 => do
    let first? ← optional (tried (link clause))
    first?.elim (return []) fun first => do return first :: (← linksWith clause steps)

/-- A scoped clause, as `scopedClause` reads it. -/
def scopedClauseWith (clause : Production Tree) : Production Tree := do
  let head ← clause
  let following ← withSteps (linksWith tried clause)
  if !following.isEmpty then recordChain (Tree.chainSize following)
  return Tree.chain head following

/-- A query, as `cqlQuery` reads it. -/
def cqlQueryWith (clause : Production Tree) : Production Tree := do
  if ← sees ">" then tried prefixAssignment
  else Tree.cqlQuery <$> scopedClauseWith tried clause

/-- A query with parentheses nested less deep than a bound, as `query` reads it. -/
def queryWith (options : Options) : Nat → Production Tree
  | 0 => stop
  | depth + 1 => cqlQueryWith tried (searchClauseWith tried options (queryWith options depth))

end

/-- The links with the usual bookmarks are the links of the grammar. -/
theorem linksWith_bookmarked (clause : Production Tree) :
    linksWith bookmarked clause = links clause := by
  funext steps
  induction steps with
  | zero => rfl
  | succ steps inductionHypothesis =>
    rw [linksWith, inductionHypothesis, links]
    refine congrArg (optional (bookmarked (link clause)) >>= ·) (funext fun first? => ?_)
    cases first? <;> rfl

/-- Trying productions from a bookmark gives the grammar itself. -/
theorem queryWith_bookmarked (options : Options) (depth : Nat) :
    queryWith bookmarked options depth = query options depth := by
  induction depth with
  | zero => rfl
  | succ depth inductionHypothesis =>
    rw [queryWith, inductionHypothesis, cqlQueryWith, scopedClauseWith, linksWith_bookmarked]
    rfl

/-- Checking the bookmarks of a search clause changes nothing. -/
theorem searchClauseWith_guarded (readsInner : ∀ state, Reads inner state (DerivesChain options)) :
    searchClauseWith guarded options inner = searchClause options inner := by
  funext state
  rw [searchClauseWith, searchClause, bind_matched (sees_eq _ state), bind_matched (sees_eq _ state)]
  split
  case isTrue seen => exact guarded_eq (reads_group readsInner (head?_of_any seen))
  case isFalse => rw [orElse, orElse, guarded_eq (reads_indexedClause _)]

/-- Checking the bookmarks of links changes nothing. -/
theorem linksWith_guarded (readsClause : ∀ state, Reads clause state (DerivesClause options)) :
    linksWith guarded clause = links clause := by
  have sameLink : guarded (link clause) = bookmarked (link clause) :=
    funext fun state => guarded_eq (reads_link readsClause state.marked)
  rw [← linksWith_bookmarked]
  funext steps
  induction steps with
  | zero => rfl
  | succ steps inductionHypothesis => rw [linksWith, linksWith, inductionHypothesis, sameLink]

/-- Checking the bookmarks of a scoped clause changes nothing. -/
theorem scopedClauseWith_guarded
    (readsClause : ∀ state, Reads clause state (DerivesClause options)) :
    scopedClauseWith guarded clause = scopedClause clause := by
  rw [scopedClauseWith, linksWith_guarded readsClause]
  rfl

/-- Checking the bookmarks of a query changes nothing. -/
theorem cqlQueryWith_guarded (readsClause : ∀ state, Reads clause state (DerivesClause options)) :
    cqlQueryWith guarded clause = cqlQuery clause := by
  have samePrefix : guarded prefixAssignment = bookmarked prefixAssignment :=
    funext fun state =>
      guarded_eq (reads_prefixAssignment state.marked : Reads _ _ fun _ _ => True)
  rw [cqlQueryWith, samePrefix, scopedClauseWith_guarded readsClause]
  rfl

/-- Checking the bookmarks of a query changes nothing, however deep its groups are nested. -/
theorem queryWith_guarded (options : Options) (depth : Nat) :
    queryWith guarded options depth = query options depth := by
  induction depth with
  | zero => rfl
  | succ depth inductionHypothesis =>
    rw [queryWith, inductionHypothesis, searchClauseWith_guarded (reads_query depth),
      cqlQueryWith_guarded (reads_searchClause (reads_query depth))]
    rfl

/-! ### Where mismatches read nothing -/

/-- A term that does not match is not read. -/
theorem stays_term (state : ParserState) : Stays term state := by
  refine .peek fun token? => ?_
  split
  · exact .fail _
  · split
    · exact .fail _
    · exact .of_commits (.bind (.next _) fun _ _ => .pure _ _)

/-- A boolean that does not match is not read. -/
theorem stays_boolean (state : ParserState) : Stays boolean state := by
  refine .peek fun token? => ?_
  split
  · exact .fail _
  · dsimp only
    split
    · exact .of_commits (.reject _ _ _)
    · split
      · exact .of_commits (.bind (.next _) fun _ _ => .pure _ _)
      · exact .fail _

/-- Behind a boolean nothing can fail to match, so without one nothing is read. -/
theorem stays_booleanGroup (state : ParserState) : Stays booleanGroup state := by
  refine .bind (stays_boolean state) fun operator middle => .bind (.sees _ _) fun seen _ => ?_
  split
  · exact .reject _ _ _
  · exact .pure _ _

/-- A search clause that does not match reads nothing: its longer forms return to a bookmark. -/
theorem stays_searchClause (readsInner : ∀ state, Reads inner state (DerivesChain options))
    (state : ParserState) : Stays (searchClause options inner) state := by
  refine .sees fun seen opened => ?_
  split
  case isTrue isSeen => exact .bookmarked (reads_group readsInner (opened isSeen))
  case isFalse =>
    exact .orElse (.bookmarked (reads_indexedClause _)) fun middle =>
      .map _ (.map _ (stays_term middle))

/-- Links end with the first that does not match, behind which nothing is missing. -/
theorem commits_links (clause : Production Tree) (steps : Nat) (state : ParserState) :
    Commits (links clause steps) state := by
  induction steps generalizing state with
  | zero => exact fun _ => nofun
  | succ steps inductionHypothesis =>
    refine .bind (.optional _ state) fun first? middle => ?_
    split
    · exact .pure _ _
    · exact .bind (inductionHypothesis middle) fun _ _ => .pure _ _

/-- A scoped clause that does not match reads nothing, as only its first clause can be missing. -/
theorem stays_scopedClause {state : ParserState} (stays : Stays clause state) :
    Stays (scopedClause clause) state := by
  refine .bind stays fun head middle =>
    .bind (.withSteps fun steps => commits_links clause steps middle) fun following _ => ?_
  split
  · exact .bind (.recordChain _ _) fun _ _ => .pure _ _
  · exact .pure _ _

/-- A query that does not match reads nothing: the assignment returns to a bookmark. -/
theorem stays_cqlQuery (stays : ∀ state, Stays clause state) (state : ParserState) :
    Stays (cqlQuery clause) state := by
  refine .sees fun seen _ => ?_
  split
  · exact .bookmarked (reads_prefixAssignment _ : Reads _ _ fun _ _ => True)
  · exact .map _ (stays_scopedClause (stays _))

/-! ### Transactions -/

variable {words : List Token} {tree : Tree}

/-- A clause has a token. -/
theorem DerivesClause.ne_nil (derives : DerivesClause options words tree) : words ≠ [] := by
  obtain ⟨clause, formed, rfl, -⟩ := derives
  obtain ⟨first, back, shape, -⟩ := head_of_formed formed
  simp [shape]

/-- A query has a token. -/
theorem DerivesChain.ne_nil (derives : DerivesChain options words tree) : words ≠ [] := by
  obtain ⟨chain, formed, rfl, -⟩ := derives
  obtain ⟨first, back, shape, -⟩ := head_of_formed formed.head
  simp [Chain.tokens, shape]

/-- Terms are transactions. -/
theorem transacts_term (state : ParserState) : Transacts term state := by
  refine (reads_term state).transacts ?_ (stays_term state)
  rintro _ _ ⟨token, -, rfl, -⟩
  exact List.cons_ne_nil _ _

/-- Booleans with their modifiers are transactions. -/
theorem transacts_booleanGroup (state : ParserState) : Transacts booleanGroup state := by
  refine (reads_booleanGroup state).transacts ?_ (stays_booleanGroup state)
  rintro _ _ ⟨token, -, rfl, -⟩
  exact List.cons_ne_nil _ _

/-- Search clauses are transactions, if the queries in groups read the tokens of queries. -/
theorem transacts_searchClause (readsInner : ∀ state, Reads inner state (DerivesChain options))
    (state : ParserState) : Transacts (searchClause options inner) state :=
  (reads_searchClause readsInner state).transacts (fun _ _ derives => derives.ne_nil)
    (stays_searchClause readsInner state)

/-- Scoped clauses are transactions, if their clauses read those of clauses and nothing in vain. -/
theorem transacts_scopedClause (readsClause : ∀ state, Reads clause state (DerivesClause options))
    {state : ParserState} (stays : Stays clause state) : Transacts (scopedClause clause) state :=
  (reads_scopedClause readsClause state).of_map.transacts (fun _ _ derives => derives.ne_nil)
    (stays_scopedClause stays)

/-- At every depth queries are transactions. -/
theorem transacts_query (depth : Nat) (state : ParserState) :
    Transacts (query options depth) state := by
  refine (reads_query depth state).transacts (fun _ _ derives => derives.ne_nil) ?_
  cases depth with
  | zero => exact .of_commits fun _ => nofun
  | succ depth => exact stays_cqlQuery (stays_searchClause (reads_query depth)) state

/-- Whatever the options and wherever the cursor stands, search clauses, scoped clauses, queries, booleans
and terms move the cursor on if they match, leave it where it was if they do not, and keep the bookmarks
in both cases. Checking that there is a bookmark whenever one is dropped or returned to changes nothing.
The recursion through groups has a solution, which is what every depth gives that exceeds the number of
remaining tokens, and it ends; so does the loop over the links of a chain, in fewer steps than one more
than that number.

Proof: a production that reads a clause reads at least one token, so it moves the cursor on if it matches.
Bookmarks are restored combinator by combinator, and two depths that exceed the remaining tokens give the
same, by induction on these. -/
theorem productions_transactional (options : Options) (depth : Nat) (state : ParserState) :
    (Transacts (searchClause options (query options depth)) state ∧
      Transacts (scopedClause (searchClause options (query options depth))) state ∧
      Transacts (query options depth) state ∧
      Transacts booleanGroup state ∧ Transacts term state) ∧
    (queryWith bookmarked options depth = query options depth ∧
      queryWith guarded options depth = query options depth ∧
      searchClauseWith guarded options (queryWith guarded options depth) =
        searchClause options (query options depth) ∧
      scopedClauseWith guarded (searchClause options (query options depth)) =
        scopedClause (searchClause options (query options depth))) ∧
    (unbounded options = cqlQuery (unboundedClause options) ∧
      EndAlike (query options (state.remaining.length + 1 + depth)) (unbounded options) state ∧
      EndAlike (links (unboundedClause options) (state.remaining.length + 1 + depth))
        (links (unboundedClause options) (state.remaining.length + 1)) state ∧
      Concludes (scopedClause (unboundedClause options)) state ∧
      Concludes (unboundedClause options) state) := by
  have readsQuery (later : ParserState) :
      Reads (query options depth) later (DerivesChain options) := reads_query depth later
  have readsClause := reads_searchClause readsQuery
  have stays := stays_searchClause readsQuery
  have alike (later : ParserState) (_ : later.remaining.length ≤ state.remaining.length) :
      EndAlike (unboundedClause options) (unboundedClause options) later :=
    endAlike_unboundedClause later
  refine ⟨⟨transacts_searchClause readsQuery state,
    transacts_scopedClause readsClause (stays state), transacts_query depth state,
    transacts_booleanGroup state, transacts_term state⟩,
    ⟨queryWith_bookmarked options depth, queryWith_guarded options depth, ?_,
      scopedClauseWith_guarded readsClause⟩,
    unbounded_eq options, endAlike_unbounded (by omega),
    endAlike_links reads_unboundedClause alike (by omega) (by omega),
    (endAlike_scopedClause reads_unboundedClause alike).concludes, (endAlike_unboundedClause state).concludes⟩
  rw [queryWith_guarded, searchClauseWith_guarded readsQuery]

/-- A group that is closed is read, up to the place behind it. -/
example :
    let cursor : Cursor := ⟨#[⟨"x"⟩, ⟨"("⟩, ⟨"a"⟩, ⟨")"⟩], 1, [0], 1⟩
    let inner := Tree.singleClause (Tree.searchClause (Tree.searchTerm (Tree.term "a")))
    searchClause Options.standard (query Options.standard 4) ⟨cursor, []⟩ =
      (.matched (Tree.group (Tree.cqlQuery inner)),
        ⟨{ cursor with position := 4, furthest := 3 }, []⟩) := rfl

/-- A group that is never closed is given up. The cursor stands in front of the group again, with the
bookmark it had, and only the furthest place shows how far it looked. -/
example :
    let cursor : Cursor := ⟨#[⟨"x"⟩, ⟨"("⟩, ⟨"a"⟩], 1, [0], 1⟩
    searchClause Options.standard (query Options.standard 4) ⟨cursor, []⟩ =
      (.mismatch, ⟨{ cursor with furthest := 3 }, []⟩) := rfl

end Grammar

end ContextualQuery
