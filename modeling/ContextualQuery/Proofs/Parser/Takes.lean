import ContextualQuery.Proofs.Parser.Movement

/-!
# What a production does read

A production takes words in a state when it matches there and has read just these words; it
declines when it does not match. The rules below follow the way in which productions are put
together, from the first part to the last.
-/

namespace ContextualQuery.Production

open ParserState

variable {α β : Type} {state : ParserState} {words : List Token} {value : α}

/-- The production matches with the value and has read the words. -/
def Takes (production : Production α) (state : ParserState) (words : List Token) (value : α) :
    Prop :=
  ∃ after, production state = (.matched value, after) ∧ Moves words state after

/-- The production does not match. -/
def Declines (production : Production α) (state : ParserState) : Prop :=
  ∃ after, production state = (.mismatch, after) ∧ Kept state after

/-! ### Taking words -/

/-- Giving a value takes no words. -/
theorem Takes.pure (value : α) (state : ParserState) : Takes (pure value) state [] value :=
  ⟨state, rfl, Moves.refl state⟩

/-- Recording a chain takes no words. -/
theorem Takes.recordChain (size : Tree.ChainSize) (state : ParserState) :
    Takes (recordChain size) state [] () :=
  ⟨_, rfl, ⟨rfl, rfl⟩, rfl, by simp⟩

/-- The second part takes what is behind what the first part has taken. -/
theorem Takes.bind {first : Production α} {second : α → Production β} {front back : List Token}
    {result : β} (takesFirst : Takes first state front value)
    (takesSecond : ∀ middle, Moves front state middle → Takes (second value) middle back result) :
    Takes (first >>= second) state (front ++ back) result := by
  obtain ⟨middle, firstEnd, firstMoves⟩ := takesFirst
  obtain ⟨after, secondEnd, secondMoves⟩ := takesSecond middle firstMoves
  exact ⟨after, (bind_matched firstEnd).trans secondEnd, firstMoves.trans secondMoves⟩

/-- A first part that is known to match leaves the rest to the second part. -/
theorem Takes.after {first : Production α} {second : α → Production β} {middle : ParserState}
    {front back : List Token} {result : β} (firstEnd : first state = (.matched value, middle))
    (firstMoves : Moves front state middle) (takes : Takes (second value) middle back result) :
    Takes (first >>= second) state (front ++ back) result := by
  obtain ⟨after, secondEnd, secondMoves⟩ := takes
  exact ⟨after, (bind_matched firstEnd).trans secondEnd, firstMoves.trans secondMoves⟩

/-- The value of a production that matched is changed. -/
theorem Takes.map (change : α → β) {production : Production α}
    (takes : Takes production state words value) :
    Takes (change <$> production) state words (change value) := by
  have whole : Takes (production >>= fun value => Pure.pure (change value)) state (words ++ [])
      (change value) :=
    takes.bind fun middle _ => Takes.pure (change value) middle
  rw [List.append_nil] at whole
  exact whole

/-- Looking at the next token takes nothing. -/
theorem Takes.peek {body : Option Token → Production α}
    (takes : Takes (body state.remaining.head?) state.looked words value) :
    Takes (peek >>= body) state words value :=
  Takes.after (peek_eq state) (moves_looked state) takes

/-- The next token has the text that is asked for. -/
theorem Takes.sees {body : Bool → Production α} {text : String}
    (present : state.remaining.head? = some ⟨text⟩)
    (takes : Takes (body true) state.looked words value) :
    Takes (sees text >>= body) state words value := by
  refine Takes.after (sees_eq text state) (moves_looked state) ?_
  simpa [present] using takes

/-- The next token does not have the text that is asked for, or there is none. -/
theorem sees_of_absent {text : String}
    (absent : ∀ token ∈ state.remaining.head?, token.text ≠ text) :
    Production.sees text state = (.matched false, state.looked) := by
  have unseen : state.remaining.head?.any (·.text == text) = false := by
    cases first : state.remaining.head? with
    | none => rfl
    | some token => simpa using absent token first
  rw [sees_eq, unseen]

/-- Where a text is not seen, the rest of the production takes what it takes. -/
theorem Takes.sees_not {body : Bool → Production α} {text : String}
    (absent : ∀ token ∈ state.remaining.head?, token.text ≠ text)
    (takes : Takes (body false) state.looked words value) :
    Takes (Production.sees text >>= body) state words value :=
  Takes.after (sees_of_absent absent) (moves_looked state) takes

/-- The next token is taken. -/
theorem Takes.next {body : Option Token → Production α} {token : Token} {rest : List Token}
    (front : state.remaining = token :: rest)
    (takes : Takes (body (some token)) state.stepped words value) :
    Takes (next >>= body) state (token :: words) value :=
  Takes.after (next_of_cons front) (moves_stepped front) takes

/-- The next token is the one that is expected. -/
theorem Takes.expect {text : String} {rest : List Token}
    (front : state.remaining = ⟨text⟩ :: rest) : Takes (expect text) state [⟨text⟩] () := by
  refine Takes.next front ?_
  rw [if_pos (by simp)]
  exact Takes.pure () _

/-- Behind a bookmark a production takes what it takes without one. -/
theorem Takes.bookmarked {production : Production α}
    (takes : Takes production state.marked words value) :
    Takes (bookmarked production) state words value := by
  obtain ⟨after, ended, moves⟩ := takes
  refine ⟨{ after with cursor := after.cursor.dropBookmark }, ?_,
    ⟨moves.tokens, ?_⟩, moves.position, moves.front⟩
  · rw [ParserState.marked] at ended
    rw [Production.bookmarked, ended]
  · simp [Cursor.dropBookmark, moves.bookmarks, marked, Cursor.bookmark]

/-! ### Declining -/

/-- Failing does not match. -/
theorem Declines.fail (state : ParserState) : Declines (fail : Production α) state :=
  ⟨state, rfl, rfl, rfl⟩

/-- A part that declines makes the sequence decline. -/
theorem Declines.bind_first {first : Production α} {second : α → Production β}
    (declines : Declines first state) : Declines (first >>= second) state := by
  obtain ⟨after, ended, kept⟩ := declines
  exact ⟨after, bind_eq_mismatch.mpr (.inl ended), kept⟩

/-- A sequence does not match if its second part does not, wherever the first part ends. -/
theorem Declines.bind_second {first : Production α} {second : α → Production β}
    (takes : Takes first state words value)
    (declines : ∀ middle, Moves words state middle → Declines (second value) middle) :
    Declines (first >>= second) state := by
  obtain ⟨middle, firstEnd, moves⟩ := takes
  obtain ⟨after, secondEnd, kept⟩ := declines middle moves
  exact ⟨after, bind_eq_mismatch.mpr (.inr ⟨value, middle, firstEnd, secondEnd⟩),
    moves.toKept.trans kept⟩

/-- Behind a look, the rest of the production decides whether it matches. -/
theorem Declines.peek {body : Option Token → Production α}
    (declines : Declines (body state.remaining.head?) state.looked) :
    Declines (peek >>= body) state := by
  obtain ⟨after, ended, kept⟩ := declines
  exact ⟨after, (bind_matched (peek_eq state)).trans ended, kept.tokens, kept.bookmarks⟩

/-- A production that declines behind a bookmark leaves the cursor where it stood. -/
theorem Declines.bookmarked {production : Production α}
    (declines : Declines production state.marked) :
    ∃ after, bookmarked production state = (.mismatch, after) ∧ Moves [] state after := by
  obtain ⟨after, ended, kept⟩ := declines
  refine ⟨{ after with cursor := after.cursor.revert }, ?_, kept.moves_revert⟩
  rw [ParserState.marked] at ended
  rw [Production.bookmarked, ended]

/-! ### Alternatives -/

/-- The first alternative is taken. -/
theorem Takes.orElse_first {first second : Production α} (takes : Takes first state words value) :
    Takes (orElse first second) state words value := by
  obtain ⟨after, ended, moves⟩ := takes
  exact ⟨after, by rw [Production.orElse, ended], moves⟩

/-- The second alternative is taken where the first one, tried behind a bookmark, declines. -/
theorem Takes.orElse_second {first second : Production α} (declines : Declines first state.marked)
    (takes : ∀ middle, Moves [] state middle → Takes second middle words value) :
    Takes (orElse (Production.bookmarked first) second) state words value := by
  obtain ⟨middle, firstEnd, back⟩ := declines.bookmarked
  obtain ⟨after, secondEnd, moves⟩ := takes middle back
  exact ⟨after, by rw [Production.orElse, firstEnd]; exact secondEnd, back.trans moves⟩

/-- An optional production that matches is taken. -/
theorem Takes.optional {production : Production α} (takes : Takes production state words value) :
    Takes (optional production) state words (some value) :=
  (takes.map some).orElse_first

/-- An optional production that declines behind a bookmark takes nothing. -/
theorem Takes.optional_none {production : Production α}
    (declines : Declines production state.marked) :
    Takes (Production.optional (Production.bookmarked production)) state [] none := by
  obtain ⟨after, ended, back⟩ := declines.bookmarked
  have mapped : (some <$> Production.bookmarked production) state = (.mismatch, after) :=
    bind_eq_mismatch.mpr (.inl ended)
  exact ⟨after, by rw [Production.optional, Production.orElse, mapped]; rfl, back⟩

end ContextualQuery.Production
