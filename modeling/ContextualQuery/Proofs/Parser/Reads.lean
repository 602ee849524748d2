import ContextualQuery.Proofs.Parser.Movement

/-!
# What a production can read

A production reads words with a property when, if it matches, the words that it has read and its
value have the property, and if it does not match, tokens and bookmarks are kept. Nothing is said
about whether it matches. The rules below follow the way in which productions are put together:
each part has to read what the parts before it have left over. An alternative that was tried behind
a bookmark and did not match leaves the cursor where it stood.
-/

namespace ContextualQuery.Production

open ParserState

variable {α β : Type}

/-- If the production matches, it has read words that go with its value. If it does not match,
tokens and bookmarks are kept. -/
structure Reads (production : Production α) (state : ParserState) (Good : List Token → α → Prop) :
    Prop where
  matched : ∀ {value after}, production state = (.matched value, after) →
    ∃ words, Moves words state after ∧ Good words value
  mismatch : ∀ {after}, production state = (.mismatch, after) → Kept state after

variable {Good : List Token → α → Prop} {Good' : List Token → β → Prop} {state : ParserState}

/-- Giving a value reads no words, so it must go with none. -/
theorem Reads.pure {value : α} (good : Good [] value) : Reads (pure value) state Good where
  matched := by
    intro value' after ended
    obtain ⟨rfl, rfl⟩ : value = value' ∧ state = after := by simpa using ended
    exact ⟨[], Moves.refl state, good⟩
  mismatch := by simp

/-- Failing reads nothing that could be wrong. -/
theorem Reads.fail : Reads fail state Good where
  matched := by simp
  mismatch := by
    intro after ended
    obtain rfl : state = after := by simpa using ended
    exact ⟨rfl, rfl⟩

/-- Rejecting reads nothing that could be wrong. -/
theorem Reads.reject (feature : Feature) (token : Token) :
    Reads (reject feature token) state Good where
  matched := by simp [Production.reject]
  mismatch := by simp [Production.reject]

/-- Running out of steps reads nothing that could be wrong. -/
theorem Reads.stop : Reads stop state Good where
  matched := by simp [Production.stop]
  mismatch := by simp [Production.stop]

/-- Words that go with a value in a stricter sense do so in a weaker one. -/
theorem Reads.weaken {production : Production α} {Better : List Token → α → Prop}
    (reads : Reads production state Better)
    (weaker : ∀ words value, Better words value → Good words value) :
    Reads production state Good where
  matched := by
    intro value after ended
    obtain ⟨words, moves, good⟩ := reads.matched ended
    exact ⟨words, moves, weaker words value good⟩
  mismatch := reads.mismatch

/-- Behind what the first part has read, the second part has to read what is still missing. -/
theorem Reads.bind {first : Production α} {second : α → Production β}
    (readsFirst : Reads first state Good)
    (readsSecond : ∀ front via middle, Good front via → Moves front state middle →
      Reads (second via) middle fun back value => Good' (front ++ back) value) :
    Reads (first >>= second) state Good' where
  matched := by
    intro value after ended
    obtain ⟨via, middle, firstEnd, secondEnd⟩ := bind_eq_matched.mp ended
    obtain ⟨front, firstMoves, frontGood⟩ := readsFirst.matched firstEnd
    obtain ⟨back, secondMoves, good⟩ :=
      (readsSecond front via middle frontGood firstMoves).matched secondEnd
    exact ⟨front ++ back, firstMoves.trans secondMoves, good⟩
  mismatch := by
    intro after ended
    rcases bind_eq_mismatch.mp ended with firstEnd | ⟨via, middle, firstEnd, secondEnd⟩
    · exact readsFirst.mismatch firstEnd
    · obtain ⟨front, firstMoves, frontGood⟩ := readsFirst.matched firstEnd
      exact firstMoves.toKept.trans
        ((readsSecond front via middle frontGood firstMoves).mismatch secondEnd)

/-- The value of a production that matched is changed. -/
theorem Reads.map {production : Production α} {change : α → β}
    (reads : Reads production state fun words value => Good' words (change value)) :
    Reads (change <$> production) state Good' := by
  have whole : Reads (production >>= fun value => Pure.pure (change value)) state Good' :=
    reads.bind fun words _ _ good _ => Reads.pure (by simpa using good)
  exact whole

/-- A first part that is known to match leaves the rest to the second part. -/
theorem Reads.after {first : Production α} {second : α → Production β} {front : List Token}
    {via : α} {middle : ParserState} (firstEnd : first state = (.matched via, middle))
    (firstMoves : Moves front state middle)
    (reads : Reads (second via) middle fun back value => Good' (front ++ back) value) :
    Reads (first >>= second) state Good' where
  matched := by
    intro value after ended
    rw [bind_matched firstEnd] at ended
    obtain ⟨back, secondMoves, good⟩ := reads.matched ended
    exact ⟨front ++ back, firstMoves.trans secondMoves, good⟩
  mismatch := by
    intro after ended
    rw [bind_matched firstEnd] at ended
    exact firstMoves.toKept.trans (reads.mismatch ended)

/-- Looking at the next token reads nothing. -/
theorem Reads.peek {body : Option Token → Production α}
    (reads : Reads (body state.remaining.head?) state.looked Good) :
    Reads (peek >>= body) state Good :=
  Reads.after (peek_eq state) (moves_looked state) reads

/-- A test of the next token reads nothing. -/
theorem Reads.sees {body : Bool → Production α} {text : String}
    (reads : ∀ seen, (seen = true → state.remaining.head? = some ⟨text⟩) →
      Reads (body seen) state.looked Good) :
    Reads (sees text >>= body) state Good := by
  refine Reads.after (sees_eq text state) (moves_looked state) (reads _ ?_)
  intro seen
  cases first : state.remaining.head? with
  | none => simp [first] at seen
  | some token =>
    obtain rfl : token.text = text := by simpa [first] using seen
    rfl

/-- A next token that was looked at is read. -/
theorem Reads.next_of_head {body : Option Token → Production α} {token : Token}
    (first : state.remaining.head? = some token)
    (reads : Reads (body (some token)) state.stepped fun words value =>
      Good (token :: words) value) :
    Reads (next >>= body) state Good := by
  obtain ⟨rest, split⟩ := List.head?_eq_some_iff.mp first
  exact Reads.after (next_of_cons split) (moves_stepped split) reads

/-- The token that is expected is read. -/
theorem Reads.expect (text : String) :
    Reads (expect text) state fun words _ => words = [⟨text⟩] := by
  cases first : state.remaining.head? with
  | none =>
    have atEnd : state.remaining = [] := List.head?_eq_none_iff.mp first
    exact Reads.after (next_of_nil atEnd) (moves_looked state) Reads.fail
  | some token =>
    refine Reads.next_of_head first ?_
    by_cases same : token.text = text
    · subst same
      rw [if_pos (by simp)]
      exact Reads.pure rfl
    · rw [if_neg (by simpa using same)]
      exact Reads.fail

/-- A mismatch behind a bookmark leaves the cursor where it stood. -/
theorem Reads.restores {production : Production α} (reads : Reads production state.marked Good)
    {after : ParserState} (ended : bookmarked production state = (.mismatch, after)) :
    Moves [] state after := by
  rw [Production.bookmarked] at ended
  split at ended <;> simp only [Prod.mk.injEq, reduceCtorEq, false_and, true_and] at ended
  case h_2 inner innerEnd =>
    subst ended
    exact (reads.mismatch innerEnd).moves_revert

/-- Behind a bookmark a production reads what it reads without one. -/
theorem Reads.bookmarked {production : Production α} (reads : Reads production state.marked Good) :
    Reads (bookmarked production) state Good where
  matched := by
    intro value after ended
    rw [Production.bookmarked] at ended
    split at ended <;>
      simp only [Prod.mk.injEq, Attempt.matched.injEq, reduceCtorEq, false_and] at ended
    case h_1 value' inner innerEnd =>
      obtain ⟨rfl, rfl⟩ := ended
      obtain ⟨words, moves, good⟩ := reads.matched innerEnd
      refine ⟨words, ⟨⟨moves.tokens, ?_⟩, moves.position, moves.front⟩, good⟩
      simp [Cursor.dropBookmark, moves.bookmarks, marked, Cursor.bookmark]
  mismatch := fun ended => (reads.restores ended).toKept

/-- The second alternative starts where the first one did, which was tried behind a bookmark. -/
theorem Reads.orElse {first second : Production α} (readsFirst : Reads first state.marked Good)
    (readsSecond : ∀ middle, Moves [] state middle → Reads second middle Good) :
    Reads (orElse (Production.bookmarked first) second) state Good where
  matched := by
    intro value after ended
    rw [Production.orElse] at ended
    split at ended
    case h_1 middle firstEnd =>
      have back := readsFirst.restores firstEnd
      obtain ⟨words, moves, good⟩ := (readsSecond middle back).matched ended
      exact ⟨words, back.trans moves, good⟩
    case h_2 => exact readsFirst.bookmarked.matched ended
  mismatch := by
    intro after ended
    rw [Production.orElse] at ended
    split at ended
    case h_1 middle firstEnd =>
      have back := readsFirst.restores firstEnd
      exact back.toKept.trans ((readsSecond middle back).mismatch ended)
    case h_2 => exact readsFirst.bookmarked.mismatch ended

/-- A production that may as well not match reads its words, or nothing. -/
theorem Reads.optional {production : Production α} (reads : Reads production state.marked Good) :
    Reads (optional (Production.bookmarked production)) state fun words value? =>
      (value? = none ∧ words = []) ∨ ∃ value, value? = some value ∧ Good words value where
  matched := by
    intro value? after ended
    rw [Production.optional, Production.orElse] at ended
    split at ended
    case h_1 middle firstEnd =>
      obtain ⟨rfl, rfl⟩ : none = value? ∧ middle = after := by simpa using ended
      rcases bind_eq_mismatch.mp firstEnd with firstEnd | ⟨value, _, _, secondEnd⟩
      · exact ⟨[], reads.restores firstEnd, .inl ⟨rfl, rfl⟩⟩
      · exact absurd (congrArg Prod.fst secondEnd)
          (show ¬ Attempt.matched (some value) = .mismatch by simp)
    case h_2 =>
      obtain ⟨value, middle, firstEnd, secondEnd⟩ := bind_eq_matched.mp ended
      obtain ⟨rfl, rfl⟩ : some value = value? ∧ middle = after := by
        simpa [Function.comp] using secondEnd
      obtain ⟨words, moves, good⟩ := reads.bookmarked.matched firstEnd
      exact ⟨words, moves, .inr ⟨value, rfl, good⟩⟩
  mismatch := by
    intro after ended
    rw [Production.optional, Production.orElse] at ended
    split at ended
    case h_1 => simp at ended
    case h_2 distinct => exact absurd ended (distinct after)

/-- What holds for every number of steps holds for the number that is taken. -/
theorem Reads.withSteps {production : Nat → Production α}
    (reads : ∀ steps, Reads (production steps) state Good) :
    Reads (withSteps production) state Good :=
  ⟨(reads _).matched, (reads _).mismatch⟩

/-- Recording the size of a chain reads nothing. -/
theorem Reads.recordChain {body : Unit → Production α} (size : Tree.ChainSize)
    (reads : ∀ middle, Moves [] state middle → Reads (body ()) middle Good) :
    Reads (recordChain size >>= body) state Good :=
  have moves := ⟨⟨rfl, rfl⟩, rfl, by simp⟩
  Reads.after rfl moves (reads _ moves)

end ContextualQuery.Production
