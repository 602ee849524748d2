import ContextualQuery.Parser.Production

/-!
# Progress of productions

A production reads a front of the tokens that remain. What it has read is known from the places of
the cursor before and after it; the tokens themselves never change, and the bookmarks are the same
again when the production has ended.

Two kinds of facts are stated in these terms. `Reads` says what a production can only do: if it
matches, it has read words that go with its value, and a mismatch keeps tokens and bookmarks.
`Takes` and `Declines` say what it does do in a given state. Both follow the way in which
productions are put together, so that nothing is said about cursors where a production of the
grammar is considered.
-/

namespace ContextualQuery

namespace ParserState

/-- The tokens that were not read yet. -/
def remaining (state : ParserState) : List Token :=
  state.cursor.tokens.toList.drop state.cursor.position

/-- The state after the next token was looked at. -/
def looked (state : ParserState) : ParserState := { state with cursor := state.cursor.looked }

/-- The state after the next token was taken, if there is one. -/
def stepped (state : ParserState) : ParserState :=
  { state with cursor := { state.cursor.looked with position := state.cursor.position + 1 } }

/-- The state with a bookmark at the next token. -/
def marked (state : ParserState) : ParserState := { state with cursor := state.cursor.bookmark }

/-- Between the two states nothing happened to the tokens and the bookmarks. -/
structure Kept (state after : ParserState) : Prop where
  tokens : after.cursor.tokens = state.cursor.tokens
  bookmarks : after.cursor.bookmarks = state.cursor.bookmarks

/-- Between the two states the given words were read. -/
structure Moves (words : List Token) (state after : ParserState) : Prop
    extends Kept state after where
  position : after.cursor.position = state.cursor.position + words.length
  front : words <+: state.remaining

/-- What two stretches of reading keep, both together keep. -/
theorem Kept.trans {state middle after : ParserState} (first : Kept state middle)
    (second : Kept middle after) : Kept state after :=
  ⟨second.tokens.trans first.tokens, second.bookmarks.trans first.bookmarks⟩

/-- The words that were read stand before the tokens that remain. -/
theorem Moves.remaining_eq {words : List Token} {state after : ParserState}
    (moves : Moves words state after) : state.remaining = words ++ after.remaining := by
  obtain ⟨rest, split⟩ := moves.front
  have later : after.remaining = state.remaining.drop words.length := by
    simp [remaining, moves.tokens, moves.position, List.drop_drop]
  rw [later, ← split, List.drop_left]

/-- What remains is known when the words that were read are. -/
theorem Moves.remaining_of_append {words rest : List Token} {state after : ParserState}
    (moves : Moves words state after) (split : state.remaining = words ++ rest) :
    after.remaining = rest :=
  List.append_cancel_left (moves.remaining_eq.symm.trans split)

/-- Without words the same tokens remain. -/
theorem Moves.remaining_nil {state after : ParserState} (moves : Moves [] state after) :
    after.remaining = state.remaining := moves.remaining_of_append rfl

/-- Without reading, nothing moves. -/
theorem Moves.refl (state : ParserState) : Moves [] state state := ⟨⟨rfl, rfl⟩, rfl, by simp⟩

/-- Words that are read one after the other are read together. -/
theorem Moves.trans {front back : List Token} {state middle after : ParserState}
    (first : Moves front state middle) (second : Moves back middle after) :
    Moves (front ++ back) state after := by
  refine ⟨first.toKept.trans second.toKept, ?_, ?_⟩
  · rw [second.position, first.position, List.length_append, Nat.add_assoc]
  · rw [first.remaining_eq, second.remaining_eq]
    simp

/-- No more tokens remain than there are. -/
theorem length_remaining_le (state : ParserState) :
    state.remaining.length ≤ state.cursor.size := by
  simp [remaining, Cursor.size]

/-- A look reads nothing. -/
theorem moves_looked (state : ParserState) : Moves [] state state.looked :=
  ⟨⟨rfl, rfl⟩, rfl, by simp⟩

/-- A step reads the token that was next. -/
theorem moves_stepped {state : ParserState} {token : Token} {rest : List Token}
    (next : state.remaining = token :: rest) : Moves [token] state state.stepped :=
  ⟨⟨rfl, rfl⟩, rfl, by simp [next]⟩

/-- Returning to a bookmark undoes every movement since it was made. -/
theorem Kept.moves_revert {state after : ParserState} (kept : Kept state.marked after) :
    Moves [] state { after with cursor := after.cursor.revert } := by
  have stack : after.cursor.bookmarks = state.cursor.position :: state.cursor.bookmarks :=
    kept.bookmarks
  refine ⟨⟨?_, ?_⟩, ?_, by simp⟩
  · simp only [Cursor.revert, stack]
    exact kept.tokens
  · simp [Cursor.revert, stack]
  · simp [Cursor.revert, stack]

/-- A look leaves the same tokens to read. -/
@[simp] theorem remaining_looked (state : ParserState) :
    state.looked.remaining = state.remaining := rfl

/-- A bookmark leaves the same tokens to read. -/
@[simp] theorem remaining_marked (state : ParserState) :
    state.marked.remaining = state.remaining := rfl

/-- The next token is the first of those that remain. -/
theorem current?_eq_head? (state : ParserState) :
    state.cursor.current? = state.remaining.head? := by
  simp [Cursor.current?, Cursor.get?, remaining, List.head?_drop]

end ParserState

namespace Production

open ParserState

variable {α β : Type}

/-! ### Single tokens -/

/-- A look gives the first of the tokens that remain. -/
theorem peek_eq (state : ParserState) :
    peek state = (.matched state.remaining.head?, state.looked) := by
  rw [← current?_eq_head?]
  rfl

/-- Seeing a text compares the first of the tokens that remain. -/
theorem sees_eq (text : String) (state : ParserState) :
    sees text state = (.matched (state.remaining.head?.any (·.text == text)), state.looked) := by
  rw [← current?_eq_head?]
  rfl

/-- At the end there is no token to take, and the cursor stays. -/
theorem next_of_nil {state : ParserState} (atEnd : state.remaining = []) :
    next state = (.matched none, state.looked) := by
  have absent := current?_eq_head? state
  rw [atEnd] at absent
  simp only [next_apply, Cursor.next]
  rw [absent]
  rfl

/-- The first of the tokens that remain is taken. -/
theorem next_of_cons {state : ParserState} {token : Token} {rest : List Token}
    (front : state.remaining = token :: rest) :
    next state = (.matched (some token), state.stepped) := by
  have present := current?_eq_head? state
  rw [front] at present
  simp only [next_apply, Cursor.next]
  rw [present]
  rfl

/-! ### Sequences -/

/-- A sequence matches when both parts do. -/
theorem bind_eq_matched {first : Production α} {second : α → Production β}
    {state after : ParserState}
    {value : β} :
    (first >>= second) state = (.matched value, after) ↔
      ∃ via middle, first state = (.matched via, middle) ∧
        second via middle = (.matched value, after) := by
  rw [bind_apply, andThen]
  split
  case h_1 via middle firstEnd => simp [firstEnd, and_assoc]
  all_goals simp_all

/-- A sequence does not match when the first part does not, or the second one behind it. -/
theorem bind_eq_mismatch {first : Production α} {second : α → Production β}
    {state after : ParserState} :
    (first >>= second) state = (.mismatch, after) ↔
      first state = (.mismatch, after) ∨
        ∃ via middle, first state = (.matched via, middle) ∧
          second via middle = (.mismatch, after) := by
  rw [bind_apply, andThen]
  split
  case h_1 via middle firstEnd => simp [firstEnd, and_assoc]
  all_goals simp_all

end Production

end ContextualQuery
