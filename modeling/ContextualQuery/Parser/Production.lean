import ContextualQuery.Cursor
import ContextualQuery.Error
import ContextualQuery.Tree.Chain

/-!
# Productions

A production reads tokens through a cursor and ends in one of four ways: it matches and gives a value,
it does not match, it rejects the query for good because of a feature that is not supported, or it
runs out of the steps it was given. After a mismatch another production can be tried; a rejection ends
the whole reading. A production that is tried between a bookmark and its removal leaves the cursor
where it was unless it matches.
-/

namespace ContextualQuery

/-- What a production has read so far: the place among the tokens, and the sizes of the chains that
were completed, in their order. -/
structure ParserState where
  cursor : Cursor
  chains : List Tree.ChainSize

/-- A query that is given up because of a feature: the token at which the feature was met, and the
place up to which the tokens were read. -/
structure Rejection where
  feature : Feature
  token : Token
  position : Nat
deriving DecidableEq, Repr

/-- The end of a production. -/
inductive Attempt (α : Type) where
  | matched (value : α)
  | mismatch
  | rejected (rejection : Rejection)
  | unfinished

/-- A production that gives values of a type. -/
def Production (α : Type) : Type := ParserState → Attempt α × ParserState

namespace Production

variable {α β : Type}

/-- Runs a production and, if it matches, the one that its value selects. -/
def andThen (first : Production α) (second : α → Production β) : Production β := fun state =>
  match first state with
  | (.matched value, after) => second value after
  | (.mismatch, after) => (.mismatch, after)
  | (.rejected rejection, after) => (.rejected rejection, after)
  | (.unfinished, after) => (.unfinished, after)

/-- Productions run one after the other. The first that does not match ends the sequence. -/
instance : Monad Production where
  pure value := fun state => (.matched value, state)
  bind := andThen

/-- Does not match. -/
def fail : Production α := fun state => (.mismatch, state)

/-- Gives the query up because of a feature that was met at a token. -/
def reject (feature : Feature) (token : Token) : Production α := fun state =>
  (.rejected { feature, token, position := state.cursor.position }, state)

/-- Has no steps left. -/
def stop : Production α := fun state => (.unfinished, state)

/-- Looks at the next token. -/
def peek : Production (Option Token) := fun state =>
  (.matched state.cursor.peek.1, { state with cursor := state.cursor.peek.2 })

/-- Takes the next token. -/
def next : Production (Option Token) := fun state =>
  (.matched state.cursor.next.1, { state with cursor := state.cursor.next.2 })

/-- The next token has the given text. -/
def sees (text : String) : Production Bool := do
  return (← peek).any (·.text == text)

/-- Takes the next token, which must have the given text. -/
def expect (text : String) : Production Unit := do
  if (← next).any (·.text == text) then return () else fail

/-- Runs a production from a bookmark. If it matches, the bookmark is dropped; if it does not, the
cursor returns to the bookmark. -/
def bookmarked (production : Production α) : Production α := fun state =>
  match production { state with cursor := state.cursor.bookmark } with
  | (.matched value, after) => (.matched value, { after with cursor := after.cursor.dropBookmark })
  | (.mismatch, after) => (.mismatch, { after with cursor := after.cursor.revert })
  | (.rejected rejection, after) => (.rejected rejection, after)
  | (.unfinished, after) => (.unfinished, after)

/-- Runs a production, and another one in its place if it does not match. -/
def orElse (first second : Production α) : Production α := fun state =>
  match first state with
  | (.mismatch, after) => second after
  | ended => ended

/-- Runs a production that may as well not match. -/
def optional (production : Production α) : Production (Option α) :=
  orElse (some <$> production) (pure none)

/-- Records the size of a chain that was read. -/
def recordChain (size : Tree.ChainSize) : Production Unit := fun state =>
  (.matched (), { state with chains := state.chains ++ [size] })

/-- Runs a production that may take a step for every token and one more. -/
def withSteps (production : Nat → Production α) : Production α := fun state =>
  production (state.cursor.size + 1) state

/-- A value is given without reading anything. -/
@[simp] theorem pure_apply (value : α) (state : ParserState) :
    (pure value : Production α) state = (.matched value, state) := rfl

/-- A sequence runs as `andThen` does. -/
theorem bind_apply (first : Production α) (second : α → Production β) (state : ParserState) :
    (first >>= second) state = andThen first second state := rfl

/-- Behind a match the sequence goes on in the state that the match left. -/
theorem bind_matched {first : Production α} {second : α → Production β} {state after : ParserState}
    {value : α} (matched : first state = (.matched value, after)) :
    (first >>= second) state = second value after := by
  rw [bind_apply, andThen, matched]

/-- Failing leaves the state as it is. -/
@[simp] theorem fail_apply (state : ParserState) :
    (fail : Production α) state = (.mismatch, state) := rfl

/-- A look gives the token at the cursor and changes the furthest place alone. -/
@[simp] theorem peek_apply (state : ParserState) :
    peek state = (.matched state.cursor.peek.1, { state with cursor := state.cursor.peek.2 }) := rfl

/-- A step gives the token at the cursor and moves the cursor behind it. -/
@[simp] theorem next_apply (state : ParserState) :
    next state = (.matched state.cursor.next.1, { state with cursor := state.cursor.next.2 }) := rfl

/-- Seeing a text is looking at the token at the cursor and comparing its text. -/
theorem sees_apply (text : String) (state : ParserState) :
    sees text state =
      (.matched (state.cursor.current?.any (·.text == text)),
        { state with cursor := state.cursor.looked }) := rfl

end Production

end ContextualQuery
