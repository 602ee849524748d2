import ContextualQuery.Cursor
import ContextualQuery.Error

/-!
# Operations on a cursor

All that a cursor can be asked to do, with its answers. A token can be asked for in two ways, which
differ behind the last token only: there the answer is that there is none, or, where a token is
required, an error.
-/

namespace ContextualQuery.Cursor

/-- What a cursor can be asked to do. -/
inductive Operation where
  | peek
  | next
  | requirePeek
  | requireNext
  | get (place : Nat)
  | bookmark
  | revert
  | drop
deriving DecidableEq, Repr

/-- What a cursor answers. -/
inductive Answer where
  | available (token? : Option Token)
  | required (token : Except ParseError Token)
  | nothing

/-- The answer where a token is required. -/
def Answer.ofRequired : Option Token → Answer
  | some token => .required (.ok token)
  | none => .required (.error (ParseError.ofMessage Mismatch.unexpectedEnd.wording))

/-- Carries out an operation. -/
def perform (cursor : Cursor) : Operation → Answer × Cursor
  | .peek => (.available cursor.peek.1, cursor.peek.2)
  | .next => (.available cursor.next.1, cursor.next.2)
  | .requirePeek => (.ofRequired cursor.peek.1, cursor.peek.2)
  | .requireNext => (.ofRequired cursor.next.1, cursor.next.2)
  | .get place => (.available (cursor.get? place), cursor)
  | .bookmark => (.nothing, cursor.bookmark)
  | .revert => (.nothing, cursor.revert)
  | .drop => (.nothing, cursor.dropBookmark)

end ContextualQuery.Cursor
