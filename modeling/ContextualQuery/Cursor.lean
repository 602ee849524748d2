import ContextualQuery.Token

/-!
# Token cursor

A cursor walks over a sequence of tokens. It keeps the place of the next token, a stack of places to
return to, and the furthest place that was looked at. Looking beyond the last token counts as looking
at the place behind it; returning to a place does not lower the furthest one.
-/

namespace ContextualQuery

/-- A place in a sequence of tokens. -/
structure Cursor where
  tokens : Array Token
  position : Nat
  bookmarks : List Nat
  furthest : Nat

namespace Cursor

/-- The cursor at the start of some tokens. -/
def start (tokens : List Token) : Cursor :=
  { tokens := tokens.toArray, position := 0, bookmarks := [], furthest := 0 }

/-- The number of tokens. -/
def size (cursor : Cursor) : Nat := cursor.tokens.size

/-- There is a next token. -/
def hasNext (cursor : Cursor) : Bool := decide (cursor.position < cursor.size)

/-- The token at a place, wherever the cursor stands. -/
def get? (cursor : Cursor) (place : Nat) : Option Token := cursor.tokens[place]?

/-- The next token. -/
def current? (cursor : Cursor) : Option Token := cursor.get? cursor.position

/-- The cursor after its next token was looked at. -/
def looked (cursor : Cursor) : Cursor :=
  { cursor with furthest := max cursor.furthest cursor.position }

/-- Looks at the next token. -/
def peek (cursor : Cursor) : Option Token × Cursor := (cursor.current?, cursor.looked)

/-- Takes the next token. Behind the last token the cursor stays where it is. -/
def next (cursor : Cursor) : Option Token × Cursor :=
  match cursor.current? with
  | none => (none, cursor.looked)
  | some token => (some token, { cursor.looked with position := cursor.position + 1 })

/-- Keeps the place, to return to it later. -/
def bookmark (cursor : Cursor) : Cursor :=
  { cursor with bookmarks := cursor.position :: cursor.bookmarks }

/-- Returns to the place kept last, and forgets it. -/
def revert (cursor : Cursor) : Cursor :=
  match cursor.bookmarks with
  | [] => cursor
  | place :: rest => { cursor with position := place, bookmarks := rest }

/-- Forgets the place kept last. -/
def dropBookmark (cursor : Cursor) : Cursor := { cursor with bookmarks := cursor.bookmarks.tail }

/-- Returning to a bookmark that was just made changes nothing. -/
theorem revert_bookmark (cursor : Cursor) : cursor.bookmark.revert = cursor := rfl

/-- Dropping a bookmark that was just made changes nothing. -/
theorem dropBookmark_bookmark (cursor : Cursor) : cursor.bookmark.dropBookmark = cursor := rfl

/-- A look raises the furthest place to the place of the cursor. -/
theorem furthest_looked (cursor : Cursor) :
    cursor.looked.furthest = max cursor.furthest cursor.position := rfl

/-- Looking at the next token does not move the cursor. -/
theorem position_peek (cursor : Cursor) : cursor.peek.2.position = cursor.position := rfl

/-- Taking a token looks at its place, and no further. -/
theorem furthest_next (cursor : Cursor) :
    cursor.next.2.furthest = max cursor.furthest cursor.position := by
  unfold next
  split <;> rfl

/-- There is no next token exactly if the cursor stands behind the last one. -/
theorem current?_eq_none_iff (cursor : Cursor) :
    cursor.current? = none ↔ cursor.size ≤ cursor.position := by
  simp [current?, get?, size]

end Cursor

end ContextualQuery
