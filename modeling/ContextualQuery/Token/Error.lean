import ContextualQuery.Text.Blank

/-!
# Texts that are no tokens

The error for a text with a fragment that no token matches. It keeps the text, the place of the
fragment as a number of UTF-8 bytes, and the fragment without blanks at its end.
-/

namespace ContextualQuery

/-- A fragment of a text that is no token. -/
structure TokenizerError where
  message : String
  fragment : String
  position : Nat
  input : String
deriving DecidableEq, Repr

namespace TokenizerError

/-- The number of bytes that characters take in UTF-8. -/
def byteCount : List Char → Nat
  | [] => 0
  | c :: rest => c.utf8Size + byteCount rest

/-- The characters from a byte position on. -/
def dropBytes : Nat → List Char → List Char
  | 0, chars => chars
  | _, [] => []
  | count + 1, c :: rest => dropBytes (count + 1 - c.utf8Size) rest

/-- The error for the fragment of a text that starts at a byte position. -/
def atPosition (message : String) (position : Nat) (input : String) : TokenizerError :=
  { message
    fragment := String.ofList (Text.trimBlanksEnd (dropBytes position input.toList))
    position
    input }

/-- The message with its fragment, the text, and a caret below the byte position. -/
def formatWithContext (error : TokenizerError) : String :=
  error.message ++ ": " ++ error.fragment ++ "\n  " ++ error.input ++ "\n  " ++
    String.ofList (List.replicate error.position ' ') ++ "^"

/-- The bytes of two texts add up. -/
theorem byteCount_append (left right : List Char) :
    byteCount (left ++ right) = byteCount left + byteCount right := by
  induction left with
  | nil => simp [byteCount]
  | cons c rest inductionHypothesis => simp [byteCount, inductionHypothesis, Nat.add_assoc]

/-- Dropping exactly the bytes at the front leaves the characters behind them. -/
theorem dropBytes_append (front rest : List Char) :
    dropBytes (byteCount front) (front ++ rest) = rest := by
  induction front with
  | nil => simp [byteCount, dropBytes]
  | cons c tail inductionHypothesis =>
    have positive : 0 < c.utf8Size := c.utf8Size_pos
    have shape : byteCount (c :: tail) = (c.utf8Size - 1 + byteCount tail) + 1 := by
      rw [byteCount]
      omega
    rw [shape, List.cons_append, dropBytes]
    have difference :
        c.utf8Size - 1 + byteCount tail + 1 - c.utf8Size = byteCount tail := by omega
    rw [difference, inductionHypothesis]

end TokenizerError

end ContextualQuery
