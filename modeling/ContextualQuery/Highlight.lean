import ContextualQuery.Options
import ContextualQuery.Style
import ContextualQuery.Text.Search
import ContextualQuery.Token.Lexer

/-!
# Highlighted text

A query is highlighted token by token, and the blanks between the tokens are kept. Only blanks separate
tokens, so the next occurrence of a token's text is the token itself. A text that is no sequence of
tokens is left as it is. Text of an unknown syntax is shown line by line in the foreground colour.
-/

namespace ContextualQuery

/-- The booleans, the one that is not supported included. -/
def booleans : List String := ["and", "or", "not", "prox"]

namespace Token

/-- The style of a token, if it has one: booleans, then comparitors and slashes, then parentheses, then
quoted terms. -/
def style? (token : Token) : Option Style :=
  if booleans.contains (Text.lower token.text) then some .header
  else if token.text = "/" ∨ isComparitor token.text then some .warning
  else if token.text = "(" ∨ token.text = ")" then some .dim
  else if token.isQuoted then some .success
  else none

/-- A token in its style. -/
def paint (token : Token) : String := (token.style?.elim id Style.apply) token.text

/-- A text with the tokens that are found in it, one behind the other, in their styles. -/
def paintAll : List Token → List Char → String
  | [], chars => String.ofList chars
  | token :: rest, chars =>
    match Text.splitAtFirst? token.text.toList chars with
    | none => String.ofList chars
    | some (before, after) => String.ofList before ++ token.paint ++ paintAll rest after

end Token

/-- A query with its tokens in their styles. -/
def highlight (query : String) : String :=
  match Token.tokenize query with
  | .error _ => query
  | .ok tokens => Token.paintAll tokens query.toList

/-- The lines of a text, each with the line end it has. -/
def linesWithEnds : List Char → List (List Char)
  | [] => []
  | c :: rest =>
    match linesWithEnds rest with
    | [] => [[c]]
    | line :: lines => if c = '\n' then [c] :: line :: lines else (c :: line) :: lines

/-- The sequence that switches the foreground colour of plain text on. -/
def plainColour : String := Style.sequence "38;2;248;248;242"

/-- A text of an unknown syntax in the foreground colour. -/
def highlightPlain (text : String) : String :=
  String.join ((linesWithEnds text.toList).map fun line => plainColour ++ String.ofList line) ++
    Style.reset

/-- Cutting a text into lines loses nothing. -/
theorem flatten_linesWithEnds (chars : List Char) : (linesWithEnds chars).flatten = chars := by
  induction chars with
  | nil => rfl
  | cons c rest inductionHypothesis =>
    rw [linesWithEnds]
    split
    case h_1 none => simpa [none] using inductionHypothesis
    case h_2 line lines some =>
      rw [some] at inductionHypothesis
      split <;> simpa using inductionHypothesis

end ContextualQuery
