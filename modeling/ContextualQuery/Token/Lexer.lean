import ContextualQuery.Token
import ContextualQuery.Token.Error

/-!
# Splitting a text into tokens

Blanks separate tokens and are dropped. Of the punctuation that can start at a place, the longest is
taken; a bare word reaches as far as it can; a quoted term ends at the first quote without a backslash
directly before it. The only text that starts no token is a quote that is never closed, and it stops
the reading.
-/

namespace ContextualQuery.Token

/-- The characters up to the quote that closes a quoted term, and the rest behind that quote. A quote
directly after a backslash closes nothing. -/
def closeQuote? (escaped : Bool) : List Char → Option (List Char × List Char)
  | [] => none
  | c :: rest =>
    if c = '"' ∧ escaped = false then some ([], rest)
    else (closeQuote? (c == '\\') rest).map fun (inner, after) => (c :: inner, after)

/-- The punctuation, each mark before those that begin it, so that the first mark found is the
longest. -/
def punctuation : List (List Char) :=
  [['('], [')'], ['>', '='], ['<', '>'], ['<', '='], ['=', '='], ['>'], ['<'], ['='], ['/']]

/-- The first token of a text without blanks at its front, and the rest of the text. -/
def lexeme? (chars : List Char) : Option (List Char × List Char) :=
  match punctuation.find? (·.isPrefixOf chars) with
  | some mark => some (mark, chars.drop mark.length)
  | none =>
    match chars with
    | [] => none
    | c :: rest =>
      if c = '"' then
        (closeQuote? false rest).map fun (inner, after) => ('"' :: (inner ++ ['"']), after)
      else if isBare c then some (c :: rest.takeWhile isBare, rest.dropWhile isBare)
      else none

/-- A closed quote splits the text at the quote. -/
theorem closeQuote?_eq {escaped : Bool} {chars inner after : List Char}
    (closed : closeQuote? escaped chars = some (inner, after)) :
    chars = inner ++ '"' :: after := by
  induction chars generalizing escaped inner after with
  | nil => simp [closeQuote?] at closed
  | cons c rest inductionHypothesis =>
    rw [closeQuote?] at closed
    split at closed
    case isTrue atQuote =>
      simp only [Option.some.injEq, Prod.mk.injEq] at closed
      obtain ⟨rfl, rfl⟩ := closed
      simp [atQuote.1]
    case isFalse =>
      obtain ⟨⟨tail, after'⟩, found, same⟩ := Option.map_eq_some_iff.mp closed
      simp only [Prod.mk.injEq] at same
      obtain ⟨rfl, rfl⟩ := same
      simp [inductionHypothesis found]

/-- A token is a front of the text, and it is not empty. -/
theorem lexeme?_eq {chars word after : List Char} (found : lexeme? chars = some (word, after)) :
    chars = word ++ after ∧ word ≠ [] := by
  unfold lexeme? at found
  split at found
  case h_1 mark isFirst =>
    simp only [Option.some.injEq, Prod.mk.injEq] at found
    obtain ⟨rfl, rfl⟩ := found
    have begins : mark <+: chars := by simpa using List.find?_some isFirst
    have listed : mark ∈ punctuation := List.mem_of_find?_eq_some isFirst
    constructor
    · exact (List.prefix_iff_eq_append.mp begins).symm
    · intro empty
      simp [punctuation, empty] at listed
  case h_2 =>
    cases chars with
    | nil => simp at found
    | cons c rest =>
      dsimp only at found
      split at found
      case isTrue quote =>
        obtain ⟨⟨inner, after'⟩, closed, same⟩ := Option.map_eq_some_iff.mp found
        simp only [Prod.mk.injEq] at same
        obtain ⟨rfl, rfl⟩ := same
        simp [quote, closeQuote?_eq closed]
      case isFalse =>
        split at found
        · simp only [Option.some.injEq, Prod.mk.injEq] at found
          obtain ⟨rfl, rfl⟩ := found
          simp
        · simp at found

/-- What follows a token is shorter than the text, so the reading ends. -/
theorem length_after_lexeme {chars word after : List Char}
    (found : lexeme? chars = some (word, after)) : after.length < chars.length := by
  have split := congrArg List.length (lexeme?_eq found).1
  have positive := List.length_pos_iff.mpr (lexeme?_eq found).2
  rw [List.length_append] at split
  omega

/-- The tokens of a text, or the rest of the text at which the reading stops. -/
def lex (chars : List Char) : Except (List Char) (List Token) :=
  match shape : Text.skipBlanks chars with
  | [] => .ok []
  | c :: rest =>
    match found : lexeme? (c :: rest) with
    | none => .error (c :: rest)
    | some (word, after) =>
      have shorter : after.length < chars.length := by
        have bounded := Text.skipBlanks_length_le chars
        rw [shape] at bounded
        exact Nat.lt_of_lt_of_le (length_after_lexeme found) bounded
      (lex after).map (⟨String.ofList word⟩ :: ·)
termination_by chars.length

/-- The tokens of a text. Where a quote is never closed, the error points at that quote. -/
def tokenize (input : String) : Except TokenizerError (List Token) :=
  match lex input.toList with
  | .ok tokens => .ok tokens
  | .error rest =>
    let position := input.utf8ByteSize - TokenizerError.byteCount rest
    .error (TokenizerError.atPosition "unrecognized token" position input)

end ContextualQuery.Token
