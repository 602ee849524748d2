import ContextualQuery.Text.Blank

/-!
# Tokens

A query is read as a sequence of tokens: punctuation, quoted terms with their quotes, and bare words.
A token is known by its text alone. This module also holds the two directions between a term and the
text that writes it: quoting, which escapes quotes, and unquoting, which takes the quotes and the
escapes away again.
-/

namespace ContextualQuery

/-- A token, by its text. -/
structure Token where
  text : String
deriving DecidableEq, Repr

namespace Token

/-- The characters that punctuation starts with. They end a bare word. -/
def isStructural (c : Char) : Bool :=
  c == '(' || c == ')' || c == '>' || c == '=' || c == '<' || c == '/'

/-- A character of a bare word. -/
def isBare (c : Char) : Bool := !(c == '"' || isStructural c || Text.isBlank c)

/-- The token starts with a structural character, so it cannot be a term. -/
def startsStructural (token : Token) : Bool :=
  match token.text.toList with
  | [] => false
  | c :: _ => isStructural c

/-- The characters between two quotes at the ends of a text. -/
def interior? : List Char → Option (List Char)
  | '"' :: rest => if rest.getLast? = some '"' then some rest.dropLast else none
  | _ => none

/-- The token stands between quotes. -/
def isQuoted (token : Token) : Bool := (interior? token.text.toList).isSome

/-- The characters with every quote escaped by a backslash. Backslashes are kept as they are. -/
def escapeQuotes : List Char → List Char
  | [] => []
  | c :: rest => if c = '"' then '\\' :: '"' :: escapeQuotes rest else c :: escapeQuotes rest

/-- The characters with every escaped quote read as a quote. -/
def unescapeQuotes : List Char → List Char
  | '\\' :: '"' :: rest => '"' :: unescapeQuotes rest
  | c :: rest => c :: unescapeQuotes rest
  | [] => []

/-- The term that a token writes: without quotes and escapes if it is quoted, else as it stands. -/
def unquote (token : Token) : String :=
  match interior? token.text.toList with
  | some characters => String.ofList (unescapeQuotes characters)
  | none => token.text

/-- A term must be quoted when it is empty or has a character that no bare word has. -/
def needsQuotes (term : String) : Bool := term.isEmpty || term.toList.any (!isBare ·)

/-- The text that writes a term, with quotes where they are needed. -/
def quoteTerm (term : String) : String :=
  if needsQuotes term then String.ofList ('"' :: (escapeQuotes term.toList ++ ['"'])) else term

/-- An escaped text does not start with a quote, because the backslash comes first. -/
theorem escapeQuotes_ne_quote (chars rest : List Char) : escapeQuotes chars ≠ '"' :: rest := by
  cases chars with
  | nil => simp [escapeQuotes]
  | cons c tail =>
    by_cases quote : c = '"'
    · simp [escapeQuotes, quote]
    · simp [escapeQuotes, quote]

/-- A character that does not start an escape is kept. -/
theorem unescapeQuotes_cons {c : Char} {rest : List Char}
    (plain : c = '\\' → ∀ tail, rest ≠ '"' :: tail) :
    unescapeQuotes (c :: rest) = c :: unescapeQuotes rest := by
  rw [unescapeQuotes]
  intro tail slash quote
  exact plain slash tail quote

/-- Reading escaped quotes undoes writing them. -/
theorem unescapeQuotes_escapeQuotes (chars : List Char) :
    unescapeQuotes (escapeQuotes chars) = chars := by
  induction chars with
  | nil => rfl
  | cons c rest inductionHypothesis =>
    by_cases quote : c = '"'
    · simp [escapeQuotes, quote, unescapeQuotes, inductionHypothesis]
    · rw [escapeQuotes, if_neg quote, unescapeQuotes_cons, inductionHypothesis]
      intro _ tail
      exact escapeQuotes_ne_quote rest tail

end Token

end ContextualQuery
