import ContextualQuery.Parser.Grammar
import ContextualQuery.Token.Lexer

/-!
# Reading queries

A query text is split into tokens, and the tokens are read as one query that must use all of them.
Parentheses cannot be nested deeper than there are tokens, so that many levels are always enough.
-/

namespace ContextualQuery

/-- The reading of a sequence of tokens: its outcome, the sizes of the chains that were completed on
the way, and the rejection that ended it, if one did. -/
structure Reading where
  outcome : Except QueryError Tree
  chains : List Tree.ChainSize
  rejection? : Option Rejection

/-- The error for tokens that no production matched: the furthest token looked at is at fault. -/
def Cursor.mismatchError (cursor : Cursor) : ParseError :=
  match cursor.get? cursor.furthest with
  | some token =>
    ParseError.atToken (Mismatch.unexpectedToken token.text).wording token.text cursor.furthest
  | none => ParseError.ofMessage Mismatch.unexpectedEnd.wording

/-- The outcome of a query that was matched: its tree, if no token is left. -/
def Cursor.finish (cursor : Cursor) (tree : Tree) : Except QueryError Tree :=
  match cursor.current? with
  | none => .ok tree
  | some token =>
    let error :=
      ParseError.atToken (Mismatch.trailingToken token.text).wording token.text cursor.position
    .error (.parse (error.withAccepted tree))

namespace Reading

/-- Reads tokens as one query. -/
def ofTokens (options : Options) (tokens : List Token) : Reading :=
  if tokens.isEmpty then
    { outcome := .error (.parse (ParseError.ofMessage Mismatch.noTokens.wording))
      chains := []
      rejection? := none }
  else
    let start : ParserState := { cursor := Cursor.start tokens, chains := [] }
    match Grammar.query options (tokens.length + 1) start with
    | (.matched tree, after) =>
      { outcome := after.cursor.finish tree, chains := after.chains, rejection? := none }
    | (.rejected rejection, after) =>
      { outcome :=
          .error (.unsupported
            (UnsupportedError.ofFeature rejection.feature rejection.token.text))
        chains := after.chains
        rejection? := some rejection }
    | (_, after) =>
      { outcome := .error (.parse after.cursor.mismatchError)
        chains := after.chains
        rejection? := none }

/-- Reads a text as one query. -/
def ofText (options : Options) (text : String) : Reading :=
  match Token.tokenize text with
  | .ok tokens => ofTokens options tokens
  | .error error => { outcome := .error (.tokenize error), chains := [], rejection? := none }

end Reading

namespace Tree

/-- The tree of a query text under some options. -/
def parseWith (options : Options) (text : String) : Except QueryError Tree :=
  (Reading.ofText options text).outcome

/-- The tree of a query text under the standard options. -/
def parse (text : String) : Except QueryError Tree := parseWith Options.standard text

end Tree

end ContextualQuery
