import ContextualQuery.Text.Search
import ContextualQuery.Token.Error
import ContextualQuery.Tree.Printer

/-!
# Query errors

A query fails in one of three ways: a fragment of the text is no token, the tokens do not follow the
grammar, or the query is well formed but uses a feature that is not supported. The causes are listed
here with their wording; an error carries the wording, the token it points at, and for a query that
ends too late the tree of its accepted beginning.
-/

namespace ContextualQuery

/-- A feature of the language that is not supported. -/
inductive Feature where
  | prefixAssignment
  | booleanModifiers
  | proximity
  | comparitor (token : String)
  | severalModifiers
  | modifierName (token : String)
  | modifier (token : String)
  | luceneRelation (spelling : String)
deriving DecidableEq, Repr

/-- The wording of a feature. -/
def Feature.wording : Feature → String
  | .prefixAssignment => "prefix assignment (>)"
  | .booleanModifiers => "modifier lists on boolean groups"
  | .proximity => "boolean 'prox'"
  | .comparitor token => "comparitor '" ++ token ++ "'"
  | .severalModifiers => "more than one modifier on a relation"
  | .modifierName token => "modifier name '" ++ token ++ "'"
  | .modifier token => "modifier '" ++ token ++ "'"
  | .luceneRelation spelling => "relation '" ++ spelling ++ "' in Lucene output"

/-- A supported feature is missing: its wording, and the token at which it was met. -/
structure UnsupportedError where
  feature : String
  token? : Option String
deriving DecidableEq, Repr

/-- The error for a feature that was met at a token. -/
def UnsupportedError.ofFeature (feature : Feature) (token : String) : UnsupportedError :=
  { feature := feature.wording, token? := some token }

/-- A way in which tokens, or a tree, do not follow the grammar. -/
inductive Mismatch where
  | noTokens
  | unexpectedEnd
  | unexpectedToken (token : String)
  | trailingToken (token : String)
  | malformed (kind : Kind) (tree : Tree)

/-- The wording of a mismatch. -/
def Mismatch.wording : Mismatch → String
  | .noTokens => "no tokens found, at least one token expected"
  | .unexpectedEnd => "unexpected end of query"
  | .unexpectedToken token => "unexpected token '" ++ token ++ "'"
  | .trailingToken token => "unexpected token '" ++ token ++ "' after query"
  | .malformed kind tree => "malformed " ++ kind.name ++ " node: " ++ tree.display

/-- Tokens that do not follow the grammar: the wording, the token at fault with its place, and the
tree of the accepted tokens before it. -/
structure ParseError where
  message : String
  token? : Option String
  tokenIndex? : Option Nat
  accepted? : Option Tree
deriving DecidableEq

namespace ParseError

/-- An error that points at no token. -/
def ofMessage (message : String) : ParseError :=
  { message, token? := none, tokenIndex? := none, accepted? := none }

/-- An error that points at a token. -/
def atToken (message token : String) (index : Nat) : ParseError :=
  { message, token? := some token, tokenIndex? := some index, accepted? := none }

/-- The error with the tree of the tokens that were accepted before it. -/
def withAccepted (error : ParseError) (tree : Tree) : ParseError :=
  { error with accepted? := some tree }

/-- The error for a node that has none of the shapes the parser builds. -/
def malformed (tree : Tree) : ParseError :=
  ofMessage ((tree.kind?.map fun kind => Mismatch.malformed kind tree).getD .unexpectedEnd).wording

/-- The report on a malformed node names the kind of the node and shows its display. -/
theorem malformed_node (kind : Kind) (children : List Tree) :
    malformed (.node kind children) =
      ofMessage (Mismatch.malformed kind (.node kind children)).wording := rfl

end ParseError

/-- The failure of a query. -/
inductive QueryError where
  | tokenize (error : TokenizerError)
  | parse (error : ParseError)
  | unsupported (error : UnsupportedError)
deriving DecidableEq

namespace QueryError

/-- The wording of the failure alone. -/
def message : QueryError → String
  | .tokenize error => error.message
  | .parse error => error.message
  | .unsupported error => error.feature

/-- The failure as it is reported. -/
def display : QueryError → String
  | .tokenize error => error.formatWithContext
  | .parse error => error.message
  | .unsupported error => "unsupported CQL: " ++ error.feature

/-- The query is well formed but not supported. -/
def isUnsupported : QueryError → Bool
  | .unsupported _ => true
  | _ => false

/-- A hint at what to change, where the wording of the failure suggests one. -/
def suggestion? : QueryError → Option String
  | .tokenize error =>
    if error.fragment.toList.head? = some '"' then
      some "Add a closing quote (\") to complete the term"
    else none
  | .parse error =>
    if Text.occursIn "end of query" error.message then
      some "The query ends early; check for a missing term or closing parenthesis"
    else none
  | .unsupported error =>
    if Text.occursIn "prox" error.feature then
      some "Proximity searches are not supported; use AND instead"
    else if Text.occursIn "prefix" error.feature then
      some "Remove the '>' prefix assignment and use plain index names"
    else if Text.occursIn "modifier" error.feature then
      some "Only a single '/boost=<number>' modifier on a relation is supported"
    else none

end QueryError

end ContextualQuery
