import ContextualQuery.Number.Decimal
import ContextualQuery.Options
import ContextualQuery.Parser.Production

/-!
# The grammar

The productions of the query language:

    query         = scopedClause
    scopedClause  = searchClause *(boolean searchClause)
    searchClause  = "(" query ")" / term relation term / term
    relation      = comparitor [modifier]
    modifier      = "/" "boost" "=" number
    boolean       = "and" / "or" / "not"
    term          = any token without a structural character at its front

A search clause with an index is tried before a bare term. Features of the full language that are
recognised but not supported end the reading: a prefix assignment after `>`, the boolean `prox`,
modifiers of booleans, a comparitor or modifier name that the options leave out, a modifier other than
`boost`, and a second modifier. A query in parentheses is read by a production that is passed to the
others, so the depth of nesting is the only recursion.
-/

namespace ContextualQuery.Grammar

open Production

/-- A boost is a finite number that starts with a digit or a point, so without a sign. -/
def isBoostValue (text : String) : Bool :=
  (text.toList.head?.any fun c => c.isDigit || c == '.') &&
    (Binary64.read? text).any Binary64.isFinite

/-- A term: the next token without its quotes. A structural token is not taken. -/
def term : Production Tree := do
  match ← peek with
  | none => fail
  | some token =>
    if token.startsStructural then fail
    else do
      let _ ← next
      return Tree.term token.unquote

/-- An index. -/
def index : Production Tree := Tree.index <$> term

/-- A search term. -/
def searchTerm : Production Tree := Tree.searchTerm <$> term

/-- A modifier: a slash, the name, an equals sign and the value. -/
def modifier (options : Options) : Production Tree := do
  expect "/"
  match ← peek with
  | none => fail
  | some name =>
    if name.startsStructural then fail
    else if !options.supportsModifierName name.text then reject (.modifierName name.text) name
    else if name.text ≠ boostModifier then reject (.modifier name.text) name
    else do
      let _ ← next
      expect "="
      let value ← term
      if value.text?.any isBoostValue then
        return Tree.modifier (Tree.identifier name.text) (Tree.comparitor "=") value
      else fail

/-- The modifiers of a relation. Only one is supported. -/
def modifierList (options : Options) : Production Tree := do
  let only ← modifier options
  if ← sees "/" then reject .severalModifiers ⟨"/"⟩
  else return Tree.modifierList [only]

/-- A comparitor: a symbol or a name of the language, as it is written. -/
def comparitor (options : Options) : Production Tree := do
  match ← peek with
  | none => fail
  | some token =>
    if !isComparitor token.text then fail
    else if !options.supportsComparitor token.text then reject (.comparitor token.text) token
    else do
      let _ ← next
      return Tree.comparitor token.text

/-- A relation: a comparitor and its modifiers, if a slash follows it. -/
def relation (options : Options) : Production Tree := do
  let comparitor ← comparitor options
  if ← sees "/" then
    let modifiers ← modifierList options
    return Tree.relation comparitor (some modifiers)
  else return Tree.relation comparitor none

/-- A boolean, in any mixture of cases. -/
def boolean : Production Tree := do
  match ← peek with
  | none => fail
  | some token =>
    let operator := Text.lower token.text
    if operator = "prox" then reject .proximity token
    else if operator = "and" ∨ operator = "or" ∨ operator = "not" then do
      let _ ← next
      return Tree.boolean operator
    else fail

/-- A boolean between two clauses. Its modifiers are not supported. -/
def booleanGroup : Production Tree := do
  let operator ← boolean
  if ← sees "/" then reject .booleanModifiers ⟨"/"⟩
  else return operator

/-- An index, a relation and a search term. -/
def indexedClause (options : Options) : Production Tree := do
  let index ← index
  let relation ← relation options
  let searchTerm ← searchTerm
  return Tree.indexedSearchClause index relation searchTerm

/-- A query in parentheses. -/
def group (query : Production Tree) : Production Tree := do
  let _ ← next
  let inner ← query
  expect ")"
  return Tree.group inner

/-- A search clause. A query in parentheses is read by the given production. -/
def searchClause (options : Options) (query : Production Tree) : Production Tree := do
  if ← sees "(" then bookmarked (group query)
  else orElse (bookmarked (indexedClause options)) (Tree.searchClause <$> searchTerm)

/-- A boolean and the clause after it. -/
def link (clause : Production Tree) : Production Tree.Link := do
  let operator ← booleanGroup
  let next ← clause
  return (operator, next)

/-- As many links as there are, within a number of steps. -/
def links (clause : Production Tree) : Nat → Production (List Tree.Link)
  | 0 => stop
  | steps + 1 => do
    match ← optional (bookmarked (link clause)) with
    | none => return []
    | some first => return first :: (← links clause steps)

/-- A scoped clause: a chain of clauses. The size of a chain with links is recorded. -/
def scopedClause (clause : Production Tree) : Production Tree := do
  let head ← clause
  let following ← withSteps (links clause)
  if !following.isEmpty then recordChain (Tree.chainSize following)
  return Tree.chain head following

/-- A prefix assignment, which is recognised by the token after its mark, and rejected. -/
def prefixAssignment : Production Tree := do
  match ← next with
  | none => fail
  | some mark => do
    let _ ← term
    reject .prefixAssignment mark

/-- A query whose clauses are read by the given production. -/
def cqlQuery (clause : Production Tree) : Production Tree := do
  if ← sees ">" then bookmarked prefixAssignment
  else Tree.cqlQuery <$> scopedClause clause

/-- A query with parentheses nested less deep than a bound. -/
def query (options : Options) : Nat → Production Tree
  | 0 => stop
  | depth + 1 => cqlQuery (searchClause options (query options depth))

end ContextualQuery.Grammar
