import ContextualQuery.Proofs.Expression.Derived
import ContextualQuery.Proofs.Expression.Value
import ContextualQuery.Proofs.Parser.Acceptance

/-!
# The meaning of queries

The value of a query under an assignment of truth values to searches, read off its tokens: a chain
is cut at its `or` into runs, a run is evaluated from the left, where `and` asks for both sides and
`not` for the left side without the right one, and the query holds if one of its runs does.

The expression of a query has this value. It hides negations in flags and drops levels of nesting,
so the proof follows the derivation: every clause asks for an expression that is not negated itself,
and whose value comes from those of the parts.
-/

namespace ContextualQuery

variable {α : Type}

/-! ### The reference -/

/-- Cuts what is left of a chain at its `or`, behind the run read so far. -/
def runsFrom (head : α) (run : List (Token × α)) :
    List (Token × α) → List (α × List (Token × α))
  | [] => [(head, run)]
  | (boolean, next) :: rest =>
    if Text.lower boolean.text = "or" then (head, run) :: runsFrom next [] rest
    else runsFrom head (run ++ [(boolean, next)]) rest

/-- The value of `left and right` or `left not right`. -/
def linkValue (left : Bool) (link : Token × Bool) : Bool :=
  if Text.lower link.1.text = "not" then left && !link.2 else left && link.2

/-- The value of a run, from the left. -/
def runValue (run : Bool × List (Token × Bool)) : Bool := run.2.foldl linkValue run.1

/-- The value of a chain: one of its runs holds. -/
def chainValue (head : Bool) (links : List (Token × Bool)) : Bool :=
  (runsFrom head [] links).any runValue

namespace Clause

mutual

/-- The value of a clause under an assignment. -/
def value (assignment : Leaf → Bool) : Clause → Bool
  | .word term => assignment { term := term.unquote }
  | .indexed index comparitor term =>
    assignment
      { index? := some index.unquote, relation? := some comparitor.text, term := term.unquote }
  | .boosted index comparitor boost term =>
    assignment
      { index? := some index.unquote
        relation? := some comparitor.text
        term := term.unquote
        boost? := Binary64.read? boost.unquote }
  | .group head links => chainValue (value assignment head) (linkValues assignment links)

/-- The booleans of links with the values of their clauses. -/
def linkValues (assignment : Leaf → Bool) : List (Token × Clause) → List (Token × Bool)
  | [] => []
  | (boolean, clause) :: rest => (boolean, value assignment clause) :: linkValues assignment rest

end

end Clause

/-- The value of a query under an assignment. -/
def Chain.value (assignment : Leaf → Bool) (chain : Chain) : Bool :=
  chainValue (chain.head.value assignment) (Clause.linkValues assignment chain.links)

/-- The value of a chain behind the value of the run read so far. -/
def valueBehind (run : Bool) : List (Token × Bool) → Bool
  | [] => run
  | (boolean, next) :: rest =>
    if Text.lower boolean.text = "or" then run || valueBehind next rest
    else valueBehind (linkValue run (boolean, next)) rest

/-- The runs need not be kept: the value of the run read so far is enough. -/
theorem any_runsFrom (head : Bool) (run links : List (Token × Bool)) :
    (runsFrom head run links).any runValue = valueBehind (runValue (head, run)) links := by
  induction links generalizing head run with
  | nil => simp [runsFrom, valueBehind]
  | cons link rest inductionHypothesis =>
    obtain ⟨boolean, next⟩ := link
    rw [runsFrom, valueBehind]
    split
    · rw [List.any_cons, inductionHypothesis]
      rfl
    · rw [inductionHypothesis]
      simp [runValue]

/-- The value of a chain is the value of its first run and of those behind it. -/
theorem chainValue_eq (head : Bool) (links : List (Token × Bool)) :
    chainValue head links = valueBehind head links :=
  any_runsFrom head [] links

/-! ### The value of the expression -/

namespace Expression

variable (assignment : Leaf → Bool)

/-- A boolean other than `or` links values as it links expressions. -/
theorem value_linked {boolean : Token} (notOr : Text.lower boolean.text ≠ "or")
    (left : Expression) {right : Expression} (plain : right.mustNot = false) :
    (linked boolean left right).value assignment =
      linkValue (left.value assignment) (boolean, right.value assignment) := by
  rw [linked_of_not_or notOr, value_joined, Operator.both, linkSide, linkValue]
  split
  · rw [value_negated assignment plain]
  · rfl

/-- The links that follow a run put their values behind the value of the run. -/
theorem value_linkedAfter (run : Expression) {links : List (Token × Expression)}
    (plain : ∀ link ∈ links, link.2.mustNot = false) :
    (run.linkedAfter links).value assignment =
      valueBehind (run.value assignment)
        (links.map fun link => (link.1, link.2.value assignment)) := by
  induction links generalizing run with
  | nil => rfl
  | cons link rest inductionHypothesis =>
    obtain ⟨boolean, next⟩ := link
    obtain ⟨nextPlain, laterPlain⟩ := List.forall_mem_cons.mp plain
    rw [List.map_cons, valueBehind]
    by_cases isOr : Text.lower boolean.text = "or"
    · rw [if_pos isOr, linkedAfter_cons_or isOr, value_joined, inductionHypothesis next laterPlain,
        Operator.both]
    · rw [if_neg isOr, linkedAfter_cons_run isOr, inductionHypothesis _ laterPlain,
        value_linked assignment isOr run nextPlain]

end Expression

variable (assignment : Leaf → Bool)

/-- The values of the links are those of each link. -/
theorem Clause.linkValues_eq_map (links : List (Token × Clause)) :
    linkValues assignment links = links.map fun link => (link.1, link.2.value assignment) := by
  induction links with
  | nil => rfl
  | cons link rest inductionHypothesis => simp [linkValues, inductionHypothesis]

/-- A chain has its value where its clauses have theirs. -/
theorem Clause.value_linkExpressions {head : Clause} {links : List (Token × Clause)}
    (headValue : head.expression.value assignment = head.value assignment)
    (eachValue : ∀ link ∈ links,
      link.2.expression.value assignment = link.2.value assignment) :
    (head.expression.linkedAfter (linkExpressions links)).value assignment =
      chainValue (head.value assignment) (linkValues assignment links) := by
  have plain : ∀ link ∈ linkExpressions links, link.2.mustNot = false := by
    intro link member
    rw [linkExpressions_eq_map] at member
    obtain ⟨clause, _, rfl⟩ := List.mem_map.mp member
    exact clause.2.mustNot_expression
  have values : (linkExpressions links).map (fun link => (link.1, link.2.value assignment)) =
      linkValues assignment links := by
    rw [linkExpressions_eq_map, linkValues_eq_map, List.map_map]
    apply List.map_congr_left
    intro link member
    rw [Function.comp_apply, eachValue link member]
  rw [Expression.value_linkedAfter assignment _ plain, values, headValue, chainValue_eq]

/-- The expression of a clause has the value of the clause. -/
theorem Clause.value_expression (clause : Clause) :
    clause.expression.value assignment = clause.value assignment := by
  induction clause with
  | word term => simp [expression, value, Expression.ofTerm, Expression.value, Search.leaf]
  | indexed index comparitor term =>
    simp [expression, value, Expression.ofIndexed, Expression.value, Search.leaf]
  | boosted index comparitor boost term =>
    simp [expression, value, Expression.value, Search.leaf]
  | group head links headHypothesis linkHypothesis =>
    rw [expression, value]
    exact value_linkExpressions assignment headHypothesis linkHypothesis

/-- The expression of a query has the value of the query. -/
theorem Chain.value_expression (chain : Chain) :
    chain.expression.value assignment = chain.value assignment := by
  apply Clause.value_linkExpressions assignment (chain.head.value_expression assignment)
  intro link _
  exact link.2.value_expression assignment

/-! ### The value of a query text -/

/-- The tree is normalized to an expression that is not negated, with the values of the meaning. -/
def Tree.Means (tree : Tree) (meaning : (Leaf → Bool) → Bool) : Prop :=
  ∃ expression, tree.normalized = .ok (.expression expression) ∧ expression.mustNot = false ∧
    ∀ assignment, expression.value assignment = meaning assignment

/-- The tree of a query means the value of the query. -/
theorem Chain.Formed.means {options : Options} {chain : Chain} (formed : chain.Formed options) :
    chain.tree.Means fun assignment => chain.value assignment :=
  ⟨chain.expression, formed.normalized, chain.mustNot_expression,
    fun assignment => chain.value_expression assignment⟩

/-- A query text gives an expression, and its value under every assignment is the value that the tokens of
the text have, however they are derived.

Proof: an accepted text has a derivation, whose tree asks for an expression with the value of the
derivation. All derivations of the same tokens have one tree, so the value is that of any other derivation
too. -/
theorem expressionOf_value (text : String) (tree : Tree) (accepted : Tree.parse text = .ok tree) :
    (∃ chain : Chain, Token.tokenize text = .ok chain.tokens ∧ chain.Formed Options.standard) ∧
    ∃ expression, Tree.expressionOf text = .ok expression ∧
      ∀ chain : Chain, Token.tokenize text = .ok chain.tokens → chain.Formed Options.standard →
        ∀ assignment, expression.value assignment = chain.value assignment := by
  obtain ⟨chain, split, formed, rfl⟩ := exists_chain_of_parseWith accepted
  refine ⟨⟨chain, split, formed⟩, ?_⟩
  obtain ⟨expression, found, _, values⟩ := formed.means
  refine ⟨expression, ?_, ?_⟩
  · rw [Tree.expressionOf, accepted]
    change (Normalized.expression chain.tree chain.tree.normalized).mapError _ = _
    rw [found]
    rfl
  · intro other otherSplit otherFormed assignment
    have sameTokens : other.tokens = chain.tokens := by
      simpa using otherSplit.symm.trans split
    obtain ⟨expression', found', _, values'⟩ := otherFormed.means
    rw [tree_eq_of_tokens_eq otherFormed formed sameTokens, found] at found'
    obtain rfl : expression = expression' := by simpa using found'
    exact values' assignment

/-- The negated group is no operand list that the run could take over. -/
theorem expressionOf_value_mixed :
    ∃ expression, Tree.expressionOf "a or b not (c or d) AND e" = .ok expression ∧
      ∀ assignment, expression.value assignment =
        (assignment { term := "a" } ||
          (assignment { term := "b" } &&
              !(assignment { term := "c" } || assignment { term := "d" }) &&
            assignment { term := "e" })) := by
  let disjunction : Clause := .group (.word ⟨"c"⟩) [(⟨"or"⟩, .word ⟨"d"⟩)]
  let links : List (Token × Clause) :=
    [(⟨"or"⟩, .word ⟨"b"⟩), (⟨"not"⟩, disjunction), (⟨"AND"⟩, .word ⟨"e"⟩)]
  let chain : Chain := ⟨.word ⟨"a"⟩, links⟩
  have split : Token.tokenize "a or b not (c or d) AND e" = .ok chain.tokens := by cbv
  have formed : chain.Formed Options.standard := by decide +kernel
  obtain ⟨_, expression, found, values⟩ := expressionOf_value _ _ (parseWith_of_chain split formed)
  refine ⟨expression, found, fun assignment => ?_⟩
  rw [values chain split formed assignment]
  have lowerAnd : Text.lower "AND" = "and" := by decide +kernel
  have lowerOr : Text.lower "or" = "or" := by decide +kernel
  have lowerNot : Text.lower "not" = "not" := by decide +kernel
  simp [chain, links, disjunction, Chain.value, Clause.value, Clause.linkValues, chainValue,
    runsFrom, runValue, linkValue, lowerAnd, lowerOr, lowerNot]
  rfl

end ContextualQuery
