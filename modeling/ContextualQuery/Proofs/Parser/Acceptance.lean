import ContextualQuery.Parser
import ContextualQuery.Proofs.Parser.Completeness
import ContextualQuery.Proofs.Parser.Soundness

/-!
# The texts that are accepted

A sequence of tokens is read as a query exactly if it has a derivation, and the result is the tree
of that derivation: what the parser can read is a derivation, and each derivation is read. A text
is accepted exactly if it can be split into tokens that have a derivation.
-/

namespace ContextualQuery

open Production ParserState

variable {options : Options} {tokens : List Token} {tree : Tree}

/-- A query that was matched is accepted if no token remains. -/
theorem finish_eq_ok_iff (state : ParserState) (tree result : Tree) :
    state.cursor.finish tree = .ok result ↔ state.remaining = [] ∧ tree = result := by
  rw [Cursor.finish, current?_eq_head?]
  cases state.remaining with
  | nil => simp
  | cons token rest => simp

/-- The state in which the reading of tokens starts. -/
def ParserState.initial (tokens : List Token) : ParserState :=
  { cursor := Cursor.start tokens, chains := [] }

/-- At the start all tokens remain. -/
@[simp] theorem remaining_initial (tokens : List Token) : (initial tokens).remaining = tokens := by
  simp [initial, remaining, Cursor.start]

/-- Tokens are accepted if the grammar takes all of them. -/
theorem outcome_ofTokens_eq_ok_iff :
    (Reading.ofTokens options tokens).outcome = .ok tree ↔
      tokens ≠ [] ∧ ∃ after, Grammar.query options (tokens.length + 1) (initial tokens) =
        (.matched tree, after) ∧ after.remaining = [] := by
  rw [Reading.ofTokens]
  cases tokens with
  | nil => simp
  | cons token rest =>
    rw [if_neg (by simp)]
    dsimp only
    rw [← initial]
    cases ended : Grammar.query options ((token :: rest).length + 1) (initial (token :: rest)) with
    | mk attempt after =>
      cases attempt with
      | matched result =>
        rw [finish_eq_ok_iff]
        constructor
        · rintro ⟨nothing, rfl⟩
          exact ⟨by simp, after, rfl, nothing⟩
        · rintro ⟨-, after', same, nothing⟩
          obtain ⟨rfl, rfl⟩ : result = tree ∧ after = after' := by simpa using same
          exact ⟨nothing, rfl⟩
      | mismatch => simp
      | rejected rejection => simp
      | unfinished => simp

/-- Accepted tokens have a derivation with the tree. -/
theorem exists_chain_of_ofTokens (accepted : (Reading.ofTokens options tokens).outcome = .ok tree) :
    ∃ chain : Chain, chain.Formed options ∧ chain.tokens = tokens ∧ chain.tree = tree := by
  obtain ⟨-, after, ended, nothing⟩ := outcome_ofTokens_eq_ok_iff.mp accepted
  obtain ⟨words, moves, chain, formed, rfl, rfl⟩ := (Grammar.reads_query _ _).matched ended
  have all := moves.remaining_eq
  rw [nothing, remaining_initial, List.append_nil] at all
  exact ⟨chain, formed, all.symm, rfl⟩

/-- Tokens with a derivation are accepted with its tree. -/
theorem ofTokens_of_chain {chain : Chain} (formed : chain.Formed options) :
    (Reading.ofTokens options chain.tokens).outcome = .ok chain.tree := by
  obtain ⟨first, back, shape, -⟩ := Grammar.head_of_formed formed.head
  obtain ⟨after, ended, moves⟩ := Grammar.takes_query formed (Nat.le_refl _)
    (initial chain.tokens) [] (by simp) (by simp [Grammar.EndsQuery])
  refine outcome_ofTokens_eq_ok_iff.mpr ⟨by simp [Chain.tokens, shape], after, ended, ?_⟩
  exact moves.remaining_of_append (by simp)

/-- The tree of a query does not depend on how its tokens are derived. -/
theorem tree_eq_of_tokens_eq {chain other : Chain} (formed : chain.Formed options)
    (otherFormed : other.Formed options) (same : chain.tokens = other.tokens) :
    chain.tree = other.tree := by
  have accepted := ofTokens_of_chain otherFormed
  rw [← same, ofTokens_of_chain formed] at accepted
  simpa using accepted

variable {text : String}

/-- A text that is split into tokens is read as these are. -/
theorem parseWith_of_tokenize {text : String} (split : Token.tokenize text = .ok tokens) :
    Tree.parseWith options text = (Reading.ofTokens options tokens).outcome := by
  rw [Tree.parseWith, Reading.ofText, split]

/-- The tokens of an accepted text have a derivation with the tree of the text. -/
theorem exists_chain_of_parseWith (accepted : Tree.parseWith options text = .ok tree) :
    ∃ chain : Chain, Token.tokenize text = .ok chain.tokens ∧ chain.Formed options ∧
      chain.tree = tree := by
  rw [Tree.parseWith, Reading.ofText] at accepted
  cases split : Token.tokenize text with
  | error error => simp [split] at accepted
  | ok tokens =>
    rw [split] at accepted
    obtain ⟨chain, formed, rfl, same⟩ := exists_chain_of_ofTokens accepted
    exact ⟨chain, rfl, formed, same⟩

/-- A text whose tokens have a derivation is accepted with the tree of the derivation. -/
theorem parseWith_of_chain {chain : Chain} (split : Token.tokenize text = .ok chain.tokens)
    (formed : chain.Formed options) : Tree.parseWith options text = .ok chain.tree := by
  rw [Tree.parseWith, Reading.ofText, split]
  exact ofTokens_of_chain formed

/-- A text is accepted exactly if its tokens have a derivation, and then with the tree of it.

Proof: the parser reads only what has a derivation, and it takes every derivation to its end. -/
theorem parseWith_eq_ok_iff (options : Options) (text : String) (tree : Tree) :
    Tree.parseWith options text = .ok tree ↔
      ∃ chain : Chain, Token.tokenize text = .ok chain.tokens ∧ chain.Formed options ∧
        chain.tree = tree := by
  constructor
  · exact exists_chain_of_parseWith
  · rintro ⟨chain, split, formed, rfl⟩
    exact parseWith_of_chain split formed

end ContextualQuery
