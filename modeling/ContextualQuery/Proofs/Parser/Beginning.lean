import Mathlib.Control.Monad.Basic
import ContextualQuery.Proofs.Parser.Covers
import ContextualQuery.Proofs.Parser.Outcome

/-!
# The accepted beginning

If a query was read and tokens are left behind it, the error holds the tree of the query. What was
read is the longest beginning of the tokens that is accepted: read alone, it has the same tree, and
if a longer beginning were a query, the parser would have got past it. For the same reason no
beginning is accepted if the parser gives up.
-/

namespace ContextualQuery

open Production ParserState

variable {options : Options} {tokens : List Token} {error : ParseError} {tree : Tree}

/-- Tokens fail to be a query because one is left behind a query, or because no query was read. -/
inductive Failure (options : Options) (tokens : List Token) : ParseError → Prop
  | trailing {tree : Tree} {after : ParserState} {token : Token}
      (ended : Grammar.query options (tokens.length + 1) (initial tokens) = (.matched tree, after))
      (left : after.remaining.head? = some token) :
      Failure options tokens
        ((ParseError.atToken (Mismatch.trailingToken token.text).wording token.text
          after.cursor.position).withAccepted tree)
  | mismatch {after : ParserState}
      (ended : Grammar.query options (tokens.length + 1) (initial tokens) = (.mismatch, after)) :
      Failure options tokens after.cursor.mismatchError

/-- If no query was read, the error holds no tree. -/
theorem accepted?_mismatchError (cursor : Cursor) : cursor.mismatchError.accepted? = none := by
  rw [Cursor.mismatchError]
  split <;> rfl

/-- If reading fails with an error of the parser, the error is the one that the place of the failure
calls for. -/
theorem failure_of_parseError (nonempty : tokens ≠ [])
    (failed : (Reading.ofTokens options tokens).outcome = .error (.parse error)) :
    Failure options tokens error := by
  rw [outcome_ofTokens nonempty] at failed
  cases ended : Grammar.query options (tokens.length + 1) (initial tokens) with
  | mk attempt after =>
    rw [ended] at failed
    cases attempt with
    | matched tree =>
      rw [outcomeOf, Cursor.finish, current?_eq_head?] at failed
      cases left : after.remaining.head? with
      | none => simp [left] at failed
      | some token =>
        rw [left] at failed
        obtain rfl := QueryError.parse.inj (Except.error.inj failed)
        exact .trailing ended left
    | mismatch =>
      obtain rfl := QueryError.parse.inj (Except.error.inj failed)
      exact .mismatch ended
    | rejected rejection => simp [outcomeOf] at failed
    | unfinished => exact absurd ended query_ne_unfinished

/-- The parser gets past every beginning that is accepted. -/
theorem covers_of_accepted {size : Nat}
    (accepted : (Reading.ofTokens options (tokens.take size)).outcome = .ok tree) :
    Covers (Grammar.query options (tokens.length + 1)) (initial tokens)
      (tokens.take size).length := by
  obtain ⟨chain, formed, derived, -⟩ := exists_chain_of_ofTokens accepted
  have front : (initial tokens).remaining = chain.tokens ++ tokens.drop size := by
    rw [remaining_initial, derived, List.take_append_drop]
  have enough : chain.tokens.length ≤ tokens.length := by
    rw [derived]
    exact List.length_take_le' _ _
  rw [← derived]
  exact Grammar.covers_query formed enough front

/-- What the parser has read is accepted alone, with the same tree. -/
theorem accepted_of_matched {after : ParserState}
    (ended : Grammar.query options (tokens.length + 1) (initial tokens) = (.matched tree, after)) :
    (Reading.ofTokens options (tokens.take after.cursor.position)).outcome = .ok tree ∧
      after.remaining = tokens.drop after.cursor.position := by
  obtain ⟨words, moves, chain, formed, rfl, rfl⟩ := (Grammar.reads_query _ _).matched ended
  have position : after.cursor.position = chain.tokens.length := by
    simpa [initial, Cursor.start] using moves.position
  have split := moves.remaining_eq
  rw [remaining_initial] at split
  rw [position, split, List.take_left, List.drop_left]
  exact ⟨ofTokens_of_chain formed, rfl⟩

/-- The tree in an error is that of the longest accepted beginning. The error points at the token behind
this beginning, which is accepted alone with the tree, and no longer one is. Without a tree in the error,
no beginning is accepted.

Proof: the parser covers every accepted beginning, so none is longer than the one at whose end it stopped.
-/
theorem parseError_longest (options : Options) (text : String) (tokens : List Token)
    (error : ParseError) (split : Token.tokenize text = .ok tokens)
    (failed : Tree.parseWith options text = .error (.parse error)) :
    (∀ tree, error.accepted? = some tree →
      ∃ index token, error.tokenIndex? = some index ∧ tokens[index]? = some token ∧
        error.token? = some token.text ∧
        (Reading.ofTokens options (tokens.take index)).outcome = .ok tree ∧
        ∀ longer, index < longer → longer ≤ tokens.length →
          ∀ other, (Reading.ofTokens options (tokens.take longer)).outcome ≠ .ok other) ∧
    (error.accepted? = none →
      ∀ size tree, (Reading.ofTokens options (tokens.take size)).outcome ≠ .ok tree) := by
  rw [parseWith_of_tokenize split] at failed
  by_cases nonempty : tokens = []
  · subst nonempty
    obtain rfl := QueryError.parse.inj (Except.error.inj failed)
    constructor
    · intro tree partly
      simp [ParseError.ofMessage] at partly
    · intro _ size tree
      simp [Reading.ofTokens]
  · cases failure_of_parseError nonempty failed with
    | @trailing tree after token ended left =>
      obtain ⟨accepted, remaining⟩ := accepted_of_matched ended
      constructor
      · intro tree' partly
        obtain rfl : tree = tree' := Option.some.inj partly
        refine ⟨after.cursor.position, token, rfl, ?_, rfl, accepted, ?_⟩
        · rw [← List.head?_drop, ← remaining, left]
        · intro longer behind inside other acceptedLonger
          have past := (covers_of_accepted acceptedLonger).matched ended
          rw [List.length_take_of_le inside] at past
          omega
      · intro nothing
        simp [ParseError.withAccepted] at nothing
    | mismatch ended =>
      constructor
      · intro tree partly
        simp [accepted?_mismatchError] at partly
      · intro _ size tree accepted
        exact (covers_of_accepted accepted).mismatch ended

/-- The boolean before a group that is never closed is given up with it. -/
theorem parseError_longest_unclosed :
    ∃ tokens : List Token, ∃ error : ParseError, ∃ tree : Tree,
      tokens = [⟨"a"⟩, ⟨"and"⟩, ⟨"b"⟩, ⟨"or"⟩, ⟨"("⟩, ⟨"c"⟩] ∧
      Token.tokenize "a and b or (c" = .ok tokens ∧
      Tree.parseWith Options.standard "a and b or (c" = .error (.parse error) ∧
      error.accepted? = some tree ∧ error.tokenIndex? = some 3 ∧ error.token? = some "or" ∧
      (Reading.ofTokens Options.standard (tokens.take 3)).outcome = .ok tree ∧
      ∀ longer, 3 < longer → longer ≤ tokens.length → ∀ other,
        (Reading.ofTokens Options.standard (tokens.take longer)).outcome ≠ .ok other := by
  let chain : Chain := ⟨.word ⟨"a"⟩, [(⟨"and"⟩, .word ⟨"b"⟩)]⟩
  have split : Token.tokenize "a and b or (c" =
      .ok [⟨"a"⟩, ⟨"and"⟩, ⟨"b"⟩, ⟨"or"⟩, ⟨"("⟩, ⟨"c"⟩] := by cbv
  have failed : Tree.parseWith Options.standard "a and b or (c" =
      .error (.parse ((ParseError.atToken (Mismatch.trailingToken "or").wording "or" 3).withAccepted
        chain.tree)) := by
    rw [parseWith_of_tokenize split]
    decide +kernel
  obtain ⟨partly, -⟩ := parseError_longest _ _ _ _ split failed
  obtain ⟨index, token, pointed, _, _, accepted, longest⟩ := partly chain.tree rfl
  obtain rfl : 3 = index := Option.some.inj pointed
  exact ⟨_, _, chain.tree, rfl, split, failed, rfl, rfl, rfl, accepted, longest⟩

end ContextualQuery
