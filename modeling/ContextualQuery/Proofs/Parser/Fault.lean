import ContextualQuery.Proofs.Parser.Restriction
import ContextualQuery.Proofs.Rendering.Spacing

/-!
# The token at fault

An error without an accepted beginning points at the first token with which the tokens cannot be
continued. Those before it can: some text that starts with them is accepted, or rejected because of
a feature. With the token at fault behind them, every text fails again, whatever follows. If the
error points at no token, all tokens fit, and the text only ends too early.

The place that the error points at is the furthest one that was looked at in any alternative. That
this is the place where the walk through the tokens stops is what makes the error exact.
-/

namespace ContextualQuery

/-- Some text whose tokens start with the given ones is accepted, or rejected because of a
feature. -/
def Continuable (options : Options) (front : List Token) : Prop :=
  ∃ text rest, Token.tokenize text = .ok (front ++ rest) ∧
    ((∃ tree, Tree.parseWith options text = .ok tree) ∨
      ∃ error, Tree.parseWith options text = .error (.unsupported error))

variable {options : Options} {tokens front rest : List Token} {next : Standing} {token : Token}

/-- To allow only some names of modifiers is a restriction. -/
theorem restricts_modifierNames (options : Options) :
    options.Restricts (options.withModifierNames .any) := by
  constructor
  · intro text _ supported
    exact supported
  · intro name _
    rfl

/-- Behind the mark of a prefix assignment, a term is rejected. -/
theorem rejected_of_assignment (walked : Standing.walk options ⟨.query, 0⟩ front = some next)
    (assigned : next.place = .assignment) (isTerm : token.IsTerm) :
    Fate.ofTokens options (front ++ [token]) =
      .rejected (0 + front.length) .prefixAssignment ⟨">"⟩ := by
  rw [Fate.ofTokens, Standing.fate_append walked]
  apply Standing.fate_rejected
  simp [Standing.step, assigned, isTerm]

/-- Tokens that fit can be continued to tokens that are accepted, or rejected because of a
feature. -/
theorem exists_continuation (walked : Standing.walk options ⟨.query, 0⟩ front = some next) :
    ∃ rest, (∀ token ∈ rest, Token.IsLexeme token.text.toList) ∧
      ((∃ tree, (Reading.ofTokens options (front ++ rest)).outcome = .ok tree) ∨
        ∃ error, (Reading.ofTokens options (front ++ rest)).outcome =
          .error (.unsupported error)) := by
  by_cases assigned : next.place = .assignment
  · have word := Standing.isLexeme_completion ⟨.query, 0⟩
    have isTerm : Token.IsTerm ⟨"x"⟩ := by decide
    have rejected := rejected_of_assignment walked assigned isTerm
    exact ⟨[⟨"x"⟩], word, .inr ⟨_, unsupported_of_rejected rejected⟩⟩
  · -- the completion is a query under wider options, and these only accept more
    refine ⟨next.completion, next.isLexeme_completion, ?_⟩
    obtain ⟨chain, formed, derived⟩ := (fits_of_walk walked).derives assigned
    have accepted := ofTokens_of_chain formed
    rw [derived] at accepted
    rcases (restricts_modifierNames options).ofTokens (front ++ next.completion) with
      same | ⟨_, _, _, unsupported, _⟩
    · exact .inl ⟨chain.tree, same.trans accepted⟩
    · exact .inr ⟨_, unsupported⟩

/-- Words that fit are the beginning of a text that is accepted or rejected. -/
theorem continuable_of_walk (words : ∀ token ∈ front, Token.IsLexeme token.text.toList)
    (walked : Standing.walk options ⟨.query, 0⟩ front = some next) :
    Continuable options front := by
  obtain ⟨rest, more, ends⟩ := exists_continuation walked
  obtain ⟨text, split⟩ := Token.exists_tokenize (List.forall_mem_append.mpr ⟨words, more⟩)
  rw [← parseWith_of_tokenize split] at ends
  exact ⟨text, rest, split, ends⟩

/-- With a token that does not fit, no continuation is accepted or rejected. -/
theorem parseError_of_stuck (walked : Standing.walk options ⟨.query, 0⟩ front = some next)
    (stuck : next.step options token = .stuck) (rest : List Token) :
    ∃ error, (Reading.ofTokens options (front ++ token :: rest)).outcome =
      .error (.parse error) := by
  have stopped : Fate.ofTokens options (front ++ token :: rest) = .stopped (0 + front.length) := by
    rw [Fate.ofTokens, Standing.fate_append walked]
    apply Standing.fate_stuck
    simpa using stuck
  apply parseError_of_stopped stopped
  simp

/-- An error without an accepted beginning is exact. If it points at a token, this is the one at its
index, the tokens before can be continued, and every continuation of the tokens up to it fails. If it
points at no token, all the tokens can be continued.

Proof: the error stands where the walk over the tokens is stuck or comes to the end. What was walked can
be continued, and a token at which the walk is stuck fails whatever follows it. -/
theorem parseError_exact (options : Options) (text : String) (tokens : List Token)
    (error : ParseError) (split : Token.tokenize text = .ok tokens) (nonempty : tokens ≠ [])
    (failed : Tree.parseWith options text = .error (.parse error))
    (nothing : error.accepted? = none) :
    (∀ index, error.tokenIndex? = some index →
      (∃ token, tokens[index]? = some token ∧ error.token? = some token.text) ∧
      Continuable options (tokens.take index) ∧
      ∀ rest, ∃ later, (Reading.ofTokens options (tokens.take (index + 1) ++ rest)).outcome =
        .error (.parse later)) ∧
    (error.tokenIndex? = none → Continuable options tokens) := by
  rw [parseWith_of_tokenize split] at failed
  obtain ⟨place, stopped, rfl⟩ := exists_stopped_of_parseError nonempty failed nothing
  obtain ⟨front, behind, next, rfl, rfl, walked, stuck⟩ := Standing.exists_walk_of_stopped stopped
  have words := List.forall_mem_append.mp (Token.isLexeme_of_tokenize split)
  have continuable := continuable_of_walk words.1 walked
  cases behind with
  | nil =>
    constructor
    · intro index pointed
      simp [ParseError.stoppedAt, ParseError.ofMessage] at pointed
    · intro _
      simpa using continuable
  | cons token behind =>
    have stuck : next.step options token = .stuck := stuck token rfl
    constructor
    · intro index pointed
      obtain rfl : front.length = index := by
        simpa [ParseError.stoppedAt, ParseError.atToken] using pointed
      refine ⟨⟨token, by simp, by simp [ParseError.stoppedAt, ParseError.atToken]⟩, ?_, ?_⟩
      · simpa using continuable
      · intro rest
        rw [List.take_length_add_append]
        simpa using parseError_of_stuck walked stuck rest
    · intro pointed
      simp [ParseError.stoppedAt, ParseError.atToken] at pointed

/-- The closing parenthesis is at fault, not the comparitor at which the group is given up after the
index was taken back. -/
theorem parseError_exact_group :
    ∃ error : ParseError, Token.tokenize "(a = )" = .ok [⟨"("⟩, ⟨"a"⟩, ⟨"="⟩, ⟨")"⟩] ∧
      Tree.parseWith Options.standard "(a = )" = .error (.parse error) ∧
      error.accepted? = none ∧ error.tokenIndex? = some 3 ∧ error.token? = some ")" ∧
      Continuable Options.standard [⟨"("⟩, ⟨"a"⟩, ⟨"="⟩] ∧
      ∀ rest, ∃ later, (Reading.ofTokens Options.standard
        ([⟨"("⟩, ⟨"a"⟩, ⟨"="⟩, ⟨")"⟩] ++ rest)).outcome = .error (.parse later) := by
  have split : Token.tokenize "(a = )" = .ok [⟨"("⟩, ⟨"a"⟩, ⟨"="⟩, ⟨")"⟩] := by cbv
  have failed : Tree.parseWith Options.standard "(a = )" =
      .error (.parse (.atToken (Mismatch.unexpectedToken ")").wording ")" 3)) := by
    rw [parseWith_of_tokenize split]
    decide +kernel
  obtain ⟨pointed, -⟩ := parseError_exact _ _ _ _ split (by simp) failed rfl
  obtain ⟨-, continuable, others⟩ := pointed 3 rfl
  exact ⟨_, split, failed, rfl, rfl, rfl, continuable, others⟩

end ContextualQuery
