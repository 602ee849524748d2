import ContextualQuery.Proofs.Parser.Acceptance
import ContextualQuery.Proofs.Parser.Fates

/-!
# Outcomes and fates

The outcome of reading tokens agrees with the fate of the tokens: they are rejected exactly if the
walk through them is, with the same feature; and where no query can be read, the error points at the
place where the walk stops. Tokens behind which the walk has stopped before their end are not
accepted, whatever follows them.
-/

namespace ContextualQuery

open Production ParserState

/-- The fate of the tokens of a query. -/
def Fate.ofTokens (options : Options) (tokens : List Token) : Fate :=
  Standing.fate options ⟨.query, 0⟩ 0 tokens

/-- The error for tokens that stop at a place: the token there is at fault, or the tokens end. -/
def ParseError.stoppedAt (tokens : List Token) (place : Nat) : ParseError :=
  match tokens[place]? with
  | some token => atToken (Mismatch.unexpectedToken token.text).wording token.text place
  | none => ofMessage Mismatch.unexpectedEnd.wording

/-- The outcome of tokens whose query ended in one of the four ways. -/
def outcomeOf : Attempt Tree × ParserState → Except QueryError Tree
  | (.matched tree, after) => after.cursor.finish tree
  | (.rejected rejection, _) =>
    .error (.unsupported (.ofFeature rejection.feature rejection.token.text))
  | (.mismatch, after) => .error (.parse after.cursor.mismatchError)
  | (.unfinished, after) => .error (.parse after.cursor.mismatchError)

/-- How the reading of tokens ends, and what is their fate then. -/
inductive Verdict (options : Options) (tokens : List Token) : Except QueryError Tree → Prop
  | accepted {tree : Tree} {place : Nat} (stopped : Fate.ofTokens options tokens = .stopped place)
      (atEnd : tokens.length ≤ place) : Verdict options tokens (.ok tree)
  | trailing {error : ParseError} {tree : Tree} {place : Nat}
      (stopped : Fate.ofTokens options tokens = .stopped place)
      (partly : error.accepted? = some tree) : Verdict options tokens (.error (.parse error))
  | mismatch {place : Nat} (stopped : Fate.ofTokens options tokens = .stopped place) :
      Verdict options tokens (.error (.parse (.stoppedAt tokens place)))
  | rejected {place : Nat} {feature : Feature} {token : Token}
      (rejected : Fate.ofTokens options tokens = .rejected place feature token) :
      Verdict options tokens (.error (.unsupported (.ofFeature feature token.text)))

variable {options : Options} {tokens : List Token} {place : Nat} {feature : Feature} {token : Token}

/-- The outcome of tokens is that of the query they are read as. -/
theorem outcome_ofTokens (nonempty : tokens ≠ []) :
    (Reading.ofTokens options tokens).outcome =
      outcomeOf (Grammar.query options (tokens.length + 1) (initial tokens)) := by
  rw [Reading.ofTokens, if_neg (by simpa using nonempty)]
  dsimp only
  rw [← initial]
  cases Grammar.query options (tokens.length + 1) (initial tokens) with
  | mk attempt after => cases attempt <;> rfl

/-- Before the first token the walk stands at the start of a query. -/
theorem stands_initial (options : Options) (tokens : List Token) :
    Stands options (Fate.ofTokens options tokens) ⟨.query, 0⟩ (initial tokens).view := by
  refine ⟨?_, Nat.le_refl 0⟩
  rw [remaining_view, remaining_initial]
  rfl

/-- Outside of all groups the walk stops at every token that is no boolean. -/
theorem stuck_of_noBoolean (noBoolean : Grammar.NoBoolean token) :
    Standing.step options ⟨.clauseEnd, 0⟩ token = .stuck := by
  simp [Standing.step, Step.clauseEnd, noBoolean.unknown, noBoolean.unrejected]

/-- There are depths enough for every query. -/
theorem query_ne_unfinished {after : ParserState} :
    Grammar.query options (tokens.length + 1) (initial tokens) ≠ (.unfinished, after) := by
  intro ended
  have fewer : (initial tokens).remaining.length < tokens.length + 1 := by simp
  have follows := Grammar.follows_query _ fewer (stands_initial options tokens)
  rw [follows_iff ended] at follows
  exact follows

/-- A query that was read in full is accepted, and one with tokens behind it is not. -/
theorem verdict_finish {after : ParserState} {tree : Tree}
    (passes : Passes (initial tokens) after)
    (read : Grammar.QueryRead options (Fate.ofTokens options tokens) 0 after.view) :
    Verdict options tokens (after.cursor.finish tree) := by
  rw [Cursor.finish, current?_eq_head?]
  cases first : after.remaining.head? with
  | none =>
    have nothing : after.remaining = [] := List.head?_eq_none_iff.mp first
    have size : tokens.length ≤ after.cursor.position := by
      rw [remaining, passes.tokens, List.drop_eq_nil_iff] at nothing
      exact nothing
    cases read with
    | stands stands => exact .accepted (stands.stopped (by simp [nothing])) size
    | stranded _ other => simp [nothing] at other
  | some token =>
    cases read with
    | stands stands ends =>
      exact .trailing (stands.stopped fun token first => stuck_of_noBoolean (ends token first)) rfl
    | stranded stranded => exact .trailing stranded.stopped rfl

/-- The error points at the furthest place looked at. -/
theorem mismatchError_eq {after : ParserState} (kept : Kept (initial tokens) after) :
    after.cursor.mismatchError = .stoppedAt tokens after.cursor.furthest := by
  have same : after.cursor.get? after.cursor.furthest = tokens[after.cursor.furthest]? := by
    rw [Cursor.get?, kept.tokens]
    simp [initial, Cursor.start]
  rw [Cursor.mismatchError, same]
  rfl

/-- The outcome of tokens agrees with their fate. -/
theorem verdict_ofTokens (options : Options) (nonempty : tokens ≠ []) :
    Verdict options tokens (Reading.ofTokens options tokens).outcome := by
  have fewer : (initial tokens).remaining.length < tokens.length + 1 := by simp
  have follows := Grammar.follows_query _ fewer (stands_initial options tokens)
  rw [outcome_ofTokens nonempty]
  cases ended : Grammar.query options (tokens.length + 1) (initial tokens) with
  | mk attempt after =>
    rw [follows_iff ended] at follows
    cases attempt with
    | matched tree => exact verdict_finish follows.1 follows.2
    | mismatch =>
      rw [outcomeOf, mismatchError_eq follows.1]
      exact .mismatch follows.2
    | rejected rejection =>
      obtain ⟨place, rejected⟩ := follows
      exact .rejected rejected
    | unfinished => exact absurd ended query_ne_unfinished

/-- The fate of no tokens is to stop. -/
theorem ne_nil_of_rejected
    (rejected : Fate.ofTokens options tokens = .rejected place feature token) : tokens ≠ [] := by
  rintro rfl
  simp [Fate.ofTokens, Standing.fate] at rejected

/-- Tokens that are not supported are rejected on the walk. -/
theorem exists_rejected_of_unsupported {error : UnsupportedError}
    (unsupported : (Reading.ofTokens options tokens).outcome = .error (.unsupported error)) :
    ∃ place feature token, Fate.ofTokens options tokens = .rejected place feature token ∧
      error = .ofFeature feature token.text := by
  have nonempty : tokens ≠ [] := by
    rintro rfl
    simp [Reading.ofTokens] at unsupported
  have verdict := verdict_ofTokens options nonempty
  rw [unsupported] at verdict
  cases verdict with
  | rejected rejected => exact ⟨_, _, _, rejected, rfl⟩

/-- Tokens that are rejected on the walk are not supported. -/
theorem unsupported_of_rejected
    (rejected : Fate.ofTokens options tokens = .rejected place feature token) :
    (Reading.ofTokens options tokens).outcome =
      .error (.unsupported (.ofFeature feature token.text)) := by
  have verdict := verdict_ofTokens options (ne_nil_of_rejected rejected)
  generalize (Reading.ofTokens options tokens).outcome = outcome at verdict
  cases verdict with
  | accepted stopped | trailing stopped | mismatch stopped => simp [rejected] at stopped
  | rejected same =>
    obtain ⟨-, rfl, rfl⟩ := Fate.rejected.inj (rejected.symm.trans same)
    rfl

/-- Tokens that stop before their end are not accepted. -/
theorem parseError_of_stopped (stopped : Fate.ofTokens options tokens = .stopped place)
    (inside : place < tokens.length) :
    ∃ error, (Reading.ofTokens options tokens).outcome = .error (.parse error) := by
  have nonempty : tokens ≠ [] := by
    rintro rfl
    simp at inside
  have verdict := verdict_ofTokens options nonempty
  generalize (Reading.ofTokens options tokens).outcome = outcome at verdict
  cases verdict with
  | accepted same atEnd =>
    obtain rfl := Fate.stopped.inj (stopped.symm.trans same)
    omega
  | trailing | mismatch => exact ⟨_, rfl⟩
  | rejected rejected => simp [stopped] at rejected

/-- An error without an accepted beginning points at the place where the tokens stop. -/
theorem exists_stopped_of_parseError (nonempty : tokens ≠ []) {error : ParseError}
    (failed : (Reading.ofTokens options tokens).outcome = .error (.parse error))
    (nothing : error.accepted? = none) :
    ∃ place, Fate.ofTokens options tokens = .stopped place ∧ error = .stoppedAt tokens place := by
  have verdict := verdict_ofTokens options nonempty
  rw [failed] at verdict
  cases verdict with
  | trailing _ partly => simp [nothing] at partly
  | mismatch stopped => exact ⟨_, stopped, rfl⟩

end ContextualQuery
