import ContextualQuery.Proofs.Parser.Beginning
import ContextualQuery.Proofs.Token.Splitting

/-!
# Why texts are not accepted

A text is not accepted for one of five causes: a quote is never closed, there are no tokens, the tokens
end before a query does, a token stands where it does not fit, or a feature is not supported. The cause
is defined by the text alone, without the wording of any error: by the walk through its tokens, and by
which beginnings of them are accepted. A text that fails has exactly one cause. `Reports` tells what an
error keeps of its cause.
-/

namespace ContextualQuery

/-- Why a text is not accepted. -/
inductive Cause where
  | unclosedQuote
  | noTokens
  | endsEarly
  | misplaced (token : Token)
  | unsupported (feature : Feature)

/-- The first tokens, as many as given, are accepted as a query. -/
def AcceptsFront (options : Options) (tokens : List Token) (size : Nat) : Prop :=
  ∃ tree, (Reading.ofTokens options (tokens.take size)).outcome = .ok tree

/-- A feature that can be met in a text: a comparitor among them is one of the language, and rendering
for Lucene is none of its features. -/
def Feature.IsOfQueries : Feature → Prop
  | .comparitor token => isComparitor token = true
  | .luceneRelation _ => False
  | _ => True

namespace Cause

variable {options : Options} {text : String} {tokens : List Token}

/-- The text is not accepted for the cause. The tokens end early if all of them fit and no beginning of
them is accepted. A token is misplaced if it is the first that does not fit and no beginning is accepted,
or if it stands behind the longest beginning that is. -/
inductive Explains (options : Options) (text : String) : Cause → Prop
  | unclosedQuote {error : TokenizerError} (unsplit : Token.tokenize text = .error error) :
      Explains options text .unclosedQuote
  | noTokens (split : Token.tokenize text = .ok []) : Explains options text .noTokens
  | endsEarly {tokens : List Token} (split : Token.tokenize text = .ok tokens)
      (nonempty : tokens ≠ []) (fits : Fate.ofTokens options tokens = .stopped tokens.length)
      (nothing : ∀ size, ¬ AcceptsFront options tokens size) : Explains options text .endsEarly
  | stuck {tokens : List Token} {index : Nat} {token : Token}
      (split : Token.tokenize text = .ok tokens)
      (stopped : Fate.ofTokens options tokens = .stopped index)
      (isToken : tokens[index]? = some token) (nothing : ∀ size, ¬ AcceptsFront options tokens size) :
      Explains options text (.misplaced token)
  | leftOver {tokens : List Token} {place index : Nat} {token : Token}
      (split : Token.tokenize text = .ok tokens)
      (stopped : Fate.ofTokens options tokens = .stopped place)
      (isToken : tokens[index]? = some token) (accepted : AcceptsFront options tokens index)
      (longest : ∀ longer, index < longer → longer ≤ tokens.length →
        ¬ AcceptsFront options tokens longer) : Explains options text (.misplaced token)
  | unsupported {tokens : List Token} {place : Nat} {feature : Feature} {token : Token}
      (split : Token.tokenize text = .ok tokens)
      (rejected : Fate.ofTokens options tokens = .rejected place feature token) :
      Explains options text (.unsupported feature)

/-- What an error keeps of its cause. -/
inductive Reports : Cause → QueryError → Prop
  | unclosedQuote {error : TokenizerError} (quoted : error.fragment.toList.head? = some '"') :
      Reports .unclosedQuote (.tokenize error)
  | noTokens : Reports .noTokens (.parse (.ofMessage Mismatch.noTokens.wording))
  | endsEarly : Reports .endsEarly (.parse (.ofMessage Mismatch.unexpectedEnd.wording))
  | stuck {token : Token} {error : ParseError}
      (said : error.message = (Mismatch.unexpectedToken token.text).wording) :
      Reports (.misplaced token) (.parse error)
  | leftOver {token : Token} {error : ParseError}
      (said : error.message = (Mismatch.trailingToken token.text).wording) :
      Reports (.misplaced token) (.parse error)
  | unsupported {feature : Feature} (token : Token) (isOfQueries : feature.IsOfQueries) :
      Reports (.unsupported feature) (.unsupported (.ofFeature feature token.text))

/-- A text has at most one cause. -/
theorem Explains.unique {cause other : Cause} (explains : cause.Explains options text)
    (explainsOther : other.Explains options text) : cause = other := by
  have nothing : Fate.ofTokens options [] = .stopped 0 := rfl
  -- the splitting sets the first two causes apart and the fate a rejection; the other three are told by
  -- the longest beginning that is accepted, of which there is only one
  cases explains <;> cases explainsOther <;> grind

end Cause

variable {options : Options} {text : String} {tokens : List Token}

/-- The features that a step of the walk rejects are met in texts. -/
theorem Standing.isOfQueries_of_step {standing : Standing} {token culprit : Token} {feature : Feature}
    (rejects : standing.step options token = .rejected feature culprit) : feature.IsOfQueries := by
  simp only [Standing.step, Step.clause, Step.clauseEnd, Step.searchTerm] at rejects
  grind [Feature.IsOfQueries]

/-- The fragment of a text that is not split starts with the quote that is not closed. -/
theorem head?_fragment {error : TokenizerError} (unsplit : Token.tokenize text = .error error) :
    error.fragment.toList.head? = some '"' := by
  obtain ⟨front, rest, _, _, ⟨tail, rfl, _⟩, rfl⟩ := Token.exists_unclosed_of_tokenize unsplit
  simp [Text.trimBlanksEnd_cons Token.isBlank_quote]

/-- Tokens that do not follow the grammar stop on the walk. -/
theorem exists_stopped {error : ParseError}
    (failed : (Reading.ofTokens options tokens).outcome = .error (.parse error)) :
    ∃ place, Fate.ofTokens options tokens = .stopped place := by
  cases fate : Fate.ofTokens options tokens with
  | stopped place => exact ⟨place, rfl⟩
  | rejected place feature token => simp [unsupported_of_rejected fate] at failed

/-- If no query was read, the walk has stopped behind all tokens, or at a token that does not fit. -/
theorem exists_explains_of_mismatch {error : ParseError} (split : Token.tokenize text = .ok tokens)
    (nonempty : tokens ≠ [])
    (failed : (Reading.ofTokens options tokens).outcome = .error (.parse error))
    (nothing : error.accepted? = none) (unread : ∀ size, ¬ AcceptsFront options tokens size) :
    ∃ cause : Cause, cause.Explains options text ∧ cause.Reports (.parse error) := by
  obtain ⟨place, stopped, rfl⟩ := exists_stopped_of_parseError nonempty failed nothing
  cases isToken : tokens[place]? with
  | none =>
    obtain ⟨front, rest, _, rfl, rfl, _, _⟩ := Standing.exists_walk_of_stopped stopped
    obtain rfl : rest = [] := by simpa using isToken
    refine ⟨.endsEarly, .endsEarly split nonempty (by simpa using stopped) unread, ?_⟩
    rw [ParseError.stoppedAt, isToken]
    exact .endsEarly
  | some token =>
    refine ⟨.misplaced token, .stuck split stopped isToken unread, .stuck ?_⟩
    rw [ParseError.stoppedAt, isToken]
    rfl

/-- If a query was read, the token behind it is misplaced. -/
theorem explains_of_matched {tree : Tree} {after : ParserState} {token : Token} {place : Nat}
    (split : Token.tokenize text = .ok tokens)
    (stopped : Fate.ofTokens options tokens = .stopped place)
    (ended : Grammar.query options (tokens.length + 1) (ParserState.initial tokens) =
      (.matched tree, after))
    (left : after.remaining.head? = some token) :
    (Cause.misplaced token).Explains options text := by
  obtain ⟨accepted, remaining⟩ := accepted_of_matched ended
  have isToken : tokens[after.cursor.position]? = some token := by
    rw [← List.head?_drop, ← remaining, left]
  refine .leftOver split stopped isToken ⟨tree, accepted⟩ ?_
  rintro longer behind inside ⟨other, acceptedLonger⟩
  have past := (covers_of_accepted acceptedLonger).matched ended
  rw [List.length_take_of_le inside] at past
  omega

/-- The cause of an error of the parser. -/
theorem exists_explains_of_parseError {error : ParseError} (split : Token.tokenize text = .ok tokens)
    (nonempty : tokens ≠ [])
    (failed : (Reading.ofTokens options tokens).outcome = .error (.parse error)) :
    ∃ cause : Cause, cause.Explains options text ∧ cause.Reports (.parse error) := by
  cases failure_of_parseError nonempty failed with
  | @trailing tree after token ended left =>
    obtain ⟨place, stopped⟩ := exists_stopped failed
    exact ⟨.misplaced token, explains_of_matched split stopped ended left, .leftOver rfl⟩
  | mismatch ended =>
    refine exists_explains_of_mismatch split nonempty failed (accepted?_mismatchError _) ?_
    rintro size ⟨tree, accepted⟩
    exact (covers_of_accepted accepted).mismatch ended

/-- The cause of a rejection. -/
theorem exists_explains_of_unsupported {error : UnsupportedError}
    (split : Token.tokenize text = .ok tokens)
    (failed : (Reading.ofTokens options tokens).outcome = .error (.unsupported error)) :
    ∃ cause : Cause, cause.Explains options text ∧ cause.Reports (.unsupported error) := by
  obtain ⟨place, feature, token, rejected, rfl⟩ := exists_rejected_of_unsupported failed
  obtain ⟨_, _, _, _, _, _, _, rejects⟩ := Standing.exists_walk_of_rejected rejected
  exact ⟨.unsupported feature, .unsupported split rejected,
    .unsupported token (Standing.isOfQueries_of_step rejects)⟩

/-- The tokens of a text are not at fault for its splitting. -/
theorem outcome_ofTokens_ne_tokenize {error : TokenizerError} :
    (Reading.ofTokens options tokens).outcome ≠ .error (.tokenize error) := by
  intro failed
  by_cases nonempty : tokens = []
  · simp [nonempty, Reading.ofTokens] at failed
  · have verdict := verdict_ofTokens options nonempty
    rw [failed] at verdict
    cases verdict

/-- A text that is not accepted has a cause, and the error reports it. -/
theorem exists_explains {error : QueryError} (failed : Tree.parseWith options text = .error error) :
    ∃ cause : Cause, cause.Explains options text ∧ cause.Reports error := by
  cases split : Token.tokenize text with
  | error unsplit =>
    obtain rfl : QueryError.tokenize unsplit = error := by
      simpa [Tree.parseWith, Reading.ofText, split] using failed
    exact ⟨.unclosedQuote, .unclosedQuote split, .unclosedQuote (head?_fragment split)⟩
  | ok tokens =>
    rw [parseWith_of_tokenize split] at failed
    by_cases nonempty : tokens = []
    · subst nonempty
      obtain rfl := Except.error.inj failed
      exact ⟨.noTokens, .noTokens split, .noTokens⟩
    · cases error with
      | tokenize error => exact absurd failed outcome_ofTokens_ne_tokenize
      | parse error => exact exists_explains_of_parseError split nonempty failed
      | unsupported error => exact exists_explains_of_unsupported split failed

end ContextualQuery
