import ContextualQuery.Proofs.Error.Cause
import ContextualQuery.Proofs.Text.Search

/-!
# Hints

The hint of an error is looked for in its wording, which quotes a token of the text where one is at
fault. The hint is that of the cause, unless the quoted token is misread: a misplaced token with
`end of query` in it is taken for the end of the query, and a modifier with `prox` or `prefix` in its
name for a proximity or a prefix assignment. A comparitor of the language has none of these fragments in
it.
-/

namespace ContextualQuery

/-- A hint at what to change in a text. -/
inductive Hint where
  | closingQuote
  | endsEarly
  | proximity
  | prefixAssignment
  | modifiers
deriving DecidableEq

/-- The wording of a hint. -/
def Hint.wording : Hint → String
  | .closingQuote => "Add a closing quote (\") to complete the term"
  | .endsEarly => "The query ends early; check for a missing term or closing parenthesis"
  | .proximity => "Proximity searches are not supported; use AND instead"
  | .prefixAssignment => "Remove the '>' prefix assignment and use plain index names"
  | .modifiers => "Only a single '/boost=<number>' modifier on a relation is supported"

/-- The hint at a feature. -/
def Feature.hint? : Feature → Option Hint
  | .proximity => some .proximity
  | .prefixAssignment => some .prefixAssignment
  | .booleanModifiers | .severalModifiers | .modifierName _ | .modifier _ => some .modifiers
  | .comparitor _ | .luceneRelation _ => none

/-- The hint that the name of a modifier is taken for. -/
def misreadModifier? (name : String) : Option Hint :=
  if Text.occursIn "prox" name then some .proximity
  else if Text.occursIn "prefix" name then some .prefixAssignment
  else none

namespace Cause

/-- The hint at a cause. -/
def hint? : Cause → Option Hint
  | .unclosedQuote => some .closingQuote
  | .endsEarly => some .endsEarly
  | .unsupported feature => feature.hint?
  | .noTokens | .misplaced _ => none

/-- The hint that the token at fault is taken for. -/
def misread? : Cause → Option Hint
  | .misplaced token => if Text.occursIn "end of query" token.text then some .endsEarly else none
  | .unsupported (.modifierName name) | .unsupported (.modifier name) => misreadModifier? name
  | _ => none

end Cause

/-! ### Wordings that quote a token -/

/-- Only the quoted token decides whether a fragment occurs in a wording. -/
theorem occursIn_quoting {fragment lead token rest : String} (unmarked : '\'' ∉ fragment.toList)
    (before : lead.toList.getLast? = some '\'') (behind : rest.toList.head? = some '\'')
    (notBefore : Text.occursIn fragment lead = false) (notBehind : Text.occursIn fragment rest = false) :
    Text.occursIn fragment (lead ++ token ++ rest) = Text.occursIn fragment token := by
  rw [Text.occursIn_enclosed unmarked before behind, notBefore, notBehind, Bool.false_or, Bool.or_false]

/-- The wording on an unexpected token speaks of the end of the query exactly if the token does. -/
theorem occursIn_unexpectedToken (token : String) :
    Text.occursIn "end of query" (Mismatch.unexpectedToken token).wording =
      Text.occursIn "end of query" token :=
  occursIn_quoting (by decide) (by decide) (by decide) (by decide) (by decide)

/-- The wording on a trailing token speaks of the end of the query exactly if the token does. -/
theorem occursIn_trailingToken (token : String) :
    Text.occursIn "end of query" (Mismatch.trailingToken token).wording =
      Text.occursIn "end of query" token :=
  occursIn_quoting (by decide) (by decide) (by decide) (by decide) (by decide)

/-- In the wordings about modifiers, the fragments of the other features come from the name alone. -/
theorem occursIn_modifier {lead : String} (listed : lead ∈ ["modifier name '", "modifier '"])
    (name : String) :
    Text.occursIn "prox" (lead ++ name ++ "'") = Text.occursIn "prox" name ∧
      Text.occursIn "prefix" (lead ++ name ++ "'") = Text.occursIn "prefix" name ∧
      Text.occursIn "modifier" (lead ++ name ++ "'") = true := by
  have leads : ∀ lead ∈ ["modifier name '", "modifier '"], lead.toList.getLast? = some '\'' ∧
      Text.occursIn "prox" lead = false ∧ Text.occursIn "prefix" lead = false ∧
      Text.occursIn "modifier" lead = true := by
    decide
  obtain ⟨before, noProx, noPrefix, isModifier⟩ := leads lead listed
  refine ⟨occursIn_quoting (by decide) before rfl noProx (by decide),
    occursIn_quoting (by decide) before rfl noPrefix (by decide), ?_⟩
  have unmarked : '\'' ∉ "modifier".toList := by decide
  rw [Text.occursIn_enclosed unmarked before rfl, isModifier]
  rfl

/-- In the wording about a comparitor, the fragments of the other features do not occur. -/
theorem occursIn_comparitor {token : String} (known : isComparitor token = true) :
    ∀ fragment ∈ ["prox", "prefix", "modifier"],
      Text.occursIn fragment (Feature.comparitor token).wording = false := by
  intro fragment listed
  have unmarked : ∀ fragment ∈ ["prox", "prefix", "modifier"], '\'' ∉ fragment.toList ∧
      Text.occursIn fragment "comparitor '" = false ∧ Text.occursIn fragment "'" = false := by
    decide
  have small : ∀ fragment ∈ ["prox", "prefix", "modifier"],
      fragment.toList.all Char.isLower = true := by
    decide
  have apart : ∀ name ∈ comparitors, ∀ fragment ∈ ["prox", "prefix", "modifier"],
      Text.occursIn fragment name = false := by
    decide
  obtain ⟨plain, notBefore, notBehind⟩ := unmarked fragment listed
  have quoted : Text.occursIn fragment (Feature.comparitor token).wording =
      Text.occursIn fragment token :=
    occursIn_quoting plain (by decide) rfl notBefore notBehind
  rw [quoted, Bool.eq_false_iff]
  intro occurs
  -- the options know a comparitor by its lower case, which keeps the fragment
  have occursLower := Text.occursIn_lower (small fragment listed) occurs
  rw [isComparitor, List.contains_iff_mem] at known
  rw [apart _ known fragment listed] at occursLower
  exact Bool.false_ne_true occursLower

/-! ### The hint of an error -/

/-- The features whose wording quotes no token. -/
theorem suggestion?_plain :
    ∀ feature ∈ [Feature.prefixAssignment, .booleanModifiers, .proximity, .severalModifiers],
      ∀ token, (QueryError.unsupported (.ofFeature feature token)).suggestion? =
        feature.hint?.map Hint.wording := by
  have plain : ∀ feature ∈ [Feature.prefixAssignment, .booleanModifiers, .proximity, .severalModifiers],
      (QueryError.unsupported { feature := feature.wording, token? := none }).suggestion? =
        feature.hint?.map Hint.wording := by
    decide
  exact fun feature listed _ => plain feature listed

/-- A modifier is taken for what its name reads like. -/
theorem suggestion?_modifier {lead : String} (listed : lead ∈ ["modifier name '", "modifier '"])
    (name : String) (token? : Option String) :
    (QueryError.unsupported { feature := lead ++ name ++ "'", token? }).suggestion? =
      ((misreadModifier? name).or (some .modifiers)).map Hint.wording := by
  obtain ⟨prox, prefixed, isModifier⟩ := occursIn_modifier listed name
  rw [QueryError.suggestion?, prox, prefixed, isModifier, misreadModifier?]
  split
  · rfl
  · split <;> rfl

/-- The hint of a feature that can be met in a text. -/
theorem suggestion?_unsupported {feature : Feature} (isOfQueries : feature.IsOfQueries)
    (token : String) :
    (QueryError.unsupported (.ofFeature feature token)).suggestion? =
      ((Cause.unsupported feature).misread?.or feature.hint?).map Hint.wording := by
  cases feature with
  | prefixAssignment | booleanModifiers | proximity | severalModifiers =>
    exact suggestion?_plain _ (by simp) _
  | comparitor comparitor =>
    have absent := occursIn_comparitor isOfQueries
    simp only [List.forall_mem_cons] at absent
    obtain ⟨noProx, noPrefix, noModifier, _⟩ := absent
    simp [QueryError.suggestion?, UnsupportedError.ofFeature, noProx, noPrefix, noModifier,
      Cause.misread?, Feature.hint?]
  | modifierName name => exact suggestion?_modifier (by simp) name _
  | modifier name => exact suggestion?_modifier (by simp) name _
  | luceneRelation spelling => exact isOfQueries.elim

/-- The hint of an error is that of its cause, unless the token at fault is misread. -/
theorem Cause.Reports.suggestion?_eq {cause : Cause} {error : QueryError}
    (reports : cause.Reports error) :
    error.suggestion? = (cause.misread?.or cause.hint?).map Hint.wording := by
  cases reports with
  | unclosedQuote quoted => simp [QueryError.suggestion?, quoted, misread?, hint?, Hint.wording]
  | noTokens | endsEarly => rfl
  | @stuck token error said =>
    rw [QueryError.suggestion?, said, occursIn_unexpectedToken, misread?]
    split <;> rfl
  | @leftOver token error said =>
    rw [QueryError.suggestion?, said, occursIn_trailingToken, misread?]
    split <;> rfl
  | unsupported token isOfQueries => exact suggestion?_unsupported isOfQueries token.text

/-- A text that fails has one cause, which gives the hint: the closing quote for an unclosed quote, the
early end for tokens that end too early, and for a feature the hint at it, if there is one. Only if the
token at fault is misread, the hint is the one that its text reads like.

Proof: every failure reports one of the causes, and no text has two of them. For each cause, the message
is searched for the words of the hints in their order. -/
theorem suggestion?_of_parseWith (options : Options) (text : String) (error : QueryError)
    (failed : Tree.parseWith options text = .error error) :
    ∃ cause : Cause, cause.Explains options text ∧
      (∀ other : Cause, other.Explains options text → other = cause) ∧
      error.suggestion? = (cause.misread?.or cause.hint?).map Hint.wording := by
  obtain ⟨cause, explains, reports⟩ := exists_explains failed
  exact ⟨cause, explains, fun _ explainsOther => explainsOther.unique explains,
    reports.suggestion?_eq⟩

/-- A modifier that is called `prox` is not the boolean of that name, but gets its hint. -/
theorem suggestion?_of_parseWith_modifier :
    ∃ (error : QueryError) (cause : Cause),
      Tree.parseWith Options.standard "title =/prox=1 dune" = .error error ∧
      cause.Explains Options.standard "title =/prox=1 dune" ∧
      (∀ other : Cause, other.Explains Options.standard "title =/prox=1 dune" → other = cause) ∧
      error.suggestion? = (cause.misread?.or cause.hint?).map Hint.wording ∧
      cause.misread? = some .proximity ∧ cause.hint? = some .modifiers := by
  have split : Token.tokenize "title =/prox=1 dune" =
      .ok [⟨"title"⟩, ⟨"="⟩, ⟨"/"⟩, ⟨"prox"⟩, ⟨"="⟩, ⟨"1"⟩, ⟨"dune"⟩] := by cbv
  have rejected : Fate.ofTokens Options.standard
      [⟨"title"⟩, ⟨"="⟩, ⟨"/"⟩, ⟨"prox"⟩, ⟨"="⟩, ⟨"1"⟩, ⟨"dune"⟩] =
      .rejected 3 (.modifier "prox") ⟨"prox"⟩ := by decide +kernel
  have failed : Tree.parseWith Options.standard "title =/prox=1 dune" =
      .error (.unsupported (.ofFeature (.modifier "prox") "prox")) := by
    rw [parseWith_of_tokenize split]
    exact unsupported_of_rejected rejected
  obtain ⟨cause, explains, only, hinted⟩ := suggestion?_of_parseWith _ _ _ failed
  obtain rfl : Cause.unsupported (.modifier "prox") = cause := only _ (.unsupported split rejected)
  have misread : (Cause.unsupported (.modifier "prox")).misread? = some .proximity := by decide
  exact ⟨_, _, failed, explains, only, hinted, misread, rfl⟩

/-- A quoted term behind a query is misplaced, whatever it says, but with these words in it the hint says
that the query ends early. -/
theorem suggestion?_misplaced :
    ¬ ∀ options text error, Tree.parseWith options text = .error error →
      ∀ cause : Cause, cause.Explains options text →
        error.suggestion? = cause.hint?.map Hint.wording := by
  intro claimed
  let tokens : List Token := [⟨"dune"⟩, ⟨"\"end of query\""⟩]
  have split : Token.tokenize "dune \"end of query\"" = .ok tokens := by cbv
  have stopped : Fate.ofTokens Options.standard tokens = .stopped 1 := by decide +kernel
  have accepted : AcceptsFront Options.standard tokens 1 := by
    let chain : Chain := ⟨.word ⟨"dune"⟩, []⟩
    have formed : chain.Formed Options.standard := by decide +kernel
    exact ⟨chain.tree, ofTokens_of_chain formed⟩
  have longest : ∀ longer, 1 < longer → longer ≤ tokens.length →
      ¬ AcceptsFront Options.standard tokens longer := by
    rintro longer behind inside ⟨tree, acceptedLonger⟩
    obtain rfl : longer = tokens.length := Nat.le_antisymm inside behind
    obtain ⟨error, failed⟩ := parseError_of_stopped stopped behind
    rw [List.take_length, failed] at acceptedLonger
    simp at acceptedLonger
  have explains : (Cause.misplaced ⟨"\"end of query\""⟩).Explains Options.standard
      "dune \"end of query\"" := .leftOver split stopped rfl accepted longest
  have failed : Tree.parseWith Options.standard "dune \"end of query\"" =
      .error (.parse ((ParseError.atToken (Mismatch.trailingToken "\"end of query\"").wording
        "\"end of query\"" 1).withAccepted (Chain.mk (.word ⟨"dune"⟩) []).tree)) := by
    rw [parseWith_of_tokenize split]
    decide +kernel
  have hinted := claimed _ _ _ failed _ explains
  revert hinted
  decide

end ContextualQuery
