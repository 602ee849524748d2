import ContextualQuery.Proofs.Parser.Rejection

/-!
# Restricted options

Options that allow less never change how a query is read: with them a production does what it does
with the wider options, or it rejects a comparitor or a modifier name that only the wider options
allow. A check of the options ends the reading, so that nothing else is tried in place of what they
leave out; this is why the relation between two productions is kept however they are put together.
-/

namespace ContextualQuery

/-- Every comparitor of the language and every modifier name that the first options allow is allowed
by the second. -/
structure Options.Restricts (narrow wide : Options) : Prop where
  comparitors : ∀ text, isComparitor text = true → narrow.supportsComparitor text = true →
    wide.supportsComparitor text = true
  modifierNames : ∀ name, narrow.supportsModifierName name = true →
    wide.supportsModifierName name = true

/-- The feature is a comparitor of the language or a modifier name, and only the wider options allow
it. -/
def Feature.IsRestricted (narrow wide : Options) (token : Token) (feature : Feature) : Prop :=
  (feature = .comparitor token.text ∧ isComparitor token.text = true ∧
      narrow.supportsComparitor token.text = false ∧ wide.supportsComparitor token.text = true) ∨
    (feature = .modifierName token.text ∧ narrow.supportsModifierName token.text = false ∧
      wide.supportsModifierName token.text = true)

namespace Production

variable {α β : Type} {narrow wide : Options}

/-- The first production does what the second one does, or it rejects what only the wider options
allow. -/
def Restricts (narrow wide : Options) (first second : Production α) : Prop :=
  ∀ state, first state = second state ∨ ∃ rejection after,
    first state = (.rejected rejection, after) ∧
      rejection.feature.IsRestricted narrow wide rejection.token

/-- A production restricts itself. -/
theorem Restricts.refl (production : Production α) : Restricts narrow wide production production :=
  fun _ => .inl rfl

/-- Restriction passes to sequences: the narrow one may be cut short, and goes on alike
otherwise. -/
theorem Restricts.bind {first first' : Production α} {second second' : α → Production β}
    (restrictsFirst : Restricts narrow wide first first')
    (restrictsSecond : ∀ value, Restricts narrow wide (second value) (second' value)) :
    Restricts narrow wide (first >>= second) (first' >>= second') := by
  intro state
  rcases restrictsFirst state with same | ⟨rejection, after, rejected, restricted⟩
  · rw [bind_apply, bind_apply, andThen, andThen, ← same]
    split
    case h_1 value middle _ => exact restrictsSecond value middle
    all_goals exact .inl rfl
  · refine .inr ⟨rejection, after, ?_, restricted⟩
    rw [bind_apply, andThen, rejected]

/-- Restriction does not depend on what is made of the values. -/
theorem Restricts.map {first first' : Production α} (change : α → β)
    (restricts : Restricts narrow wide first first') :
    Restricts narrow wide (change <$> first) (change <$> first') :=
  restricts.bind fun value => Restricts.refl (Pure.pure (change value))

/-- Restriction passes to alternatives, as both of a pair match or miss together. -/
theorem Restricts.orElse {first first' second second' : Production α}
    (restrictsFirst : Restricts narrow wide first first')
    (restrictsSecond : Restricts narrow wide second second') :
    Restricts narrow wide (orElse first second) (orElse first' second') := by
  intro state
  rcases restrictsFirst state with same | ⟨rejection, after, rejected, restricted⟩
  · rw [Production.orElse, Production.orElse, ← same]
    split
    case h_1 middle _ => exact restrictsSecond middle
    case h_2 => exact .inl rfl
  · refine .inr ⟨rejection, after, ?_, restricted⟩
    rw [Production.orElse, rejected]

/-- Restriction passes to what is tried from a bookmark. -/
theorem Restricts.bookmarked {production production' : Production α}
    (restricts : Restricts narrow wide production production') :
    Restricts narrow wide (bookmarked production) (bookmarked production') := by
  intro state
  rcases restricts { state with cursor := state.cursor.bookmark } with
    same | ⟨rejection, after, rejected, restricted⟩
  · left
    rw [Production.bookmarked, Production.bookmarked, same]
  · refine .inr ⟨rejection, after, ?_, restricted⟩
    rw [Production.bookmarked, rejected]

/-- Restriction passes to what may as well not match. -/
theorem Restricts.optional {production production' : Production α}
    (restricts : Restricts narrow wide production production') :
    Restricts narrow wide (optional production) (optional production') :=
  (restricts.map some).orElse (Restricts.refl _)

/-- Restriction passes to productions with steps, if it holds for any number of them. -/
theorem Restricts.withSteps {production production' : Nat → Production α}
    (restricts : ∀ steps, Restricts narrow wide (production steps) (production' steps)) :
    Restricts narrow wide (withSteps production) (withSteps production') :=
  fun state => restricts _ state

end Production

namespace Grammar

open Production

variable {narrow wide : Options}

/-- With narrower options the name of a modifier can be rejected, and nothing else changes. -/
theorem restricts_modifier (allowed : narrow.Restricts wide) :
    Restricts narrow wide (modifier narrow) (modifier wide) := by
  refine (Restricts.refl _).bind fun _ => (Restricts.refl _).bind fun name? => ?_
  cases name? with
  | none => exact Restricts.refl _
  | some name =>
    dsimp only
    by_cases structural : name.startsStructural = true
    · rw [if_pos structural, if_pos structural]
      exact Restricts.refl _
    · rw [if_neg structural, if_neg structural]
      cases supported : narrow.supportsModifierName name.text with
      | true =>
        rw [allowed.modifierNames _ supported]
        exact Restricts.refl _
      | false =>
        cases supported' : wide.supportsModifierName name.text with
        | false => exact Restricts.refl _
        | true => exact fun state => .inr ⟨_, state, rfl, .inr ⟨rfl, supported, supported'⟩⟩

/-- With narrower options a comparitor can be rejected, and nothing else changes. -/
theorem restricts_comparitor (allowed : narrow.Restricts wide) :
    Restricts narrow wide (comparitor narrow) (comparitor wide) := by
  refine (Restricts.refl _).bind fun token? => ?_
  cases token? with
  | none => exact Restricts.refl _
  | some token =>
    dsimp only
    cases known : isComparitor token.text with
    | false => exact Restricts.refl _
    | true =>
      cases supported : narrow.supportsComparitor token.text with
      | true =>
        rw [allowed.comparitors _ known supported]
        exact Restricts.refl _
      | false =>
        cases supported' : wide.supportsComparitor token.text with
        | false => exact Restricts.refl _
        | true => exact fun state => .inr ⟨_, state, rfl, .inl ⟨rfl, known, supported, supported'⟩⟩

/-- A relation under narrower options restricts the one under wider options. -/
theorem restricts_relation (allowed : narrow.Restricts wide) :
    Restricts narrow wide (relation narrow) (relation wide) := by
  refine (restricts_comparitor allowed).bind fun comparitor => ?_
  refine (Restricts.refl _).bind fun slash => ?_
  split
  · have only := (restricts_modifier allowed).bind fun modifier => Restricts.refl (do
      if ← sees "/" then reject .severalModifiers ⟨"/"⟩
      else return Tree.modifierList [modifier])
    exact only.bind fun modifiers => Restricts.refl _
  · exact Restricts.refl _

/-- A clause with an index under narrower options restricts the one under wider options. -/
theorem restricts_indexedClause (allowed : narrow.Restricts wide) :
    Restricts narrow wide (indexedClause narrow) (indexedClause wide) :=
  (Restricts.refl _).bind fun _ => (restricts_relation allowed).bind fun _ => Restricts.refl _

variable {inner inner' clause clause' : Production Tree}

/-- A search clause under narrower options restricts the one under wider options, if the queries in
groups do. -/
theorem restricts_searchClause (allowed : narrow.Restricts wide)
    (restricts : Restricts narrow wide inner inner') :
    Restricts narrow wide (searchClause narrow inner) (searchClause wide inner') := by
  refine (Restricts.refl _).bind fun opened => ?_
  split
  · have group := (Restricts.refl next).bind fun _ => restricts.bind fun query =>
      Restricts.refl (do
        expect ")"
        return Tree.group query)
    exact group.bookmarked
  · exact (restricts_indexedClause allowed).bookmarked.orElse (Restricts.refl _)

/-- Links restrict each other if their clauses do. -/
theorem restricts_links (restricts : Restricts narrow wide clause clause') (steps : Nat) :
    Restricts narrow wide (links clause steps) (links clause' steps) := by
  induction steps with
  | zero => exact Restricts.refl _
  | succ steps inductionHypothesis =>
    have link : Restricts narrow wide (link clause) (link clause') :=
      (Restricts.refl _).bind fun operator => restricts.bind fun _ => Restricts.refl _
    refine link.bookmarked.optional.bind fun first? => ?_
    cases first? with
    | none => exact Restricts.refl _
    | some first => exact inductionHypothesis.bind fun _ => Restricts.refl _

/-- Queries restrict each other if their clauses do. -/
theorem restricts_cqlQuery (restricts : Restricts narrow wide clause clause') :
    Restricts narrow wide (cqlQuery clause) (cqlQuery clause') := by
  refine (Restricts.refl _).bind fun mark => ?_
  split
  · exact Restricts.refl _
  · have chain := restricts.bind fun head =>
      (Restricts.withSteps (restricts_links restricts)).bind fun following => Restricts.refl (do
        if !following.isEmpty then recordChain (Tree.chainSize following)
        return Tree.chain head following)
    exact chain.map Tree.cqlQuery

/-- Restricted options change nothing in how a query is read, up to a rejection of what they leave
out. -/
theorem restricts_query (allowed : narrow.Restricts wide) (depth : Nat) :
    Restricts narrow wide (query narrow depth) (query wide depth) := by
  induction depth with
  | zero => exact Restricts.refl _
  | succ depth inductionHypothesis =>
    exact restricts_cqlQuery (restricts_searchClause allowed inductionHypothesis)

end Grammar

variable {narrow wide : Options}

/-- Tokens have the same outcome under restricted options, or one of them is rejected that only the
wider options allow. -/
theorem Options.Restricts.ofTokens (allowed : narrow.Restricts wide) (tokens : List Token) :
    (Reading.ofTokens narrow tokens).outcome = (Reading.ofTokens wide tokens).outcome ∨
      ∃ token ∈ tokens, ∃ feature : Feature,
        (Reading.ofTokens narrow tokens).outcome =
          .error (.unsupported (.ofFeature feature token.text)) ∧
        feature.IsRestricted narrow wide token := by
  by_cases nothing : tokens = []
  · subst nothing
    exact .inl rfl
  · have restricts := Grammar.restricts_query allowed (tokens.length + 1)
    rcases restricts (ParserState.initial tokens) with same | ⟨rejection, after, ended, restricted⟩
    · left
      rw [outcome_ofTokens nothing, outcome_ofTokens nothing, same]
    · right
      have unsupported : (Reading.ofTokens narrow tokens).outcome =
          .error (.unsupported (.ofFeature rejection.feature rejection.token.text)) := by
        rw [outcome_ofTokens nothing, ended]
        rfl
      refine ⟨rejection.token, ?_, rejection.feature, unsupported, restricted⟩
      obtain ⟨place, feature, culprit, rejected, same⟩ :=
        exists_rejected_of_unsupported unsupported
      obtain ⟨before, behind, rest, _, rfl, _⟩ := exists_split_of_rejected rejected
      have texts : rejection.token.text = culprit.text :=
        Option.some.inj (congrArg UnsupportedError.token? same)
      have tokensEqual : rejection.token = culprit := congrArg Token.mk texts
      simp [tokensEqual]

/-- Options only restrict. A text has the same outcome under restricted options, or it is rejected because
of a comparitor or a modifier name among its tokens that only the wider options allow. So what the
restricted options accept has the same tree under the wider ones, and what these accept is accepted with
the same tree or rejected.

Proof: both runs of the parser ask the options the same questions, until the restricted ones answer one
with no. The other two statements follow from the first. -/
theorem parseWith_restricted (narrow wide : Options) (text : String)
    (allowed : narrow.Restricts wide) :
    (Tree.parseWith narrow text = Tree.parseWith wide text ∨
        ∃ tokens token feature, Token.tokenize text = .ok tokens ∧ token ∈ tokens ∧
          Tree.parseWith narrow text = .error (.unsupported (.ofFeature feature token.text)) ∧
          feature.IsRestricted narrow wide token) ∧
      (∀ tree, Tree.parseWith narrow text = .ok tree → Tree.parseWith wide text = .ok tree) ∧
      ∀ tree, Tree.parseWith wide text = .ok tree → Tree.parseWith narrow text = .ok tree ∨
        ∃ error, Tree.parseWith narrow text = .error (.unsupported error) := by
  have outcome : Tree.parseWith narrow text = Tree.parseWith wide text ∨
      ∃ tokens token feature, Token.tokenize text = .ok tokens ∧ token ∈ tokens ∧
        Tree.parseWith narrow text = .error (.unsupported (.ofFeature feature token.text)) ∧
        feature.IsRestricted narrow wide token := by
    rw [Tree.parseWith, Tree.parseWith, Reading.ofText, Reading.ofText]
    cases split : Token.tokenize text with
    | error error => exact .inl rfl
    | ok tokens =>
      rcases allowed.ofTokens tokens with same | ⟨token, member, feature, unsupported, restricted⟩
      · exact .inl same
      · exact .inr ⟨tokens, token, feature, rfl, member, unsupported, restricted⟩
  refine ⟨outcome, ?_, ?_⟩
  · intro tree accepted
    rcases outcome with same | ⟨_, _, _, _, _, unsupported, _⟩
    · rw [← same, accepted]
    · simp [unsupported] at accepted
  · intro tree accepted
    rcases outcome with same | ⟨_, _, _, _, _, unsupported, _⟩
    · left
      rw [same, accepted]
    · exact .inr ⟨_, unsupported⟩

/-- Without the comparitor `exact` a query with it is rejected. It is not read as a bare term with
tokens behind it. -/
theorem parseWith_restricted_comparitor :
    ∃ narrow, narrow = Options.standard.withComparitors ["="] ∧
      narrow.Restricts Options.standard ∧
      (Tree.parseWith narrow "title exact dune" =
          Tree.parseWith Options.standard "title exact dune" ∨
        ∃ tokens token feature, Token.tokenize "title exact dune" = .ok tokens ∧ token ∈ tokens ∧
          Tree.parseWith narrow "title exact dune" =
            .error (.unsupported (.ofFeature feature token.text)) ∧
          feature.IsRestricted narrow Options.standard token) ∧
      (∃ tree, Tree.parseWith Options.standard "title exact dune" = .ok tree) ∧
      Tree.parseWith narrow "title exact dune" =
        .error (.unsupported (.ofFeature (.comparitor "exact") "exact")) := by
  let chain : Chain := ⟨.indexed ⟨"title"⟩ ⟨"exact"⟩ ⟨"dune"⟩, []⟩
  have split : Token.tokenize "title exact dune" = .ok chain.tokens := by cbv
  have formed : chain.Formed Options.standard := by decide +kernel
  have restricts : (Options.standard.withComparitors ["="]).Restricts Options.standard := by
    constructor
    · intro text known _
      rw [Options.supportsComparitor_standard, known]
    · intro name _
      exact Options.supportsModifierName_standard name
  have rejected : Fate.ofTokens (Options.standard.withComparitors ["="]) chain.tokens =
      .rejected 1 (.comparitor "exact") ⟨"exact"⟩ := by decide +kernel
  obtain ⟨outcome, -, -⟩ := parseWith_restricted _ _ "title exact dune" restricts
  refine ⟨_, rfl, restricts, outcome, ⟨chain.tree, parseWith_of_chain split formed⟩, ?_⟩
  rw [Tree.parseWith, Reading.ofText, split]
  exact unsupported_of_rejected rejected

end ContextualQuery
