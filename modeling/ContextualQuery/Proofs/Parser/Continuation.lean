import ContextualQuery.Proofs.Parser.Standing
import ContextualQuery.Proofs.Token.Lexeme

/-!
# How tokens can go on

Tokens that fit can be continued to a query. What may follow them depends on what stands before
them only through the place they lead to: `Finishes` says that the clause before the place is
complete, so that links may follow and the open groups be closed; `Begins` that any clause may
follow; and so on for the places inside of a clause. A walk keeps these conditions, and each of them
gives an end. The exception is the mark of a prefix assignment, which no query goes on with.

The walk may have been made under options that leave out the name of boosts; the continuation then
is one under options that allow it.
-/

namespace ContextualQuery

/-- Booleans with a clause each, whose tokens stand where they may. -/
structure LinksFormed (options : Options) (links : List (Token × Clause)) : Prop where
  booleans : ∀ link ∈ links, link.1.IsBoolean
  clauses : ∀ link ∈ links, link.2.Formed options

/-- The tokens are those of a query. -/
def Derives (options : Options) (tokens : List Token) : Prop :=
  ∃ chain : Chain, chain.Formed options ∧ chain.tokens = tokens

/-- The tokens end with a clause inside of a number of groups: any links may follow, and after them
a closing parenthesis, until no group is open. -/
def Finishes (options : Options) : Nat → List Token → Prop
  | 0, front => ∀ links, LinksFormed options links →
      Derives options (front ++ Clause.linkTokens links)
  | depth + 1, front => ∀ links, LinksFormed options links →
      Finishes options depth (front ++ Clause.linkTokens links ++ [⟨")"⟩])

/-- Any clause may follow the tokens. -/
def Begins (options : Options) (depth : Nat) (front : List Token) : Prop :=
  ∀ clause : Clause, clause.Formed options → Finishes options depth (front ++ clause.tokens)

/-- Any search term may follow the tokens. -/
def AwaitsTerm (options : Options) (depth : Nat) (front : List Token) : Prop :=
  ∀ term : Token, term.IsTerm → Finishes options depth (front ++ [term])

/-- Any value of a boost may follow the tokens. -/
def AwaitsBoost (options : Options) (depth : Nat) (front : List Token) : Prop :=
  ∀ value : Token, value.IsBoost → AwaitsTerm options depth (front ++ [value])

/-- A search term may follow the tokens, or a boost with a search term. -/
structure AwaitsRelated (options : Options) (depth : Nat) (front : List Token) : Prop where
  term : AwaitsTerm options depth front
  boost : AwaitsBoost options depth (front ++ [⟨"/"⟩, ⟨boostModifier⟩, ⟨"="⟩])

/-- The tokens end with a clause, and with a term that may be the index of a longer clause. -/
structure AwaitsRelation (options : Options) (depth : Nat) (front : List Token) : Prop where
  finishes : Finishes options depth front
  related : ∀ comparitor : Token, comparitor.IsComparitor options →
    AwaitsRelated options depth (front ++ [comparitor])

/-- What may follow tokens that lead to a place. -/
def Standing.Fits (options : Options) (standing : Standing) (front : List Token) : Prop :=
  match standing.place with
  | .query | .clause | .operand => Begins options standing.depth front
  | .assignment => ∃ before, front = before ++ [⟨">"⟩] ∧ Begins options standing.depth before
  | .word => AwaitsRelation options standing.depth front
  | .relation => AwaitsRelated options standing.depth front
  | .modifier => AwaitsBoost options standing.depth (front ++ [⟨boostModifier⟩, ⟨"="⟩])
  | .name => AwaitsBoost options standing.depth (front ++ [⟨"="⟩])
  | .equals => AwaitsBoost options standing.depth front
  | .boost | .term => AwaitsTerm options standing.depth front
  | .clauseEnd => Finishes options standing.depth front

variable {options wide : Options} {depth : Nat} {front : List Token} {token : Token}

/-! ### What a token changes -/

/-- No links are formed. -/
theorem LinksFormed.nil : LinksFormed options [] := ⟨by simp, by simp⟩

/-- A link in front of formed links gives formed links, if its boolean and its clause are. -/
theorem LinksFormed.cons {clause : Clause} {links : List (Token × Clause)}
    (isBoolean : token.IsBoolean) (formed : clause.Formed options)
    (others : LinksFormed options links) : LinksFormed options ((token, clause) :: links) :=
  ⟨List.forall_mem_cons.mpr ⟨isBoolean, others.booleans⟩,
    List.forall_mem_cons.mpr ⟨formed, others.clauses⟩⟩

/-- A query is a clause with links. -/
theorem begins_nil : Begins options 0 [] := by
  intro clause formed links others
  exact ⟨⟨clause, links⟩, ⟨formed, others.booleans, others.clauses⟩, rfl⟩

/-- Behind a parenthesis a query starts, and when it is closed, the clause before it is complete. -/
theorem Begins.opened (begins : Begins options depth front) :
    Begins options (depth + 1) (front ++ [⟨"("⟩]) := by
  intro clause formed links others
  have group := begins (.group clause links) (.group formed others.booleans others.clauses)
  simpa [Clause.tokens] using group

/-- Behind a boolean there is another clause. -/
theorem Finishes.boolean (finishes : Finishes options depth front) (isBoolean : token.IsBoolean) :
    Begins options depth (front ++ [token]) := by
  intro clause formed
  cases depth with
  | zero | succ =>
    intro links others
    have linked := finishes _ (others.cons isBoolean formed)
    simpa [Clause.linkTokens] using linked

/-- With a closing parenthesis, the tokens end inside of one group less. -/
theorem Finishes.closed (finishes : Finishes options (depth + 1) front) :
    Finishes options depth (front ++ [⟨")"⟩]) := by
  simpa [Clause.linkTokens] using finishes [] LinksFormed.nil

/-- A term is a clause, or the index of a clause with a relation. -/
theorem Begins.word (begins : Begins options depth front)
    (boost : options.supportsModifierName boostModifier = true) (isTerm : token.IsTerm) :
    AwaitsRelation options depth (front ++ [token]) where
  finishes := begins (.word token) (.word isTerm)
  related := by
    intro comparitor supported
    refine ⟨fun term termIsTerm => ?_, fun value isBoost term termIsTerm => ?_⟩
    · have indexed := begins (.indexed token comparitor term) (.indexed isTerm supported termIsTerm)
      simpa [Clause.tokens] using indexed
    · have boosted := begins (.boosted token comparitor value term)
        (.boosted isTerm supported boost isBoost termIsTerm)
      simpa [Clause.tokens] using boosted

/-! ### Walks -/

/-- The step over the first token of a clause. -/
theorem Begins.step_clause {next : Standing} (begins : Begins wide depth front)
    (boost : wide.supportsModifierName boostModifier = true)
    (leads : Step.clause depth token = .on next) : next.Fits wide (front ++ [token]) := by
  unfold Step.clause at leads
  split at leads
  case isTrue opening =>
    obtain rfl := Step.on.inj leads
    obtain rfl : token = ⟨"("⟩ := by
      cases token
      simpa using opening
    exact begins.opened
  case isFalse =>
    split at leads
    case isTrue isTerm =>
      obtain rfl := Step.on.inj leads
      exact begins.word boost isTerm
    case isFalse => simp at leads

/-- The step over the token behind a clause. -/
theorem Finishes.step_clauseEnd {next : Standing} (finishes : Finishes wide depth front)
    (leads : Step.clauseEnd depth token = .on next) : next.Fits wide (front ++ [token]) := by
  unfold Step.clauseEnd at leads
  split at leads
  case isTrue => simp at leads
  case isFalse =>
    split at leads
    case isTrue isBoolean =>
      obtain rfl := Step.on.inj leads
      exact finishes.boolean isBoolean
    case isFalse =>
      split at leads
      case isTrue closing =>
        obtain rfl : token = ⟨")"⟩ := by
          cases token
          simpa using closing
        cases depth with
        | zero => simp at leads
        | succ depth =>
          obtain rfl := Step.on.inj leads
          exact finishes.closed
      case isFalse => simp at leads

/-- The step over a search term. -/
theorem AwaitsTerm.step_searchTerm {next : Standing} (awaits : AwaitsTerm wide depth front)
    (leads : Step.searchTerm depth token = .on next) : next.Fits wide (front ++ [token]) := by
  unfold Step.searchTerm at leads
  split at leads
  case isTrue isTerm =>
    obtain rfl := Step.on.inj leads
    exact awaits token isTerm
  case isFalse => simp at leads

namespace Standing

variable {standing next : Standing}

/-- Behind a word, a token leads on as behind a clause, or it is a comparitor. -/
theorem step_word_eq_on (leads : Standing.step options ⟨.word, depth⟩ token = .on next) :
    Step.clauseEnd depth token = .on next ∨
      token.IsComparitor options ∧ next = ⟨.relation, depth⟩ := by
  simp only [Standing.step] at leads
  split at leads
  case isTrue => exact .inl leads
  case isFalse known =>
    split at leads
    case isTrue => simp at leads
    case isFalse supported =>
      have comparitor : token.IsComparitor options :=
        ⟨by simpa using known, by simpa using supported⟩
      exact .inr ⟨comparitor, (Step.on.inj leads).symm⟩

/-- Of the names of modifiers only that of a boost leads on. -/
theorem step_modifier_eq_on (leads : Standing.step options ⟨.modifier, depth⟩ token = .on next) :
    token.text = boostModifier ∧ next = ⟨.name, depth⟩ := by
  simp only [Standing.step] at leads
  split at leads
  case isTrue => simp at leads
  case isFalse =>
    split at leads
    case isTrue => simp at leads
    case isFalse =>
      split at leads
      case isTrue => simp at leads
      case isFalse isBoost => exact ⟨by simpa using isBoost, (Step.on.inj leads).symm⟩

/-- A token that leads on may be followed by what the next place says. The options that the continuation
is meant for have the same comparitors, and allow boosts. The cases are those of the place. What may
follow the next place was promised by this one: the comparitors of the wider options matter behind a word,
and their boosts where a clause starts. -/
theorem Fits.step (fits : standing.Fits wide front)
    (comparitors : ∀ comparitor : Token, comparitor.IsComparitor options →
      comparitor.IsComparitor wide)
    (boost : wide.supportsModifierName boostModifier = true)
    (leads : standing.step options token = .on next) : next.Fits wide (front ++ [token]) := by
  obtain ⟨place, depth⟩ := standing
  obtain ⟨text⟩ := token
  cases place with
  | query =>
    simp only [Standing.step] at leads
    split at leads
    case isTrue mark =>
      obtain rfl := Step.on.inj leads
      exact ⟨front, by rw [mark], fits⟩
    case isFalse => exact Begins.step_clause fits boost leads
  | assignment =>
    simp only [Standing.step] at leads
    split at leads <;> simp at leads
  | clause => exact Begins.step_clause fits boost leads
  | operand =>
    simp only [Standing.step] at leads
    split at leads
    case isTrue => simp at leads
    case isFalse => exact Begins.step_clause fits boost leads
  | word =>
    rcases step_word_eq_on leads with ends | ⟨comparitor, rfl⟩
    · exact (AwaitsRelation.finishes fits).step_clauseEnd ends
    · exact fits.related _ (comparitors _ comparitor)
  | relation =>
    simp only [Standing.step] at leads
    split at leads
    case isTrue slash =>
      obtain rfl := Step.on.inj leads
      simpa [Fits, slash] using fits.boost
    case isFalse => exact fits.term.step_searchTerm leads
  | modifier =>
    obtain ⟨rfl, rfl⟩ := step_modifier_eq_on leads
    simpa [Fits] using fits
  | name =>
    simp only [Standing.step] at leads
    split at leads
    case isTrue equals =>
      obtain rfl := Step.on.inj leads
      simpa [Fits, equals] using fits
    case isFalse => simp at leads
  | equals =>
    simp only [Standing.step] at leads
    split at leads
    case isTrue isBoost =>
      obtain rfl := Step.on.inj leads
      exact fits _ isBoost
    case isFalse => simp at leads
  | boost =>
    simp only [Standing.step] at leads
    split at leads
    case isTrue => simp at leads
    case isFalse => exact AwaitsTerm.step_searchTerm fits leads
  | term => exact AwaitsTerm.step_searchTerm fits leads
  | clauseEnd => exact Finishes.step_clauseEnd fits leads

/-- What may follow at the end of a walk. -/
theorem Fits.walk (fits : standing.Fits wide front)
    (comparitors : ∀ comparitor : Token, comparitor.IsComparitor options →
      comparitor.IsComparitor wide)
    (boost : wide.supportsModifierName boostModifier = true) {tokens : List Token}
    (walked : standing.walk options tokens = some next) : next.Fits wide (front ++ tokens) := by
  induction tokens generalizing standing front with
  | nil =>
    obtain rfl : standing = next := by simpa [Standing.walk] using walked
    simpa using fits
  | cons token tokens inductionHypothesis =>
    rw [Standing.walk] at walked
    split at walked
    case h_1 via leads =>
      have later := inductionHypothesis (fits.step comparitors boost leads) walked
      simpa using later
    case h_2 => simp at walked

end Standing

/-! ### Completions -/

/-- Tokens that complete the clause at a place. -/
def Place.completion : Place → List Token
  | .query | .clause | .operand | .relation | .boost | .term => [⟨"x"⟩]
  | .modifier => [⟨boostModifier⟩, ⟨"="⟩, ⟨"1"⟩, ⟨"x"⟩]
  | .name => [⟨"="⟩, ⟨"1"⟩, ⟨"x"⟩]
  | .equals => [⟨"1"⟩, ⟨"x"⟩]
  | .assignment | .word | .clauseEnd => []

/-- Tokens that complete the query at a place. -/
def Standing.completion (standing : Standing) : List Token :=
  standing.place.completion ++ List.replicate standing.depth ⟨")"⟩

/-- The tokens of a completion are words of the language. -/
theorem Standing.isLexeme_completion (standing : Standing) :
    ∀ token ∈ standing.completion, Token.IsLexeme token.text.toList := by
  have bare : ∀ text ∈ ["x", "1", boostModifier], Token.IsBareWord text.toList := by
    have checked : ∀ text ∈ ["x", "1", boostModifier],
        text.toList ≠ [] ∧ text.toList.all Token.isBare = true := by decide
    intro text member
    obtain ⟨nonempty, each⟩ := checked text member
    exact ⟨nonempty, List.all_eq_true.mp each⟩
  have mark : ∀ text ∈ ["=", ")"], text.toList ∈ Token.punctuation := by decide
  have listed : ∀ token ∈ standing.completion,
      token.text ∈ ["x", "1", boostModifier] ∨ token.text ∈ ["=", ")"] := by
    intro token member
    rw [Standing.completion, List.mem_append] at member
    rcases member with member | member
    · revert token
      cases standing.place <;> decide
    · rw [List.eq_of_mem_replicate member]
      decide
  intro token member
  rcases listed token member with word | closing
  · exact .inr (.inl (bare _ word))
  · exact .inl (mark _ closing)

/-- Closing the groups completes a query. -/
theorem Finishes.derives (finishes : Finishes options depth front) :
    Derives options (front ++ List.replicate depth ⟨")"⟩) := by
  induction depth generalizing front with
  | zero => simpa [Clause.linkTokens] using finishes [] LinksFormed.nil
  | succ depth inductionHypothesis =>
    simpa [List.replicate_succ] using inductionHypothesis finishes.closed

/-- The clause at a place is completed. -/
theorem Standing.Fits.finishes {standing : Standing} (fits : standing.Fits options front)
    (unassigned : standing.place ≠ .assignment) :
    Finishes options standing.depth (front ++ standing.place.completion) := by
  have isTerm : Token.IsTerm ⟨"x"⟩ := by decide
  have isBoost : Token.IsBoost ⟨"1"⟩ := by decide +kernel
  obtain ⟨place, depth⟩ := standing
  cases place with
  | query | clause | operand => exact fits (.word ⟨"x"⟩) (.word isTerm)
  | assignment => exact absurd rfl unassigned
  | word => simpa [Place.completion] using AwaitsRelation.finishes fits
  | relation => exact AwaitsRelated.term fits _ isTerm
  | modifier | name | equals => simpa [Place.completion] using fits _ isBoost _ isTerm
  | boost | term => exact fits _ isTerm
  | clauseEnd => simpa [Place.completion, Fits] using fits

/-- Tokens that fit can be completed to a query, unless they end with the mark of a prefix
assignment. -/
theorem Standing.Fits.derives {standing : Standing} (fits : standing.Fits options front)
    (unassigned : standing.place ≠ .assignment) :
    Derives options (front ++ standing.completion) := by
  rw [Standing.completion, ← List.append_assoc]
  exact (fits.finishes unassigned).derives

/-- Behind a clause, the token at fault is the next one. -/
theorem Step.culprit_clauseEnd {culprit : Token} {feature : Feature}
    (rejects : Step.clauseEnd depth token = .rejected feature culprit) : culprit = token := by
  cases depth <;> grind [Step.clauseEnd]

/-- The token at fault is the next one, unless a prefix assignment is rejected. -/
theorem Standing.culprit_eq {standing : Standing} {culprit : Token} {feature : Feature}
    (rejects : standing.step options token = .rejected feature culprit)
    (unassigned : standing.place ≠ .assignment) : culprit = token := by
  obtain ⟨place, depth⟩ := standing
  cases place <;> grind [Standing.step, Step.clause, Step.searchTerm, Step.culprit_clauseEnd]

/-- A token at fault stands behind tokens that can be completed. It is the next token, or the mark
of a prefix assignment before the next token. -/
theorem Standing.Fits.derives_of_rejected {standing : Standing} {culprit : Token}
    {feature : Feature} (fits : standing.Fits wide front)
    (rejects : standing.step options token = .rejected feature culprit) :
    ∃ before behind, ∃ reached : Standing, front ++ [token] = before ++ culprit :: behind ∧
      behind.length ≤ 1 ∧ Derives wide (before ++ reached.completion) := by
  by_cases assigned : standing.place = .assignment
  · obtain ⟨place, depth⟩ := standing
    obtain rfl : place = .assignment := assigned
    obtain ⟨before, rfl, begins⟩ := fits
    have query : Standing.Fits wide ⟨.query, depth⟩ before := begins
    obtain rfl : culprit = ⟨">"⟩ := by
      simp only [Standing.step] at rejects
      split at rejects
      case isTrue => exact (Step.rejected.inj rejects).2.symm
      case isFalse => simp at rejects
    exact ⟨before, [token], _, by simp, by simp, query.derives (by simp)⟩
  · obtain rfl := Standing.culprit_eq rejects assigned
    exact ⟨front, [], standing, rfl, by simp, fits.derives assigned⟩

end ContextualQuery
