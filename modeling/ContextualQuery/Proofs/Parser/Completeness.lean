import ContextualQuery.Proofs.Derivation
import ContextualQuery.Proofs.Parser.Takes

/-!
# What the parser does read

Every derivation is read: where the tokens of a derivation stand next, the production takes just
these and gives the tree of the derivation. A word alone could be the index of a clause with a
relation, so it is taken only where no comparitor follows; links are taken to their end only where
no boolean follows. The tokens that can follow a clause or a query inside of a larger derivation
meet these conditions, so that no alternative that is tried first, and no rejection, gets in the
way.

The induction is on the derivation of a clause. It is carried by a depth of nesting that is at least
the number of tokens of the clause.
-/

namespace ContextualQuery.Grammar

open Production ParserState

variable {options : Options} {state : ParserState} {rest : List Token}

/-! ### Tokens in their places -/

/-- A term is none of the marks that start with a structural character. -/
theorem text_ne_of_isTerm {token : Token} {mark : String} (isTerm : token.IsTerm)
    (structural : Token.startsStructural ⟨mark⟩ = true) : token.text ≠ mark := by
  rintro rfl
  exact Bool.false_ne_true (isTerm.symm.trans structural)

/-- A boolean is not a comparitor. -/
theorem isComparitor_of_isBoolean {token : Token} (isBoolean : token.IsBoolean) :
    isComparitor token.text = false := by
  rcases isBoolean with name | name | name
  all_goals
    rw [isComparitor, name]
    decide

/-- The first token of a clause is a term or opens a group. -/
theorem head_of_formed {clause : Clause} (formed : clause.Formed options) :
    ∃ first back, clause.tokens = first :: back ∧ (first.IsTerm ∨ first = ⟨"("⟩) := by
  cases formed with
  | word isTerm => exact ⟨_, _, rfl, .inl isTerm⟩
  | indexed indexIsTerm => exact ⟨_, _, rfl, .inl indexIsTerm⟩
  | boosted indexIsTerm => exact ⟨_, _, rfl, .inl indexIsTerm⟩
  | group => exact ⟨_, _, by rw [Clause.tokens], .inr rfl⟩

/-- No clause starts with the given mark, if it is structural and opens no group. -/
theorem head_ne_of_formed {clause : Clause} {mark : String} (formed : clause.Formed options)
    (structural : Token.startsStructural ⟨mark⟩ = true) (opensNothing : mark ≠ "(") :
    ∀ token ∈ (clause.tokens ++ rest).head?, token.text ≠ mark := by
  obtain ⟨first, back, shape, starts⟩ := head_of_formed formed
  intro token isHead
  obtain rfl : first = token := by simpa [shape] using isHead
  rcases starts with isTerm | rfl
  · exact text_ne_of_isTerm isTerm structural
  · exact opensNothing.symm

/-- The tokens can follow a clause: the first of them, if there is one, is not a comparitor. -/
def EndsClause (rest : List Token) : Prop :=
  ∀ token ∈ rest.head?, isComparitor token.text = false

/-- The tokens can follow a query: there are none, or the first of them closes a group. -/
def EndsQuery (rest : List Token) : Prop := ∀ token ∈ rest.head?, token = ⟨")"⟩

/-- Where a query may end, a clause may end as well. -/
theorem EndsQuery.endsClause (ends : EndsQuery rest) : EndsClause rest := by
  intro token isHead
  rw [ends token isHead, isComparitor, Token.lower_stable ")" (by simp)]
  decide

/-- A boolean can follow a clause. -/
theorem endsClause_of_isBoolean {token : Token} (isBoolean : token.IsBoolean) :
    EndsClause (token :: rest) := by
  intro first isHead
  obtain rfl : token = first := by simpa using isHead
  exact isComparitor_of_isBoolean isBoolean

/-- A clause of a chain is followed by a boolean or by what follows the chain. -/
theorem endsClause_linkTokens {links : List (Token × Clause)}
    (booleans : ∀ link ∈ links, link.1.IsBoolean) (ends : EndsQuery rest) :
    EndsClause (Clause.linkTokens links ++ rest) := by
  cases links with
  | nil => exact ends.endsClause
  | cons link links => exact endsClause_of_isBoolean (booleans link (by simp))

/-! ### Terms and relations -/

/-- A term is read where a token stands that is one. -/
theorem takes_term {token : Token} (isTerm : token.IsTerm)
    (front : state.remaining = token :: rest) :
    Takes term state [token] (Tree.term token.unquote) := by
  refine Takes.peek ?_
  simp only [front, List.head?_cons]
  rw [if_neg (by simpa [Token.IsTerm] using isTerm)]
  exact Takes.next front (Takes.pure _ _)

/-- A term is taken inside of an index and of a search term as well. -/
theorem takes_wrapped_term (wrap : Tree → Tree) {token : Token} (isTerm : token.IsTerm)
    (front : state.remaining = token :: rest) :
    Takes (wrap <$> term) state [token] (wrap (Tree.term token.unquote)) :=
  (takes_term isTerm front).map wrap

/-- A comparitor is read where a token stands that is one. -/
theorem takes_comparitor {token : Token} (supported : token.IsComparitor options)
    (front : state.remaining = token :: rest) :
    Takes (comparitor options) state [token] (Tree.comparitor token.text) := by
  refine Takes.peek ?_
  simp only [front, List.head?_cons]
  rw [if_neg (by simp [supported.1]), if_neg (by simp [supported.2])]
  exact Takes.next front (Takes.pure _ _)

/-- No comparitor is read where a clause may end. -/
theorem declines_comparitor (ends : EndsClause state.remaining) :
    Declines (comparitor options) state := by
  refine Declines.peek ?_
  cases first : state.remaining.head? with
  | none => exact Declines.fail _
  | some token =>
    dsimp only
    rw [if_pos (by simp [ends token first])]
    exact Declines.fail _

/-- The tokens of a boost. -/
theorem takes_modifier {boost : Token} (allowed : options.supportsModifierName boostModifier = true)
    (isBoost : boost.IsBoost)
    (front : state.remaining = [⟨"/"⟩, ⟨boostModifier⟩, ⟨"="⟩, boost] ++ rest) :
    Takes (modifier options) state [⟨"/"⟩, ⟨boostModifier⟩, ⟨"="⟩, boost]
      (Tree.modifier (Tree.identifier boostModifier) (Tree.comparitor "=")
        (Tree.term boost.unquote)) := by
  have takesSlash : Takes (expect "/") state [⟨"/"⟩] () := Takes.expect front
  refine takesSlash.bind fun afterSlash slash => Takes.peek ?_
  have atName := slash.remaining_of_append front
  simp only [atName, List.head?_cons]
  rw [if_neg (by decide), if_neg (by simp [allowed]), if_neg (by simp)]
  refine Takes.next atName ?_
  have atEquals : afterSlash.looked.stepped.remaining = ⟨"="⟩ :: boost :: rest :=
    (moves_stepped atName).remaining_of_append atName
  refine (Takes.expect atEquals).bind fun afterEquals equals => ?_
  have atBoost := equals.remaining_of_append atEquals
  refine (takes_term isBoost.1 atBoost).bind fun afterBoost _ => ?_
  rw [if_pos (by simpa [Tree.text?_term] using isBoost.2)]
  exact Takes.pure _ _

/-- A boost behind which no second modifier starts. -/
theorem takes_modifierList {boost : Token}
    (allowed : options.supportsModifierName boostModifier = true) (isBoost : boost.IsBoost)
    (front : state.remaining = [⟨"/"⟩, ⟨boostModifier⟩, ⟨"="⟩, boost] ++ rest)
    (single : ∀ token ∈ rest.head?, token.text ≠ "/") :
    Takes (modifierList options) state [⟨"/"⟩, ⟨boostModifier⟩, ⟨"="⟩, boost]
      (Tree.modifierList [Tree.modifier (Tree.identifier boostModifier) (Tree.comparitor "=")
        (Tree.term boost.unquote)]) := by
  refine (takes_modifier allowed isBoost front).bind fun middle moves => ?_
  refine Takes.sees_not ?_ (Takes.pure _ _)
  rwa [moves.remaining_of_append front]

/-- A comparitor is read as a relation, if no slash follows. -/
theorem takes_relation {comparitor : Token} (supported : comparitor.IsComparitor options)
    (front : state.remaining = comparitor :: rest)
    (unmodified : ∀ token ∈ rest.head?, token.text ≠ "/") :
    Takes (relation options) state [comparitor]
      (Tree.relation (Tree.comparitor comparitor.text) none) := by
  refine (takes_comparitor supported front).bind fun middle moves => ?_
  refine Takes.sees_not ?_ (Takes.pure _ _)
  rwa [moves.remaining_of_append front]

/-- A comparitor with a boost is read as a relation, if no slash follows the boost. -/
theorem takes_boosted_relation {comparitor boost : Token}
    (supported : comparitor.IsComparitor options)
    (allowed : options.supportsModifierName boostModifier = true) (isBoost : boost.IsBoost)
    (front : state.remaining = [comparitor, ⟨"/"⟩, ⟨boostModifier⟩, ⟨"="⟩, boost] ++ rest)
    (single : ∀ token ∈ rest.head?, token.text ≠ "/") :
    Takes (relation options) state [comparitor, ⟨"/"⟩, ⟨boostModifier⟩, ⟨"="⟩, boost]
      (Tree.relation (Tree.comparitor comparitor.text)
        (some (Tree.modifierList [Tree.modifier (Tree.identifier boostModifier)
          (Tree.comparitor "=") (Tree.term boost.unquote)]))) := by
  refine (takes_comparitor supported front).bind fun middle moves => ?_
  have atSlash : middle.looked.remaining = [⟨"/"⟩, ⟨boostModifier⟩, ⟨"="⟩, boost] ++ rest :=
    moves.remaining_of_append front
  refine Takes.sees (by simpa using congrArg List.head? atSlash) ?_
  rw [if_pos rfl]
  exact (takes_modifierList allowed isBoost atSlash single).bind fun after _ => Takes.pure _ _

/-! ### Clauses -/

/-- No slash follows a relation that a term follows. -/
theorem head_ne_slash {term : Token} (isTerm : term.IsTerm) (rest : List Token) :
    ∀ token ∈ (term :: rest).head?, token.text ≠ "/" := by
  simpa using text_ne_of_isTerm isTerm (by decide)

/-- A clause with an index is taken where its relation is. -/
theorem takes_indexedClause {index term : Token} {words : List Token} {relationTree : Tree}
    (indexIsTerm : index.IsTerm) (isTerm : term.IsTerm)
    (takesRelation : ∀ state : ParserState, state.remaining = words ++ term :: rest →
      Takes (relation options) state words relationTree)
    (front : state.remaining = index :: (words ++ term :: rest)) :
    Takes (indexedClause options) state (index :: (words ++ [term]))
      (Tree.indexedSearchClause (Tree.index (Tree.term index.unquote)) relationTree
        (Tree.searchTerm (Tree.term term.unquote))) := by
  refine (takes_wrapped_term Tree.index indexIsTerm front).bind fun afterIndex indexMoves => ?_
  have atRelation := indexMoves.remaining_of_append front
  refine (takesRelation afterIndex atRelation).bind fun afterRelation relationMoves => ?_
  have atTerm := relationMoves.remaining_of_append atRelation
  exact (takes_wrapped_term Tree.searchTerm isTerm atTerm).bind fun after _ => Takes.pure _ _

/-- A word that no comparitor follows is not the index of a clause. -/
theorem declines_indexedClause {term : Token} (isTerm : term.IsTerm)
    (front : state.remaining = term :: rest) (ends : EndsClause rest) :
    Declines (indexedClause options) state := by
  refine Declines.bind_second (takes_wrapped_term Tree.index isTerm front) fun middle moves => ?_
  refine Declines.bind_first (Declines.bind_first (declines_comparitor ?_))
  rwa [moves.remaining_of_append front]

/-- The production takes the tokens of a clause wherever they are followed by what can follow it. -/
def TakesClause (production : Production Tree) (clause : Clause) : Prop :=
  ∀ state rest, state.remaining = clause.tokens ++ rest → EndsClause rest →
    Takes production state clause.tokens clause.tree

/-- The production takes the tokens of a clause whatever follows them. -/
def TakesAnywhere (production : Production Tree) (clause : Clause) : Prop :=
  ∀ state rest, state.remaining = clause.tokens ++ rest →
    Takes production state clause.tokens clause.tree

/-- A clause that is read whatever follows is read where a clause may end. -/
theorem TakesAnywhere.takesClause {production : Production Tree} {clause : Clause}
    (takes : TakesAnywhere production clause) : TakesClause production clause := by
  intro state rest front _
  exact takes state rest front

/-- The production takes the tokens of a query wherever they are followed by what can follow it. -/
def TakesQuery (production : Production Tree) (chain : Chain) : Prop :=
  ∀ state rest, state.remaining = chain.tokens ++ rest → EndsQuery rest →
    Takes production state chain.tokens chain.tree

/-- A clause that starts with a term is no group. -/
theorem takes_ungrouped {inner : Production Tree} {first : Token} {words : List Token} {tree : Tree}
    (isTerm : first.IsTerm) (front : state.remaining = first :: rest)
    (takes : Takes (orElse (bookmarked (indexedClause options)) (Tree.searchClause <$> searchTerm))
      state.looked words tree) :
    Takes (searchClause options inner) state words tree := by
  refine Takes.sees_not ?_ takes
  simpa [front] using text_ne_of_isTerm isTerm (by decide)

/-- A word is read as a clause, where no comparitor follows. -/
theorem takes_word {inner : Production Tree} {term : Token} (isTerm : term.IsTerm) :
    TakesClause (searchClause options inner) (.word term) := by
  intro state rest front ends
  refine takes_ungrouped isTerm front ?_
  refine Takes.orElse_second (declines_indexedClause isTerm front ends) fun middle moves => ?_
  have atTerm : middle.remaining = term :: rest := moves.remaining_nil.trans front
  exact (takes_wrapped_term Tree.searchTerm isTerm atTerm).map Tree.searchClause

/-- A word in an index is read as a clause, whatever follows. -/
theorem takes_indexed {inner : Production Tree} {index comparitor term : Token}
    (indexIsTerm : index.IsTerm) (supported : comparitor.IsComparitor options)
    (isTerm : term.IsTerm) :
    TakesAnywhere (searchClause options inner) (.indexed index comparitor term) := by
  intro state rest front
  refine takes_ungrouped indexIsTerm front (Takes.orElse_first (Takes.bookmarked ?_))
  have atClause : state.looked.marked.remaining = index :: ([comparitor] ++ term :: rest) := front
  refine takes_indexedClause indexIsTerm isTerm (fun middle atRelation => ?_) atClause
  exact takes_relation supported atRelation (head_ne_slash isTerm rest)

/-- A word in an index with a boost is read as a clause, whatever follows. -/
theorem takes_boosted {inner : Production Tree} {index comparitor boost term : Token}
    (indexIsTerm : index.IsTerm) (supported : comparitor.IsComparitor options)
    (allowed : options.supportsModifierName boostModifier = true) (isBoost : boost.IsBoost)
    (isTerm : term.IsTerm) :
    TakesAnywhere (searchClause options inner) (.boosted index comparitor boost term) := by
  intro state rest front
  refine takes_ungrouped indexIsTerm front (Takes.orElse_first (Takes.bookmarked ?_))
  have atClause : state.looked.marked.remaining =
      index :: ([comparitor, ⟨"/"⟩, ⟨boostModifier⟩, ⟨"="⟩, boost] ++ term :: rest) := front
  refine takes_indexedClause indexIsTerm isTerm (fun middle atRelation => ?_) atClause
  exact takes_boosted_relation supported allowed isBoost atRelation (head_ne_slash isTerm rest)

/-- A group of a query is taken where the inner production takes the query. -/
theorem takes_group {inner : Production Tree} {chain : Chain}
    (takesInner : TakesQuery inner chain) :
    TakesAnywhere (searchClause options inner) (.group chain.head chain.links) := by
  intro state rest front
  rw [chain.tokens_group] at front ⊢
  refine Takes.sees (by simp [front]) ?_
  rw [if_pos rfl]
  refine Takes.bookmarked ?_
  have atOpening : state.looked.marked.remaining = ⟨"("⟩ :: (chain.tokens ++ (⟨")"⟩ :: rest)) := by
    simpa using front
  refine Takes.next atOpening ?_
  have atQuery := (moves_stepped atOpening).remaining_of_append atOpening
  refine (takesInner _ _ atQuery (by simp [EndsQuery])).bind fun middle moves => ?_
  have atClosing := moves.remaining_of_append atQuery
  rw [chain.tree_group]
  exact (Takes.expect atClosing).bind fun after _ => Takes.pure _ _

/-! ### Chains -/

/-- A boolean is read where a token stands that is one. -/
theorem takes_boolean {token : Token} (isBoolean : token.IsBoolean)
    (front : state.remaining = token :: rest) :
    Takes boolean state [token] (Tree.boolean token.text) := by
  have known : ¬ Text.lower token.text = "prox" := by
    rcases isBoolean with name | name | name
    all_goals
      rw [name]
      decide
  have operator : Text.lower token.text = "and" ∨ Text.lower token.text = "or" ∨
      Text.lower token.text = "not" := isBoolean
  refine Takes.peek ?_
  simp only [front, List.head?_cons]
  rw [if_neg known, if_pos operator]
  refine Takes.next front ?_
  rw [← isBoolean.tree_lower]
  exact Takes.pure _ _

/-- A boolean is read together with its modifiers, of which there are none if no slash follows. -/
theorem takes_booleanGroup {token : Token} (isBoolean : token.IsBoolean)
    (front : state.remaining = token :: rest)
    (unmodified : ∀ token ∈ rest.head?, token.text ≠ "/") :
    Takes booleanGroup state [token] (Tree.boolean token.text) := by
  refine (takes_boolean isBoolean front).bind fun middle moves => ?_
  refine Takes.sees_not ?_ (Takes.pure _ _)
  rwa [moves.remaining_of_append front]

/-- What ends a query is no boolean. -/
theorem declines_boolean (ends : EndsQuery state.remaining) : Declines boolean state := by
  refine Declines.peek ?_
  cases first : state.remaining.head? with
  | none => exact Declines.fail _
  | some token =>
    obtain rfl := ends token first
    simp only [Token.lower_stable ")" (by simp)]
    rw [if_neg (by decide), if_neg (by decide)]
    exact Declines.fail _

variable {production : Production Tree}

/-- A boolean with a clause is read as a link, where a clause may end. -/
theorem takes_link {link : Token × Clause} (isBoolean : link.1.IsBoolean)
    (formed : link.2.Formed options) (takes : TakesClause production link.2)
    (front : state.remaining = link.1 :: (link.2.tokens ++ rest)) (ends : EndsClause rest) :
    Takes (Grammar.link production) state (link.1 :: link.2.tokens)
      (Tree.boolean link.1.text, link.2.tree) := by
  have unmodified : ∀ token ∈ (link.2.tokens ++ rest).head?, token.text ≠ "/" :=
    head_ne_of_formed formed (by decide) (by decide)
  have whole : Takes (Grammar.link production) state ([link.1] ++ (link.2.tokens ++ []))
      (Tree.boolean link.1.text, link.2.tree) := by
    refine (takes_booleanGroup isBoolean front unmodified).bind fun middle moves => ?_
    refine (takes middle rest (moves.remaining_of_append front) ends).bind fun after _ => ?_
    exact Takes.pure _ _
  simpa using whole

/-- All links are read if there are enough steps for them, and where a query may end the reading of links
does. By induction on the links, with one step for each. Behind the last one no boolean is found, and the
attempt at another link returns to its bookmark. -/
theorem takes_links {links : List (Token × Clause)} (booleans : ∀ link ∈ links, link.1.IsBoolean)
    (formed : ∀ link ∈ links, link.2.Formed options)
    (takes : ∀ link ∈ links, TakesClause production link.2) {steps : Nat}
    (enough : links.length < steps) (state : ParserState)
    (front : state.remaining = Clause.linkTokens links ++ rest) (ends : EndsQuery rest) :
    Takes (Grammar.links production steps) state (Clause.linkTokens links)
      (Clause.linkTrees links) := by
  induction links generalizing steps state with
  | nil =>
    obtain ⟨steps, rfl⟩ := Nat.exists_eq_add_of_lt enough
    have declines : Declines (Grammar.link production) state.marked := by
      refine Declines.bind_first (Declines.bind_first (declines_boolean ?_))
      simpa [front, Clause.linkTokens] using ends
    exact (Takes.optional_none declines).bind fun after _ => Takes.pure _ _
  | cons link links inductionHypothesis =>
    obtain ⟨steps, rfl⟩ := Nat.exists_eq_add_of_lt enough
    obtain ⟨isBoolean, laterBooleans⟩ := List.forall_mem_cons.mp booleans
    obtain ⟨clauseFormed, laterFormed⟩ := List.forall_mem_cons.mp formed
    obtain ⟨takesClause, takesLater⟩ := List.forall_mem_cons.mp takes
    have atLink : state.remaining =
        (link.1 :: link.2.tokens) ++ (Clause.linkTokens links ++ rest) := by
      simp [front, Clause.linkTokens]
    have takesLink : Takes (Grammar.link production) state.marked (link.1 :: link.2.tokens)
        (Tree.boolean link.1.text, link.2.tree) :=
      takes_link isBoolean clauseFormed takesClause atLink
        (endsClause_linkTokens laterBooleans ends)
    have whole : Takes (Grammar.links production ((link :: links).length + steps + 1)) state
        ((link.1 :: link.2.tokens) ++ (Clause.linkTokens links ++ []))
        (Clause.linkTrees (link :: links)) := by
      refine (Takes.optional (Takes.bookmarked takesLink)).bind fun middle moves => ?_
      have atLinks := moves.remaining_of_append atLink
      have fewer : links.length < (link :: links).length + steps := by
        rw [List.length_cons]
        omega
      refine (inductionHypothesis laterBooleans laterFormed takesLater fewer middle atLinks).bind ?_
      exact fun after _ => Takes.pure _ _
    simpa [Clause.linkTokens] using whole

/-- A chain is taken where its clauses are. There are steps enough for its links, because each of
them has a token. -/
theorem takes_scopedClause {chain : Chain} (formed : chain.Formed options)
    (takesHead : TakesClause production chain.head)
    (takesLater : ∀ link ∈ chain.links, TakesClause production link.2) :
    TakesQuery (Tree.cqlQuery <$> scopedClause production) chain := by
  intro state rest front ends
  have atHead : state.remaining =
      chain.head.tokens ++ (Clause.linkTokens chain.links ++ rest) := by
    simp [front, Chain.tokens]
  have headEnds := endsClause_linkTokens formed.booleans ends
  have whole : Takes (scopedClause production) state
      (chain.head.tokens ++ (Clause.linkTokens chain.links ++ []))
      (Tree.chain chain.head.tree (Clause.linkTrees chain.links)) := by
    refine (takesHead state _ atHead headEnds).bind fun middle moves => ?_
    have atLinks := moves.remaining_of_append atHead
    have enough : chain.links.length < middle.cursor.size + 1 := by
      have bounded := length_remaining_le middle
      have listed := Clause.length_le_linkTokens chain.links
      rw [atLinks, List.length_append] at bounded
      omega
    have takesLinks :=
      takes_links formed.booleans formed.clauses takesLater enough middle atLinks ends
    refine Takes.bind (show Takes (withSteps (links production)) _ _ _ from takesLinks) ?_
    intro after _
    split
    · exact (Takes.recordChain _ _).bind fun last _ => Takes.pure _ _
    · exact Takes.pure _ _
  simpa [Chain.tokens, Chain.tree] using whole.map Tree.cqlQuery

/-- A query does not start like a prefix assignment. -/
theorem takes_cqlQuery {chain : Chain} (formed : chain.Formed options)
    (takesHead : TakesClause production chain.head)
    (takesLater : ∀ link ∈ chain.links, TakesClause production link.2) :
    TakesQuery (cqlQuery production) chain := by
  intro state rest front ends
  refine Takes.sees_not ?_ (takes_scopedClause formed takesHead takesLater _ rest front ends)
  rw [front, Chain.tokens, List.append_assoc]
  exact head_ne_of_formed formed.head (by decide) (by decide)

/-- A clause is taken at every depth that is at least the number of its tokens. -/
theorem takes_searchClause {clause : Clause} (formed : clause.Formed options) {depth : Nat}
    (enough : clause.tokens.length ≤ depth) :
    TakesClause (searchClause options (query options depth)) clause := by
  induction formed generalizing depth with
  | word isTerm => exact takes_word isTerm
  | indexed indexIsTerm supported isTerm =>
    exact (takes_indexed indexIsTerm supported isTerm).takesClause
  | boosted indexIsTerm supported allowed isBoost isTerm =>
    exact (takes_boosted indexIsTerm supported allowed isBoost isTerm).takesClause
  | @group head links headFormed booleans clauses headHypothesis linkHypothesis =>
    have deeper : head.tokens.length + (Clause.linkTokens links).length < depth := by
      simp only [Clause.tokens, List.length_cons, List.length_append] at enough
      omega
    obtain ⟨depth, rfl⟩ : ∃ below, depth = below + 1 := Nat.exists_eq_succ_of_ne_zero (by omega)
    have formed : Chain.Formed options ⟨head, links⟩ := ⟨headFormed, booleans, clauses⟩
    have takesHead : TakesClause (searchClause options (query options depth)) head :=
      headHypothesis (by omega)
    have takesLater : ∀ link ∈ links,
        TakesClause (searchClause options (query options depth)) link.2 := by
      intro link member
      have bounded := Clause.tokens_length_le_linkTokens member
      exact linkHypothesis link member (by omega)
    exact (takes_group (takes_cqlQuery formed takesHead takesLater)).takesClause

/-- A query is taken at every depth that is greater than the number of its tokens. -/
theorem takes_query {chain : Chain} (formed : chain.Formed options) {depth : Nat}
    (enough : chain.tokens.length ≤ depth) : TakesQuery (query options (depth + 1)) chain := by
  rw [Chain.tokens, List.length_append] at enough
  refine takes_cqlQuery formed (takes_searchClause formed.head (by omega)) ?_
  intro link member
  have bounded := Clause.tokens_length_le_linkTokens member
  exact takes_searchClause (formed.clauses link member) (by omega)

end ContextualQuery.Grammar
