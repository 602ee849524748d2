import ContextualQuery.Proofs.Parser.Completeness
import ContextualQuery.Proofs.Parser.Soundness

/-!
# Getting past a query

Where the tokens of a query stand next, the parser gets past them, whatever follows: it does not
give up, and if it matches, it has read at least so many tokens. It can read more, because a word
that ends the query may turn out to be the index of a longer clause, and because links may follow.
It can also reject the query because of what follows.

Only the last clause of a query is in question. Every other clause is followed by a boolean, and
taken exactly.
-/

namespace ContextualQuery

namespace Production

open ParserState

variable {α β : Type} {state : ParserState} {words : List Token} {value : α} {size front back : Nat}

/-- The production does not give up, and if it matches, it gets past a number of tokens. -/
structure Covers (production : Production α) (state : ParserState) (size : Nat) : Prop where
  matched : ∀ {value after}, production state = (.matched value, after) →
    state.cursor.position + size ≤ after.cursor.position
  mismatch : ∀ {after}, production state ≠ (.mismatch, after)

/-- A production gets past the words that it takes. -/
theorem Takes.covers {production : Production α} (takes : Takes production state words value) :
    Covers production state words.length := by
  obtain ⟨after, ended, moves⟩ := takes
  constructor
  · intro value' after' other
    obtain ⟨-, rfl⟩ : value = value' ∧ after = after' := by simpa [ended] using other
    exact Nat.le_of_eq moves.position.symm
  · intro after' other
    simp [ended] at other

/-- A production that never gives up gets past what it can only read. -/
theorem Reads.covers {production : Production α} {Good : List Token → α → Prop}
    (reads : Reads production state Good)
    (least : ∀ words value, Good words value → size ≤ words.length)
    (mismatch : ∀ {after}, production state ≠ (.mismatch, after)) :
    Covers production state size := by
  constructor
  · intro value after ended
    obtain ⟨words, moves, good⟩ := reads.matched ended
    have enough := least words value good
    rw [moves.position]
    omega
  · exact mismatch

/-- Giving a value gets past no token. -/
theorem Covers.pure (value : α) (state : ParserState) : Covers (pure value) state 0 :=
  (Takes.pure value state).covers

/-- A production without steps left matches nothing, so it gets past any number of tokens. -/
theorem Covers.stop : Covers (stop : Production α) state size := by
  constructor
  · intro value after ended
    simp [Production.stop] at ended
  · simp [Production.stop]

/-- The second part gets past its tokens wherever the first part leaves it. -/
theorem Covers.bind {first : Production α} {second : α → Production β}
    (coversFirst : Covers first state front)
    (coversSecond : ∀ value middle, Covers (second value) middle back) :
    Covers (first >>= second) state (front + back) := by
  constructor
  · intro value after ended
    obtain ⟨via, middle, firstEnd, secondEnd⟩ := bind_eq_matched.mp ended
    have firstPast := coversFirst.matched firstEnd
    have secondPast := (coversSecond via middle).matched secondEnd
    omega
  · intro after ended
    rcases bind_eq_mismatch.mp ended with firstEnd | ⟨via, middle, _, secondEnd⟩
    · exact coversFirst.mismatch firstEnd
    · exact (coversSecond via middle).mismatch secondEnd

/-- Behind the words that the first part takes, the second part gets past its tokens. -/
theorem Takes.bind_covers {first : Production α} {second : α → Production β}
    (takes : Takes first state words value)
    (covers : ∀ middle, Moves words state middle → Covers (second value) middle back) :
    Covers (first >>= second) state (words.length + back) := by
  obtain ⟨middle, firstEnd, moves⟩ := takes
  have covers := covers middle moves
  have position := moves.position
  constructor
  · intro value after ended
    rw [bind_matched firstEnd] at ended
    have past := covers.matched ended
    omega
  · intro after ended
    rw [bind_matched firstEnd] at ended
    exact covers.mismatch ended

/-- Changing the value does not change how far a production gets. -/
theorem Covers.map {production : Production α} (change : α → β)
    (covers : Covers production state size) : Covers (change <$> production) state size :=
  covers.bind fun value middle => Covers.pure (change value) middle

/-- Where a text is not seen, the rest of the production counts. -/
theorem Covers.sees_not {body : Bool → Production α} {text : String}
    (absent : ∀ token ∈ state.remaining.head?, token.text ≠ text)
    (covers : Covers (body false) state.looked size) :
    Covers (Production.sees text >>= body) state size := by
  constructor
  · intro value after ended
    rw [bind_matched (sees_of_absent absent)] at ended
    exact covers.matched ended
  · intro after ended
    rw [bind_matched (sees_of_absent absent)] at ended
    exact covers.mismatch ended

/-- From a bookmark a production gets as far as without one. -/
theorem Covers.bookmarked {production : Production α}
    (covers : Covers production state.marked size) : Covers (bookmarked production) state size := by
  constructor
  · intro value after ended
    rw [Production.bookmarked] at ended
    split at ended <;>
      simp only [Prod.mk.injEq, Attempt.matched.injEq, reduceCtorEq, false_and] at ended
    case h_1 inner innerEnd =>
      obtain ⟨rfl, rfl⟩ := ended
      have past := covers.matched innerEnd
      exact past
  · intro after ended
    rw [Production.bookmarked] at ended
    split at ended <;> simp only [Prod.mk.injEq, reduceCtorEq, false_and] at ended
    case h_2 innerEnd => exact covers.mismatch innerEnd

/-- A first alternative that does not give up leaves nothing to the second one. -/
theorem Covers.orElse {first : Production α} (second : Production α)
    (covers : Covers first state size) : Covers (orElse first second) state size := by
  constructor
  · intro value after ended
    rw [Production.orElse] at ended
    split at ended
    case h_1 firstEnd => exact absurd firstEnd covers.mismatch
    case h_2 => exact covers.matched ended
  · intro after ended
    rw [Production.orElse] at ended
    split at ended
    case h_1 firstEnd => exact covers.mismatch firstEnd
    case h_2 => exact covers.mismatch ended

/-- What may as well not match gets past tokens as what it tries does. -/
theorem Covers.optional {production : Production α} (covers : Covers production state size) :
    Covers (optional production) state size := (covers.map some).orElse _

/-- What is optional does not give up. -/
theorem optional_ne_mismatch {production : Production α} {after : ParserState} :
    Production.optional production state ≠ (.mismatch, after) := by
  intro ended
  rw [Production.optional, Production.orElse] at ended
  split at ended
  case h_1 => simp at ended
  case h_2 distinct => exact distinct after ended

/-- If a production gets past tokens with any number of steps, it does so with those it is given. -/
theorem Covers.withSteps {production : Nat → Production α}
    (covers : ∀ steps, Covers (production steps) state size) :
    Covers (withSteps production) state size := ⟨(covers _).matched, (covers _).mismatch⟩

end Production

namespace Grammar

open Production ParserState

variable {options : Options} {state : ParserState} {rest : List Token}
  {inner production : Production Tree}

/-! ### Clauses -/

/-- The production gets past the tokens of a clause wherever they stand. -/
def CoversClause (production : Production Tree) (clause : Clause) : Prop :=
  ∀ state rest, state.remaining = clause.tokens ++ rest →
    Covers production state clause.tokens.length

/-- What reads a clause wherever it stands gets past its tokens. -/
theorem TakesAnywhere.coversClause {clause : Clause} (takes : TakesAnywhere production clause) :
    CoversClause production clause := by
  intro state rest front
  exact (takes state rest front).covers

/-- A term is a clause if it is not the index of one. -/
theorem searchClause_ne_mismatch {term : Token} {after : ParserState} (isTerm : term.IsTerm)
    (front : state.remaining = term :: rest) :
    searchClause options inner state ≠ (.mismatch, after) := by
  intro ended
  have ungrouped : ∀ token ∈ state.remaining.head?, token.text ≠ "(" := by
    simpa [front] using text_ne_of_isTerm isTerm (by decide)
  rw [searchClause, bind_matched (sees_of_absent ungrouped), if_neg (by simp),
    Production.orElse] at ended
  split at ended
  case h_1 middle firstEnd =>
    -- the index was taken back, so the term is there to be read
    have back := (reads_indexedClause _).restores firstEnd
    have atTerm : middle.remaining = term :: rest := back.remaining_nil.trans front
    exact ((takes_wrapped_term Tree.searchTerm isTerm atTerm).map _).covers.mismatch ended
  case h_2 distinct => exact distinct after ended

/-- A word may turn out to be the index of a longer clause. -/
theorem covers_word (readsInner : ∀ state, Reads inner state (DerivesChain options)) {term : Token}
    (isTerm : term.IsTerm) : CoversClause (searchClause options inner) (.word term) := by
  intro state rest front
  refine (reads_searchClause readsInner state).covers ?_ (searchClause_ne_mismatch isTerm front)
  rintro words tree ⟨clause, formed, rfl, -⟩
  obtain ⟨first, back, shape, -⟩ := head_of_formed formed
  simp [Clause.tokens, shape]

/-- The parser gets past every clause, whatever follows it. -/
theorem covers_searchClause {clause : Clause} (formed : clause.Formed options) {depth : Nat}
    (enough : clause.tokens.length ≤ depth) :
    CoversClause (searchClause options (query options depth)) clause := by
  cases formed with
  | word isTerm => exact covers_word (reads_query depth) isTerm
  | indexed indexIsTerm supported isTerm =>
    exact (takes_indexed indexIsTerm supported isTerm).coversClause
  | boosted indexIsTerm supported allowed isBoost isTerm =>
    exact (takes_boosted indexIsTerm supported allowed isBoost isTerm).coversClause
  | @group head links headFormed booleans clauses =>
    have formed : Chain.Formed options ⟨head, links⟩ := ⟨headFormed, booleans, clauses⟩
    rw [(⟨head, links⟩ : Chain).tokens_group, List.length_cons, List.length_append] at enough
    obtain ⟨depth, rfl⟩ : ∃ below, depth = below + 1 := Nat.exists_eq_succ_of_ne_zero (by omega)
    exact (takes_group (takes_query formed (by omega))).coversClause

/-! ### Chains -/

/-- Links do not give up. -/
theorem links_ne_mismatch {steps : Nat} {after : ParserState} :
    links production steps state ≠ (.mismatch, after) := by
  induction steps generalizing state with
  | zero => simp [links, Production.stop]
  | succ steps inductionHypothesis =>
    intro ended
    rcases bind_eq_mismatch.mp ended with firstEnd | ⟨first?, middle, _, secondEnd⟩
    · exact optional_ne_mismatch firstEnd
    · cases first? with
      | none => simp at secondEnd
      | some first =>
        rcases bind_eq_mismatch.mp secondEnd with later | ⟨_, _, _, last⟩
        · exact inductionHypothesis later
        · simp at last

/-- Links do not go back. -/
theorem covers_any_links (readsClause : ∀ state, Reads production state (DerivesClause options))
    (steps : Nat) (state : ParserState) : Covers (links production steps) state 0 :=
  (reads_links readsClause steps state).covers (fun _ _ _ => Nat.zero_le _) links_ne_mismatch

/-- A first part is followed by links. If there are some, it takes its words exactly, because a
boolean follows them; if there are none, it is enough that it gets past its words. -/
theorem covers_linked {α β : Type} {first : Production α} {second : α → Production β}
    {words : List Token} {value : α} {links : List (Token × Clause)}
    (booleans : ∀ link ∈ links, link.1.IsBoolean)
    (front : state.remaining = words ++ (Clause.linkTokens links ++ rest))
    (covers : Covers first state words.length)
    (takes : EndsClause (Clause.linkTokens links ++ rest) → Takes first state words value)
    (later : ∀ middle, middle.remaining = Clause.linkTokens links ++ rest →
      Covers (second value) middle (Clause.linkTokens links).length)
    (anyhow : ∀ value middle, Covers (second value) middle 0) :
    Covers (first >>= second) state (words.length + (Clause.linkTokens links).length) := by
  cases links with
  | nil => exact covers.bind anyhow
  | cons link links =>
    have ends : EndsClause (Clause.linkTokens (link :: links) ++ rest) :=
      endsClause_of_isBoolean (booleans link (by simp))
    refine (takes ends).bind_covers fun middle moves => ?_
    exact later middle (moves.remaining_of_append front)

/-- A link gets past its boolean, and past the tokens of its clause. -/
theorem covers_link {link : Token × Clause} (isBoolean : link.1.IsBoolean)
    (formed : link.2.Formed options) (covers : CoversClause production link.2)
    (front : state.remaining = link.1 :: (link.2.tokens ++ rest)) :
    Covers (Grammar.link production) state (link.1 :: link.2.tokens).length := by
  have unmodified : ∀ token ∈ (link.2.tokens ++ rest).head?, token.text ≠ "/" :=
    head_ne_of_formed formed (by decide) (by decide)
  have whole : Covers (Grammar.link production) state
      ([link.1].length + (link.2.tokens.length + 0)) := by
    refine (takes_booleanGroup isBoolean front unmodified).bind_covers fun middle moves => ?_
    exact (covers middle rest (moves.remaining_of_append front)).bind fun _ _ => Covers.pure _ _
  simpa [Nat.add_comm] using whole

/-- The parser gets past links, if there are steps left. By induction on the links, with one step for
each. Where the chain goes on, the link is taken whole and the rest is covered by hypothesis; the last
link need not be taken, since getting past its words is enough. -/
theorem covers_links (readsClause : ∀ state, Reads production state (DerivesClause options))
    {links : List (Token × Clause)} (booleans : ∀ link ∈ links, link.1.IsBoolean)
    (formed : ∀ link ∈ links, link.2.Formed options)
    (takes : ∀ link ∈ links, TakesClause production link.2)
    (covers : ∀ link ∈ links, CoversClause production link.2) (steps : Nat) (state : ParserState)
    (front : state.remaining = Clause.linkTokens links ++ rest) :
    Covers (Grammar.links production steps) state (Clause.linkTokens links).length := by
  induction links generalizing steps state with
  | nil => exact covers_any_links readsClause steps state
  | cons link links inductionHypothesis =>
    obtain ⟨isBoolean, laterBooleans⟩ := List.forall_mem_cons.mp booleans
    obtain ⟨clauseFormed, laterFormed⟩ := List.forall_mem_cons.mp formed
    obtain ⟨takesClause, takesLater⟩ := List.forall_mem_cons.mp takes
    obtain ⟨coversClause, coversLater⟩ := List.forall_mem_cons.mp covers
    have atLink : state.remaining =
        (link.1 :: link.2.tokens) ++ (Clause.linkTokens links ++ rest) := by
      simp [front, Clause.linkTokens]
    cases steps with
    | zero => exact Covers.stop
    | succ steps =>
      have coversLink : Covers (Grammar.link production) state.marked
          (link.1 :: link.2.tokens).length :=
        covers_link isBoolean clauseFormed coversClause atLink
      have takesLink : EndsClause (Clause.linkTokens links ++ rest) →
          Takes (Grammar.link production) state.marked (link.1 :: link.2.tokens)
            (Tree.boolean link.1.text, link.2.tree) :=
        takes_link isBoolean clauseFormed takesClause atLink
      have whole : Covers (Grammar.links production (steps + 1)) state
          ((link.1 :: link.2.tokens).length + (Clause.linkTokens links).length) := by
        refine covers_linked laterBooleans atLink coversLink.bookmarked.optional
          (fun ends => (takesLink ends).bookmarked.optional) ?_ ?_
        · intro middle atLinks
          exact (inductionHypothesis laterBooleans laterFormed takesLater coversLater steps middle
            atLinks).bind fun _ _ => Covers.pure _ _
        · intro first? middle
          cases first? with
          | none => exact Covers.pure _ _
          | some first =>
            exact (covers_any_links readsClause steps middle).bind fun _ _ => Covers.pure _ _
      simpa [Clause.linkTokens, Nat.add_right_comm] using whole

/-- The parser gets past a chain. -/
theorem covers_scopedClause (readsClause : ∀ state, Reads production state (DerivesClause options))
    {chain : Chain} (formed : chain.Formed options) (takesHead : TakesClause production chain.head)
    (coversHead : CoversClause production chain.head)
    (takesLater : ∀ link ∈ chain.links, TakesClause production link.2)
    (coversLater : ∀ link ∈ chain.links, CoversClause production link.2)
    (front : state.remaining = chain.tokens ++ rest) :
    Covers (scopedClause production) state chain.tokens.length := by
  have atHead : state.remaining =
      chain.head.tokens ++ (Clause.linkTokens chain.links ++ rest) := by
    simp [front, Chain.tokens]
  have recorded : ∀ (head : Tree) (following : List Tree.Link) (middle : ParserState),
      Covers (do
        if !following.isEmpty then recordChain (Tree.chainSize following)
        return Tree.chain head following) middle 0 := by
    intro head following middle
    split
    · exact (Takes.recordChain _ _).covers.bind fun _ _ => Covers.pure _ _
    · exact Covers.pure _ _
  rw [Chain.tokens, List.length_append]
  refine covers_linked formed.booleans atHead (coversHead _ _ atHead) (takesHead _ _ atHead) ?_ ?_
  · intro middle atLinks
    refine Covers.bind (Covers.withSteps fun steps => ?_) fun following => recorded _ following
    exact covers_links readsClause formed.booleans formed.clauses takesLater coversLater steps
      middle atLinks
  · intro head middle
    refine Covers.bind (Covers.withSteps fun steps => ?_) fun following => recorded _ following
    exact covers_any_links readsClause steps middle

/-- The parser gets past a query, whatever follows it. -/
theorem covers_query {chain : Chain} (formed : chain.Formed options) {depth : Nat}
    (enough : chain.tokens.length ≤ depth) (front : state.remaining = chain.tokens ++ rest) :
    Covers (query options (depth + 1)) state chain.tokens.length := by
  rw [Chain.tokens, List.length_append] at enough
  have headEnough : chain.head.tokens.length ≤ depth := by omega
  have laterEnough : ∀ link ∈ chain.links, link.2.tokens.length ≤ depth := by
    intro link member
    have bounded := Clause.tokens_length_le_linkTokens member
    omega
  have takesLater : ∀ link ∈ chain.links,
      TakesClause (searchClause options (query options depth)) link.2 := fun link member =>
    takes_searchClause (formed.clauses link member) (laterEnough link member)
  have coversLater : ∀ link ∈ chain.links,
      CoversClause (searchClause options (query options depth)) link.2 := fun link member =>
    covers_searchClause (formed.clauses link member) (laterEnough link member)
  apply Covers.sees_not
  · rw [front, Chain.tokens, List.append_assoc]
    exact head_ne_of_formed formed.head (by decide) (by decide)
  · apply Covers.map
    exact covers_scopedClause (reads_searchClause (reads_query depth)) formed
      (takes_searchClause formed.head headEnough) (covers_searchClause formed.head headEnough)
      takesLater coversLater front

end Grammar

end ContextualQuery
