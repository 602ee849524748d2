import ContextualQuery.Proofs.Derivation
import ContextualQuery.Proofs.Parser.Reads

/-!
# What the parser reads

Every production of the grammar reads words of the derivations that it stands for, and gives their
tree. The statements follow the productions one by one; alternatives that were tried before and did
not match leave no trace, because they were tried behind a bookmark. The induction is on the depth
of nesting for queries, and on the number of steps for the links of a chain.
-/

namespace ContextualQuery.Grammar

open Production ParserState

variable {options : Options}

/-- A term reads one token, and gives its text without quotes. -/
theorem reads_term (state : ParserState) :
    Reads term state fun words tree =>
      ∃ token : Token, token.IsTerm ∧ words = [token] ∧ tree = Tree.term token.unquote := by
  refine Reads.peek ?_
  split
  case h_1 => exact Reads.fail
  case h_2 token first =>
    by_cases structural : token.startsStructural = true
    · rw [if_pos structural]
      exact Reads.fail
    · rw [if_neg structural]
      have isTerm : token.IsTerm := by simpa [Token.IsTerm] using structural
      exact Reads.next_of_head first (Reads.pure ⟨token, isTerm, rfl, rfl⟩)

/-- A term is read inside of an index and of a search term as well. -/
theorem reads_wrapped_term (wrap : Tree → Tree) (state : ParserState) :
    Reads (wrap <$> term) state fun words tree =>
      ∃ token : Token, token.IsTerm ∧ words = [token] ∧ tree = wrap (Tree.term token.unquote) := by
  refine Reads.map ((reads_term state).weaken ?_)
  rintro words tree ⟨token, isTerm, rfl, rfl⟩
  exact ⟨token, isTerm, rfl, rfl⟩

/-- A modifier is a boost, if the options admit boosts. The cases are those of the production; all but the
last one end in a mismatch or in a rejection. -/
theorem reads_modifier (state : ParserState) :
    Reads (modifier options) state fun words tree =>
      ∃ boost : Token, options.supportsModifierName boostModifier = true ∧ boost.IsBoost ∧
        words = [⟨"/"⟩, ⟨boostModifier⟩, ⟨"="⟩, boost] ∧
        tree = Tree.modifier (Tree.identifier boostModifier) (Tree.comparitor "=")
          (Tree.term boost.unquote) := by
  refine Reads.bind (Reads.expect "/") ?_
  rintro _ _ middle rfl -
  refine Reads.peek ?_
  split
  case h_1 => exact Reads.fail
  case h_2 name first =>
    split
    · exact Reads.fail
    · split
      · exact Reads.reject _ _
      case isFalse supported =>
        split
        · exact Reads.reject _ _
        case isFalse isBoostName =>
          have sameName : name = ⟨boostModifier⟩ := by
            cases name
            simpa using isBoostName
          subst sameName
          refine Reads.next_of_head first (Reads.bind (Reads.expect "=") ?_)
          rintro _ _ afterEquals rfl -
          refine Reads.bind (reads_term afterEquals) ?_
          rintro _ _ afterValue ⟨boost, isTerm, rfl, rfl⟩ -
          split
          case isTrue isValue =>
            have isBoost : boost.IsBoost := ⟨isTerm, by simpa [Tree.text?_term] using isValue⟩
            exact Reads.pure ⟨boost, by simpa using supported, isBoost, rfl, rfl⟩
          case isFalse => exact Reads.fail

/-- A list of modifiers reads a single boost. -/
theorem reads_modifierList (state : ParserState) :
    Reads (modifierList options) state fun words tree =>
      ∃ boost : Token, options.supportsModifierName boostModifier = true ∧ boost.IsBoost ∧
        words = [⟨"/"⟩, ⟨boostModifier⟩, ⟨"="⟩, boost] ∧
        tree = Tree.modifierList [Tree.modifier (Tree.identifier boostModifier)
          (Tree.comparitor "=") (Tree.term boost.unquote)] := by
  refine Reads.bind (reads_modifier state) ?_
  rintro _ _ middle ⟨boost, supported, isBoost, rfl, rfl⟩ -
  refine Reads.sees fun seen _ => ?_
  split
  · exact Reads.reject _ _
  · exact Reads.pure ⟨boost, supported, isBoost, rfl, rfl⟩

/-- A comparitor reads one token that the options know as a comparitor. -/
theorem reads_comparitor (state : ParserState) :
    Reads (comparitor options) state fun words tree =>
      ∃ token : Token, token.IsComparitor options ∧ words = [token] ∧
        tree = Tree.comparitor token.text := by
  refine Reads.peek ?_
  split
  case h_1 => exact Reads.fail
  case h_2 token first =>
    split
    · exact Reads.fail
    case isFalse known =>
      split
      · exact Reads.reject _ _
      case isFalse supported =>
        have isComparitor : token.IsComparitor options :=
          ⟨by simpa using known, by simpa using supported⟩
        exact Reads.next_of_head first (Reads.pure ⟨token, isComparitor, rfl, rfl⟩)

/-- The words of a boolean are one token, whose lower case is the operator. -/
theorem reads_boolean (state : ParserState) :
    Reads boolean state fun words tree =>
      ∃ token : Token, token.IsBoolean ∧ words = [token] ∧ tree = Tree.boolean token.text := by
  refine Reads.peek ?_
  split
  case h_1 => exact Reads.fail
  case h_2 token first =>
    dsimp only
    split
    · exact Reads.reject _ _
    · split
      case isTrue operator =>
        have isBoolean : token.IsBoolean := operator
        exact Reads.next_of_head first (Reads.pure ⟨token, isBoolean, rfl, isBoolean.tree_lower⟩)
      case isFalse => exact Reads.fail

/-- A boolean reads one token that is a boolean, as modifiers behind it never match. -/
theorem reads_booleanGroup (state : ParserState) :
    Reads booleanGroup state fun words tree =>
      ∃ token : Token, token.IsBoolean ∧ words = [token] ∧ tree = Tree.boolean token.text := by
  refine Reads.bind (reads_boolean state) ?_
  rintro _ _ middle ⟨token, isBoolean, rfl, rfl⟩ -
  refine Reads.sees fun seen _ => ?_
  split
  · exact Reads.reject _ _
  · exact Reads.pure ⟨token, isBoolean, rfl, rfl⟩

/-- The words and the tree of a derivation of a clause. -/
def DerivesClause (options : Options) (words : List Token) (tree : Tree) : Prop :=
  ∃ clause : Clause, clause.Formed options ∧ clause.tokens = words ∧ clause.tree = tree

/-- The words and the tree of a derivation of a query. -/
def DerivesChain (options : Options) (words : List Token) (tree : Tree) : Prop :=
  ∃ chain : Chain, chain.Formed options ∧ chain.tokens = words ∧ chain.tree = tree

/-- The words and the trees of a derivation of links. -/
def DerivesLinks (options : Options) (words : List Token) (trees : List Tree.Link) : Prop :=
  ∃ links : List (Token × Clause), (∀ link ∈ links, link.1.IsBoolean) ∧
    (∀ link ∈ links, link.2.Formed options) ∧ Clause.linkTokens links = words ∧
    Clause.linkTrees links = trees

/-- A relation is a comparitor, or a comparitor with a boost. -/
theorem reads_relation (state : ParserState) :
    Reads (relation options) state fun words tree =>
      ∃ comparitor : Token, comparitor.IsComparitor options ∧
        ((words = [comparitor] ∧ tree = Tree.relation (Tree.comparitor comparitor.text) none) ∨
        ∃ boost : Token, options.supportsModifierName boostModifier = true ∧ boost.IsBoost ∧
          words = [comparitor, ⟨"/"⟩, ⟨boostModifier⟩, ⟨"="⟩, boost] ∧
          tree = Tree.relation (Tree.comparitor comparitor.text)
            (some (Tree.modifierList [Tree.modifier (Tree.identifier boostModifier)
              (Tree.comparitor "=") (Tree.term boost.unquote)]))) := by
  refine Reads.bind (reads_comparitor state) ?_
  rintro _ _ middle ⟨comparitor, supported, rfl, rfl⟩ -
  refine Reads.sees fun seen _ => ?_
  split
  · refine Reads.bind (reads_modifierList _) ?_
    rintro _ _ afterModifiers ⟨boost, allowed, isBoost, rfl, rfl⟩ -
    exact Reads.pure ⟨comparitor, supported, .inr ⟨boost, allowed, isBoost, rfl, rfl⟩⟩
  · exact Reads.pure ⟨comparitor, supported, .inl ⟨rfl, rfl⟩⟩

/-- A clause with an index reads the tokens of a clause. -/
theorem reads_indexedClause (state : ParserState) :
    Reads (indexedClause options) state (DerivesClause options) := by
  refine Reads.bind (reads_wrapped_term Tree.index state) ?_
  rintro _ _ afterIndex ⟨index, indexIsTerm, rfl, rfl⟩ -
  refine Reads.bind (reads_relation afterIndex) ?_
  rintro _ _ afterRelation ⟨comparitor, supported, relation⟩ -
  refine Reads.bind (reads_wrapped_term Tree.searchTerm afterRelation) ?_
  rintro _ _ afterTerm ⟨term, isTerm, rfl, rfl⟩ -
  rcases relation with ⟨rfl, rfl⟩ | ⟨boost, allowed, isBoost, rfl, rfl⟩
  · exact Reads.pure ⟨_, .indexed indexIsTerm supported isTerm, rfl, rfl⟩
  · exact Reads.pure ⟨_, .boosted indexIsTerm supported allowed isBoost isTerm, rfl, rfl⟩

variable {inner clause : Production Tree}

/-- A group is what the given production reads, between parentheses. -/
theorem reads_group (readsInner : ∀ state, Reads inner state (DerivesChain options))
    {state : ParserState} (opened : state.remaining.head? = some ⟨"("⟩) :
    Reads (group inner) state (DerivesClause options) := by
  refine Reads.next_of_head opened (Reads.bind (readsInner state.stepped) ?_)
  rintro _ _ afterQuery ⟨chain, formed, rfl, rfl⟩ -
  refine Reads.bind (Reads.expect ")") ?_
  rintro _ _ closed rfl -
  exact Reads.pure ⟨_, .group formed.head formed.booleans formed.clauses,
    by simp [Chain.tokens_group], chain.tree_group⟩

/-- A search clause reads the tokens of a clause, if the queries in groups read those of queries. -/
theorem reads_searchClause (readsInner : ∀ state, Reads inner state (DerivesChain options))
    (state : ParserState) : Reads (searchClause options inner) state (DerivesClause options) := by
  refine Reads.sees fun seen opened => ?_
  split
  case isTrue isSeen => exact Reads.bookmarked (reads_group readsInner (opened isSeen))
  case isFalse =>
    refine Reads.orElse (reads_indexedClause _) fun middle _ => Reads.map ?_
    refine (reads_wrapped_term Tree.searchTerm middle).weaken ?_
    rintro words tree ⟨term, isTerm, rfl, rfl⟩
    exact ⟨.word term, .word isTerm, rfl, rfl⟩

/-- A link reads a boolean and the tokens of a clause. -/
theorem reads_link (readsClause : ∀ state, Reads clause state (DerivesClause options))
    (state : ParserState) :
    Reads (link clause) state fun words tree => DerivesLinks options words [tree] := by
  refine Reads.bind (reads_booleanGroup state) ?_
  rintro _ _ afterBoolean ⟨boolean, isBoolean, rfl, rfl⟩ -
  refine Reads.bind (readsClause afterBoolean) ?_
  rintro _ _ afterClause ⟨next, formed, rfl, rfl⟩ -
  exact Reads.pure ⟨[(boolean, next)], by simpa using isBoolean, by simpa using formed,
    by simp [Clause.linkTokens], by simp [Clause.linkTrees]⟩

/-- The links of a chain, however many steps are left. -/
theorem reads_links (readsClause : ∀ state, Reads clause state (DerivesClause options))
    (steps : Nat) (state : ParserState) :
    Reads (links clause steps) state (DerivesLinks options) := by
  induction steps generalizing state with
  | zero => exact Reads.stop
  | succ steps inductionHypothesis =>
    refine Reads.bind (Reads.optional (reads_link readsClause state.marked)) ?_
    rintro words first? middle (⟨rfl, rfl⟩ | ⟨first, rfl, front, booleans, formed, rfl, trees⟩) -
    · exact Reads.pure ⟨[], by simp, by simp, rfl, rfl⟩
    · refine Reads.bind (inductionHypothesis middle) ?_
      rintro _ following after ⟨back, backBooleans, backFormed, rfl, rfl⟩ -
      refine Reads.pure ⟨front ++ back, ?_, ?_, by simp [Clause.linkTokens_append], ?_⟩
      · exact List.forall_mem_append.mpr ⟨booleans, backBooleans⟩
      · exact List.forall_mem_append.mpr ⟨formed, backFormed⟩
      · rw [Clause.linkTrees_eq_map] at trees ⊢
        rw [List.map_append, trees, Clause.linkTrees_eq_map]
        rfl

/-- A scoped clause reads the tokens of a query. -/
theorem reads_scopedClause (readsClause : ∀ state, Reads clause state (DerivesClause options))
    (state : ParserState) :
    Reads (Tree.cqlQuery <$> scopedClause clause) state (DerivesChain options) := by
  refine Reads.map (Reads.bind (readsClause state) ?_)
  rintro _ _ afterHead ⟨head, headFormed, rfl, rfl⟩ -
  refine Reads.bind (Reads.withSteps fun steps => reads_links readsClause steps afterHead) ?_
  rintro _ _ afterLinks ⟨links, booleans, formed, rfl, rfl⟩ -
  have derived : DerivesChain options (head.tokens ++ Clause.linkTokens links)
      (Tree.cqlQuery (Tree.chain head.tree (Clause.linkTrees links))) :=
    ⟨⟨head, links⟩, ⟨headFormed, booleans, formed⟩, rfl, rfl⟩
  split
  · refine Reads.recordChain _ fun middle _ => Reads.pure ?_
    simpa using derived
  · refine Reads.pure ?_
    simpa using derived

/-- A prefix assignment is never accepted. -/
theorem reads_prefixAssignment {Good : List Token → Tree → Prop} (state : ParserState) :
    Reads prefixAssignment state Good := by
  cases split : state.remaining with
  | nil => exact Reads.after (next_of_nil split) (moves_looked state) Reads.fail
  | cons mark rest =>
    refine Reads.after (next_of_cons split) (moves_stepped split) ?_
    exact Reads.bind (reads_term _) fun _ _ _ _ _ => Reads.reject _ _

/-- A query is a chain of clauses, however deep its groups are nested. -/
theorem reads_query (depth : Nat) (state : ParserState) :
    Reads (query options depth) state (DerivesChain options) := by
  induction depth generalizing state with
  | zero => exact Reads.stop
  | succ depth inductionHypothesis =>
    refine Reads.sees fun seen _ => ?_
    split
    · exact Reads.bookmarked (reads_prefixAssignment _)
    · exact reads_scopedClause (reads_searchClause inductionHypothesis) _

end ContextualQuery.Grammar
