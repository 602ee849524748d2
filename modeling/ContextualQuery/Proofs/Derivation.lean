import ContextualQuery.Parser.Grammar

/-!
# Derivations

The grammar of queries without the order in which alternatives are tried:

    chain   = clause *(boolean clause)
    clause  = "(" chain ")" / term / term comparitor term
            / term comparitor "/" "boost" "=" boost term

A derivation of this grammar is a clause or a chain of clauses that holds the tokens it was derived
with. It determines the tokens it derives, in their order, and the syntax tree of the query.
`Formed` says which tokens may stand in which place under some options: they limit the comparitors,
and they admit boosts or not. It is decidable, so that of a given derivation it is computed.
-/

namespace ContextualQuery

namespace Token

/-- A term does not start with a structural character. -/
def IsTerm (token : Token) : Prop := token.startsStructural = false

/-- A boolean, in any mixture of cases. -/
def IsBoolean (token : Token) : Prop :=
  Text.lower token.text = "and" ∨ Text.lower token.text = "or" ∨ Text.lower token.text = "not"

/-- The tokens that can follow a clause are in lower case, up to the case of booleans. -/
theorem lower_stable : ∀ text ∈ ["and", "or", "not", ")"], Text.lower text = text := by
  decide +kernel

/-- The lower case of a boolean is in lower case itself. -/
theorem IsBoolean.lower_lower {token : Token} (isBoolean : token.IsBoolean) :
    Text.lower (Text.lower token.text) = Text.lower token.text := by
  refine lower_stable _ ?_
  rcases isBoolean with name | name | name <;> simp [name]

/-- A boolean is kept in lower case. -/
theorem IsBoolean.tree_lower {token : Token} (isBoolean : token.IsBoolean) :
    Tree.boolean (Text.lower token.text) = Tree.boolean token.text := by
  rw [Tree.boolean, isBoolean.lower_lower, Tree.boolean]

/-- A comparitor of the language that the options support. -/
def IsComparitor (options : Options) (token : Token) : Prop :=
  isComparitor token.text = true ∧ options.supportsComparitor token.text = true

/-- A term that writes the value of a boost. -/
def IsBoost (token : Token) : Prop :=
  token.IsTerm ∧ Grammar.isBoostValue token.unquote = true

/-- Whether a token is a term is decided by its text. -/
instance (token : Token) : Decidable token.IsTerm :=
  inferInstanceAs (Decidable (token.startsStructural = false))

/-- Whether a token is a boolean is decided by its text. -/
instance (token : Token) : Decidable token.IsBoolean :=
  inferInstanceAs (Decidable (_ ∨ _))

/-- Whether the options know a token as a comparitor is decided by its text. -/
instance (options : Options) (token : Token) : Decidable (token.IsComparitor options) :=
  inferInstanceAs (Decidable (_ ∧ _))

/-- Whether a token is the value of a boost is decided by its text. -/
instance (token : Token) : Decidable token.IsBoost :=
  inferInstanceAs (Decidable (_ ∧ _))

end Token

/-- The derivation of a clause. -/
inductive Clause where
  | word (term : Token)
  | indexed (index comparitor term : Token)
  | boosted (index comparitor boost term : Token)
  | group (head : Clause) (links : List (Token × Clause))

/-- The derivation of a query: a clause, and booleans with a clause each. -/
structure Chain where
  head : Clause
  links : List (Token × Clause)

namespace Clause

/-- To show a property of all derivations of clauses, it is enough to show it of those without
groups, and of a group whenever its clauses have it. -/
@[elab_as_elim, induction_eliminator]
theorem induct {motive : Clause → Prop} (word : ∀ term, motive (.word term))
    (indexed : ∀ index comparitor term, motive (.indexed index comparitor term))
    (boosted : ∀ index comparitor boost term, motive (.boosted index comparitor boost term))
    (group : ∀ head links, motive head → (∀ link ∈ links, motive link.2) →
      motive (.group head links))
    (clause : Clause) : motive clause :=
  Clause.rec (motive_1 := motive) (motive_2 := fun links => ∀ link ∈ links, motive link.2)
    (motive_3 := fun link => motive link.2) word indexed boosted group (by simp)
    (fun _ _ first others => List.forall_mem_cons.mpr ⟨first, others⟩) (fun _ _ inner => inner)
    clause

/-- The tokens of a derivation stand where the grammar and the options allow them. -/
inductive Formed (options : Options) : Clause → Prop
  | word {term : Token} (isTerm : term.IsTerm) : Formed options (.word term)
  | indexed {index comparitor term : Token} (indexIsTerm : index.IsTerm)
      (supported : comparitor.IsComparitor options) (isTerm : term.IsTerm) :
      Formed options (.indexed index comparitor term)
  | boosted {index comparitor boost term : Token} (indexIsTerm : index.IsTerm)
      (supported : comparitor.IsComparitor options)
      (allowed : options.supportsModifierName boostModifier = true) (isBoost : boost.IsBoost)
      (isTerm : term.IsTerm) :
      Formed options (.boosted index comparitor boost term)
  | group {head : Clause} {links : List (Token × Clause)} (headFormed : Formed options head)
      (booleans : ∀ link ∈ links, link.1.IsBoolean)
      (clauses : ∀ link ∈ links, Formed options link.2) :
      Formed options (.group head links)

section Inversion

variable {options : Options} {index comparitor boost term : Token} {head : Clause}
  {links : List (Token × Clause)}

/-- A clause of one word is formed if the word is a term. -/
theorem formed_word_iff : (word term).Formed options ↔ term.IsTerm :=
  ⟨fun (.word isTerm) => isTerm, .word⟩

/-- What a clause with an index is formed of. -/
theorem formed_indexed_iff : (indexed index comparitor term).Formed options ↔
    index.IsTerm ∧ comparitor.IsComparitor options ∧ term.IsTerm :=
  ⟨fun (.indexed indexIsTerm supported isTerm) => ⟨indexIsTerm, supported, isTerm⟩,
    fun ⟨indexIsTerm, supported, isTerm⟩ => .indexed indexIsTerm supported isTerm⟩

/-- What a clause with a boost is formed of. -/
theorem formed_boosted_iff : (boosted index comparitor boost term).Formed options ↔
    index.IsTerm ∧ comparitor.IsComparitor options ∧
      options.supportsModifierName boostModifier = true ∧ boost.IsBoost ∧ term.IsTerm :=
  ⟨fun (.boosted indexIsTerm supported allowed isBoost isTerm) =>
      ⟨indexIsTerm, supported, allowed, isBoost, isTerm⟩,
    fun ⟨indexIsTerm, supported, allowed, isBoost, isTerm⟩ =>
      .boosted indexIsTerm supported allowed isBoost isTerm⟩

/-- A group is formed if its clauses and booleans are. -/
theorem formed_group_iff : (group head links).Formed options ↔
    head.Formed options ∧ (∀ link ∈ links, link.1.IsBoolean) ∧
      ∀ link ∈ links, link.2.Formed options :=
  ⟨fun (.group headFormed booleans clauses) => ⟨headFormed, booleans, clauses⟩,
    fun ⟨headFormed, booleans, clauses⟩ => .group headFormed booleans clauses⟩

end Inversion

/-! ### Checking a derivation -/

mutual

/-- Checks the tokens of a clause. -/
def isFormed (options : Options) : Clause → Bool
  | .word term => decide term.IsTerm
  | .indexed index comparitor term =>
    decide (index.IsTerm ∧ comparitor.IsComparitor options ∧ term.IsTerm)
  | .boosted index comparitor boost term =>
    decide (index.IsTerm ∧ comparitor.IsComparitor options ∧
      options.supportsModifierName boostModifier = true ∧ boost.IsBoost ∧ term.IsTerm)
  | .group head links => isFormed options head && areFormed options links

/-- Checks booleans with their clauses. -/
def areFormed (options : Options) : List (Token × Clause) → Bool
  | [] => true
  | (boolean, clause) :: rest =>
    decide boolean.IsBoolean && isFormed options clause && areFormed options rest

end

variable {options : Options}

/-- Links pass the check if each boolean and each clause does. -/
theorem areFormed_iff {links : List (Token × Clause)} :
    areFormed options links = true ↔
      (∀ link ∈ links, link.1.IsBoolean) ∧ ∀ link ∈ links, link.2.isFormed options = true := by
  induction links with
  | nil => simp [areFormed]
  | cons link rest inductionHypothesis =>
    simp only [areFormed, Bool.and_eq_true, decide_eq_true_eq, inductionHypothesis,
      List.forall_mem_cons]
    exact and_and_and_comm

/-- The check accepts exactly the derivations whose tokens stand where they may. -/
theorem isFormed_iff {clause : Clause} : clause.isFormed options = true ↔ clause.Formed options := by
  induction clause with
  | word term => rw [isFormed, decide_eq_true_eq, formed_word_iff]
  | indexed index comparitor term => rw [isFormed, decide_eq_true_eq, formed_indexed_iff]
  | boosted index comparitor boost term => rw [isFormed, decide_eq_true_eq, formed_boosted_iff]
  | group head links headHypothesis linkHypothesis =>
    rw [isFormed, Bool.and_eq_true, areFormed_iff, headHypothesis, formed_group_iff]
    have clauses : (∀ link ∈ links, link.2.isFormed options = true) ↔
        ∀ link ∈ links, link.2.Formed options :=
      forall₂_congr linkHypothesis
    rw [clauses]

/-- Whether the tokens of a clause stand where they may is decided by the check. -/
instance (options : Options) (clause : Clause) : Decidable (clause.Formed options) :=
  decidable_of_iff (clause.isFormed options = true) isFormed_iff

/-! ### Tokens and trees -/

mutual

/-- The tokens that a clause derives. -/
def tokens : Clause → List Token
  | .word term => [term]
  | .indexed index comparitor term => [index, comparitor, term]
  | .boosted index comparitor boost term =>
    [index, comparitor, ⟨"/"⟩, ⟨boostModifier⟩, ⟨"="⟩, boost, term]
  | .group head links => ⟨"("⟩ :: (tokens head ++ linkTokens links ++ [⟨")"⟩])

/-- The tokens that booleans with their clauses derive. -/
def linkTokens : List (Token × Clause) → List Token
  | [] => []
  | (boolean, clause) :: rest => boolean :: (tokens clause ++ linkTokens rest)

end

mutual

/-- The syntax tree of a clause: terms without quotes, comparitors as written, booleans in lower
case. -/
def tree : Clause → Tree
  | .word term => Tree.searchClause (Tree.searchTerm (Tree.term term.unquote))
  | .indexed index comparitor term =>
    Tree.indexedSearchClause (Tree.index (Tree.term index.unquote))
      (Tree.relation (Tree.comparitor comparitor.text) none)
      (Tree.searchTerm (Tree.term term.unquote))
  | .boosted index comparitor boost term =>
    Tree.indexedSearchClause (Tree.index (Tree.term index.unquote))
      (Tree.relation (Tree.comparitor comparitor.text)
        (some (Tree.modifierList [Tree.modifier (Tree.identifier boostModifier)
          (Tree.comparitor "=") (Tree.term boost.unquote)])))
      (Tree.searchTerm (Tree.term term.unquote))
  | .group head links => Tree.group (Tree.cqlQuery (Tree.chain (tree head) (linkTrees links)))

/-- The syntax trees of booleans with their clauses. -/
def linkTrees : List (Token × Clause) → List Tree.Link
  | [] => []
  | (boolean, clause) :: rest => (Tree.boolean boolean.text, tree clause) :: linkTrees rest

end

/-- The trees of the links are those of each link. -/
theorem linkTrees_eq_map (links : List (Token × Clause)) :
    linkTrees links = links.map fun link => (Tree.boolean link.1.text, link.2.tree) := by
  induction links with
  | nil => rfl
  | cons link rest inductionHypothesis => simp [linkTrees, inductionHypothesis]

/-- The tokens of links stand one behind the other. -/
theorem linkTokens_append (front back : List (Token × Clause)) :
    linkTokens (front ++ back) = linkTokens front ++ linkTokens back := by
  induction front with
  | nil => rfl
  | cons link rest inductionHypothesis => simp [linkTokens, inductionHypothesis]

/-- A token of the links is a boolean or stands in a clause of one of them. -/
theorem mem_linkTokens {token : Token} {links : List (Token × Clause)} :
    token ∈ linkTokens links ↔ ∃ link ∈ links, token = link.1 ∨ token ∈ link.2.tokens := by
  induction links with
  | nil => simp [linkTokens]
  | cons link rest inductionHypothesis => simp [linkTokens, inductionHypothesis, or_assoc]

/-- There is a token for every link. -/
theorem length_le_linkTokens (links : List (Token × Clause)) :
    links.length ≤ (linkTokens links).length := by
  induction links with
  | nil => simp
  | cons link rest inductionHypothesis =>
    simp only [linkTokens, List.length_cons, List.length_append]
    omega

/-- A clause of a chain has fewer tokens than the chain. -/
theorem tokens_length_le_linkTokens {link : Token × Clause} {links : List (Token × Clause)}
    (member : link ∈ links) : link.2.tokens.length ≤ (linkTokens links).length := by
  obtain ⟨front, back, rfl⟩ := List.append_of_mem member
  simp only [linkTokens_append, linkTokens, List.length_append, List.length_cons]
  omega

end Clause

namespace Chain

/-- The tokens of a query stand where the grammar and the options allow them. -/
structure Formed (options : Options) (chain : Chain) : Prop where
  head : chain.head.Formed options
  booleans : ∀ link ∈ chain.links, link.1.IsBoolean
  clauses : ∀ link ∈ chain.links, link.2.Formed options

/-- Checks the tokens of a query. -/
def isFormed (options : Options) (chain : Chain) : Bool :=
  chain.head.isFormed options && Clause.areFormed options chain.links

/-- The check accepts exactly the queries whose tokens stand where they may. -/
theorem isFormed_iff {options : Options} {chain : Chain} :
    chain.isFormed options = true ↔ chain.Formed options := by
  simp only [isFormed, Bool.and_eq_true, Clause.areFormed_iff, Clause.isFormed_iff]
  constructor
  · rintro ⟨head, booleans, clauses⟩
    exact ⟨head, booleans, clauses⟩
  · rintro ⟨head, booleans, clauses⟩
    exact ⟨head, booleans, clauses⟩

/-- Whether the tokens of a query stand where they may is decided by the check. -/
instance (options : Options) (chain : Chain) : Decidable (chain.Formed options) :=
  decidable_of_iff (chain.isFormed options = true) isFormed_iff

/-- The tokens that a query derives. -/
def tokens (chain : Chain) : List Token := chain.head.tokens ++ Clause.linkTokens chain.links

/-- The syntax tree of a query. -/
def tree (chain : Chain) : Tree :=
  Tree.cqlQuery (Tree.chain chain.head.tree (Clause.linkTrees chain.links))

/-- The tokens of a group are those of its chain between parentheses. -/
theorem tokens_group (chain : Chain) :
    (Clause.group chain.head chain.links).tokens = ⟨"("⟩ :: (chain.tokens ++ [⟨")"⟩]) := by
  rw [Clause.tokens, tokens]

/-- The tree of a group holds the tree of its chain. -/
theorem tree_group (chain : Chain) :
    (Clause.group chain.head chain.links).tree = Tree.group chain.tree := by
  rw [Clause.tree, tree]

end Chain

end ContextualQuery
