import ContextualQuery.Proofs.Derivation
import ContextualQuery.Proofs.Token.Lexeme

/-!
# Requoting

A rendered tree has no memory of the quotes that were written around its terms. It writes a term
with quotes exactly if no bare word could write it. `requoted` is what becomes of a token in this
way: a word that can stand in the same place and has the same term. Only the last character matters
here. A quoted term that ends in a backslash could not be closed again, but none of the terms that
are read does, unless its word is bare.

A derivation whose terms are requoted and whose booleans are in upper case is a derivation under the
same options, and its tree is the same.
-/

namespace ContextualQuery

namespace Token

/-! ### Words of terms -/

/-- A term without need for quotes is a bare word. -/
theorem needsQuotes_eq_false_iff (term : String) :
    needsQuotes term = false ↔ IsBareWord term.toList := by
  simp [needsQuotes, IsBareWord]

/-- Punctuation and texts without need for quotes are words of the language. -/
theorem isLexeme_of_plain {word : String}
    (plain : word.toList ∈ punctuation ∨ needsQuotes word = false) : IsLexeme word.toList :=
  plain.imp_right fun bare => .inl ((needsQuotes_eq_false_iff word).mp bare)

/-- The comparitors are words of the language. -/
theorem isLexeme_comparitor : ∀ name ∈ comparitors, IsLexeme name.toList := by
  have plain : ∀ name ∈ comparitors, name.toList ∈ punctuation ∨ needsQuotes name = false := by
    decide +kernel
  exact fun name listed => isLexeme_of_plain (plain name listed)

/-- The name of a boost is a word of the language. -/
theorem isLexeme_boostModifier : IsLexeme boostModifier.toList := isLexeme_of_plain (by decide)

/-- What stands between quotes is the interior of a quoted word. -/
theorem interior?_quoted (inner : List Char) :
    interior? ('"' :: (inner ++ ['"'])) = some inner := by
  simp [interior?]

/-- A word that does not start with a quote has no interior. -/
theorem interior?_bare {word : List Char} (bare : IsBareWord word) : interior? word = none := by
  obtain ⟨c, rest, rfl⟩ := List.exists_cons_of_ne_nil bare.1
  have notQuote : c ≠ '"' := ((isBare_iff c).mp (bare.2 c (by simp))).1
  rw [interior?.eq_def]
  split
  case h_1 shape => exact absurd (List.cons.inj shape).1 notQuote
  case h_2 => rfl

/-- The text that writes a term writes this term. -/
theorem unquote_quoteTerm (term : String) : unquote ⟨quoteTerm term⟩ = term := by
  rw [quoteTerm]
  split
  case isTrue => simp [unquote, interior?_quoted, unescapeQuotes_escapeQuotes]
  case isFalse plain =>
    have bare : IsBareWord term.toList := (needsQuotes_eq_false_iff term).mp (by simpa using plain)
    simp [unquote, interior?_bare bare]

/-- Where all quotes are escaped, escaping undoes unescaping. -/
theorem escapeQuotes_unescapeQuotes {chars : List Char}
    (escapes : escapedAfter false chars = true) :
    escapeQuotes (unescapeQuotes chars) = chars := by
  induction chars using unescapeQuotes.induct with
  | case1 rest inductionHypothesis =>
    have later : escapedAfter false rest = true := by simpa [escapedAfter] using escapes
    simp [unescapeQuotes, escapeQuotes, inductionHypothesis later]
  | case2 c rest plain inductionHypothesis =>
    simp only [escapedAfter, Bool.or_false, Bool.and_eq_true, bne_iff_ne] at escapes
    -- A backslash in front of anything but a quote does not matter to the rest.
    have later : escapedAfter false rest = true := by
      by_cases slash : c = '\\'
      · cases rest with
        | nil => rfl
        | cons d rest =>
          have notQuote : d ≠ '"' := by
            rintro rfl
            exact plain rest slash rfl
          simpa [escapedAfter, notQuote] using escapes.2
      · have noSlash : (c == '\\') = false := by simpa using slash
        simpa [noSlash] using escapes.2
    rw [unescapeQuotes_cons fun slash tail => by simpa using plain tail slash, escapeQuotes,
      if_neg escapes.1, inductionHypothesis later]
  | case3 => rfl

/-- A bare word and a quoted word are terms. -/
theorem isTerm_of_word {token : Token}
    (word : IsBareWord token.text.toList ∨ IsQuotedWord token.text.toList) : token.IsTerm := by
  rcases word with bare | ⟨inner, shape, _⟩
  · obtain ⟨c, rest, shape⟩ := List.exists_cons_of_ne_nil bare.1
    exact (startsStructural_eq shape).trans ((isBare_iff c).mp (bare.2 c (by simp [shape]))).2.1
  · exact (startsStructural_eq shape).trans (by decide)

/-- The token that a rendered tree has in the place of a token. -/
def requoted (token : Token) : Token := ⟨quoteTerm token.unquote⟩

/-- Quoting a term anew keeps its value. -/
@[simp] theorem unquote_requoted (token : Token) : token.requoted.unquote = token.unquote :=
  unquote_quoteTerm token.unquote

/-- A requoted term is a bare word or a quoted word. -/
theorem IsTerm.requoted_word {token : Token} (isTerm : token.IsTerm)
    (lexeme : IsLexeme token.text.toList) :
    IsBareWord token.requoted.text.toList ∨ IsQuotedWord token.requoted.text.toList := by
  by_cases needed : needsQuotes token.unquote = true
  · rcases lexeme with mark | bare | ⟨inner, shape, escapes, ends⟩
    · obtain ⟨c, rest, shape⟩ : ∃ c rest, token.text.toList = c :: rest :=
        List.exists_cons_of_ne_nil (IsLexeme.ne_nil (.inl mark))
      have structural : isStructural c = true := isStructural_of_mem_punctuation (shape ▸ mark)
      rw [IsTerm, startsStructural_eq shape, structural] at isTerm
      exact absurd isTerm (by simp)
    · have plain := (needsQuotes_eq_false_iff token.text).mpr bare
      simp [unquote, interior?_bare bare, plain] at needed
    · right
      have restored : escapeQuotes (unescapeQuotes inner) = inner :=
        escapeQuotes_unescapeQuotes ((quotesEscaped_iff inner).mp escapes)
      refine ⟨inner, ?_, escapes, ends⟩
      rw [requoted, quoteTerm, if_pos needed]
      simp [unquote, shape, interior?_quoted, restored]
  · have bare := (needsQuotes_eq_false_iff token.unquote).mp (by simpa using needed)
    left
    simpa [requoted, quoteTerm, needed] using bare

/-- A term that is a word of the language stays one when it is quoted anew. -/
theorem IsTerm.requoted_isLexeme {token : Token} (isTerm : token.IsTerm)
    (lexeme : IsLexeme token.text.toList) : IsLexeme token.requoted.text.toList :=
  .inr (isTerm.requoted_word lexeme)

/-- A requoted token is a term, whatever it was before. -/
theorem isTerm_requoted (token : Token) : token.requoted.IsTerm := by
  by_cases needed : needsQuotes token.unquote = true
  · have shape : token.requoted.text.toList =
        '"' :: (escapeQuotes token.unquote.toList ++ ['"']) := by
      simp [requoted, quoteTerm, needed]
    exact (startsStructural_eq shape).trans (by decide)
  · have bare := (needsQuotes_eq_false_iff token.unquote).mp (by simpa using needed)
    exact isTerm_of_word (.inl (by simpa [requoted, quoteTerm, needed] using bare))

/-- A boolean in upper case. -/
def raised (token : Token) : Token := ⟨Text.upper (Text.lower token.text)⟩

/-- The upper case of a boolean, and the lower case of that. -/
theorem IsBoolean.raised_names {token : Token} (isBoolean : token.IsBoolean) :
    token.raised.text ∈ ["AND", "OR", "NOT"] ∧
      Text.lower token.raised.text = Text.lower token.text := by
  have names : ∀ name ∈ ["and", "or", "not"],
      Text.upper name ∈ ["AND", "OR", "NOT"] ∧ Text.lower (Text.upper name) = name := by
    decide +kernel
  exact names _ (by simpa [IsBoolean] using isBoolean)

/-- A boolean in upper case is a boolean. -/
theorem IsBoolean.raised {token : Token} (isBoolean : token.IsBoolean) :
    token.raised.IsBoolean := by
  rw [IsBoolean, isBoolean.raised_names.2]
  exact isBoolean

/-- The syntax tree does not tell the case of a boolean. -/
theorem IsBoolean.tree_raised {token : Token} (isBoolean : token.IsBoolean) :
    Tree.boolean token.raised.text = Tree.boolean token.text := by
  rw [Tree.boolean, isBoolean.raised_names.2, Tree.boolean]

/-- A boolean in upper case is a bare word. -/
theorem IsBoolean.raised_word {token : Token} (isBoolean : token.IsBoolean) :
    IsBareWord token.raised.text.toList := by
  have names : ∀ name ∈ ["AND", "OR", "NOT"], needsQuotes name = false := by decide
  exact (needsQuotes_eq_false_iff _).mp (names _ isBoolean.raised_names.1)

end Token

/-! ### Derivations -/

namespace Clause

mutual

/-- The derivation that a rendered clause has. -/
def requoted : Clause → Clause
  | .word term => .word term.requoted
  | .indexed index comparitor term => .indexed index.requoted comparitor term.requoted
  | .boosted index comparitor boost term =>
    .boosted index.requoted comparitor boost.requoted term.requoted
  | .group head links => .group (requoted head) (requotedLinks links)

/-- The derivations that rendered links have. -/
def requotedLinks : List (Token × Clause) → List (Token × Clause)
  | [] => []
  | (boolean, clause) :: rest => (boolean.raised, requoted clause) :: requotedLinks rest

end

/-- The links are quoted anew one by one. -/
theorem requotedLinks_eq_map (links : List (Token × Clause)) :
    requotedLinks links = links.map fun link => (link.1.raised, link.2.requoted) := by
  induction links with
  | nil => rfl
  | cons link rest inductionHypothesis => simp [requotedLinks, inductionHypothesis]

variable {options : Options} {clause : Clause}

/-- Requoted tokens stand where the grammar and the options allow them. -/
theorem Formed.requoted (formed : clause.Formed options) : clause.requoted.Formed options := by
  induction formed with
  | word => exact .word (Token.isTerm_requoted _)
  | indexed _ supported =>
    exact .indexed (Token.isTerm_requoted _) supported (Token.isTerm_requoted _)
  | boosted _ supported allowed isBoost =>
    refine .boosted (Token.isTerm_requoted _) supported allowed ⟨Token.isTerm_requoted _, ?_⟩
      (Token.isTerm_requoted _)
    rw [Token.unquote_requoted]
    exact isBoost.2
  | group _ booleans _ headHypothesis linkHypothesis =>
    rw [Clause.requoted, requotedLinks_eq_map]
    refine .group headHypothesis ?_ ?_
    · exact List.forall_mem_map.mpr fun link member => (booleans link member).raised
    · exact List.forall_mem_map.mpr linkHypothesis

/-- Requoted links have the same trees where their clauses have. -/
theorem linkTrees_requotedLinks {links : List (Token × Clause)}
    (booleans : ∀ link ∈ links, link.1.IsBoolean)
    (clauses : ∀ link ∈ links, link.2.requoted.tree = link.2.tree) :
    linkTrees (requotedLinks links) = linkTrees links := by
  rw [linkTrees_eq_map, linkTrees_eq_map, requotedLinks_eq_map, List.map_map]
  refine List.map_congr_left fun link member => ?_
  simp [(booleans link member).tree_raised, clauses link member]

/-- A requoted derivation has the same tree. -/
theorem Formed.tree_requoted (formed : clause.Formed options) :
    clause.requoted.tree = clause.tree := by
  induction formed with
  | word => simp [Clause.requoted, tree]
  | indexed => simp [Clause.requoted, tree]
  | boosted => simp [Clause.requoted, tree]
  | group _ booleans _ headHypothesis linkHypothesis =>
    rw [Clause.requoted, tree, headHypothesis, tree,
      linkTrees_requotedLinks booleans linkHypothesis]

/-- The words of the derivation are words of the language. -/
def IsLexical (clause : Clause) : Prop := ∀ token ∈ clause.tokens, Token.IsLexeme token.text.toList

/-- The words of links are words of the language. -/
def LinksLexical (links : List (Token × Clause)) : Prop :=
  ∀ token ∈ linkTokens links, Token.IsLexeme token.text.toList

/-- Links are made of words exactly if their booleans and their clauses are. -/
theorem linksLexical_iff (links : List (Token × Clause)) :
    LinksLexical links ↔
      (∀ link ∈ links, Token.IsLexeme link.1.text.toList) ∧ ∀ link ∈ links, link.2.IsLexical := by
  constructor
  · intro lexical
    refine ⟨fun link member => ?_, fun link member token inside => ?_⟩
    · exact lexical link.1 (mem_linkTokens.mpr ⟨link, member, .inl rfl⟩)
    · exact lexical token (mem_linkTokens.mpr ⟨link, member, .inr inside⟩)
  · rintro ⟨booleans, clauses⟩ token member
    obtain ⟨link, listed, rfl | inside⟩ := mem_linkTokens.mp member
    · exact booleans link listed
    · exact clauses link listed token inside

/-- The parentheses of a group are words of the language, so its chain decides. -/
theorem isLexical_group_iff (head : Clause) (links : List (Token × Clause)) :
    (Clause.group head links).IsLexical ↔ head.IsLexical ∧ LinksLexical links := by
  have opening : Token.IsLexeme "(".toList := .inl (by decide)
  have closing : Token.IsLexeme ")".toList := .inl (by decide)
  rw [IsLexical, tokens]
  simp only [List.forall_mem_cons, List.forall_mem_append, opening, closing, true_and]
  simp [IsLexical, LinksLexical]

/-- Requoted links are made of words of the language where their requoted clauses are. -/
theorem linksLexical_requotedLinks {links : List (Token × Clause)}
    (booleans : ∀ link ∈ links, link.1.IsBoolean)
    (clauses : ∀ link ∈ links, link.2.requoted.IsLexical) : LinksLexical (requotedLinks links) := by
  rw [linksLexical_iff, requotedLinks_eq_map]
  constructor
  · exact List.forall_mem_map.mpr fun link member => .inr (.inl (booleans link member).raised_word)
  · exact List.forall_mem_map.mpr clauses

/-- Requoting keeps the words of a derivation in the language. -/
theorem Formed.requoted_isLexical (formed : clause.Formed options) (lexical : clause.IsLexical) :
    clause.requoted.IsLexical := by
  induction formed with
  | word isTerm =>
    simp only [IsLexical, Clause.requoted, tokens, List.forall_mem_singleton] at lexical ⊢
    exact isTerm.requoted_isLexeme lexical
  | indexed indexIsTerm _ isTerm =>
    simp only [IsLexical, Clause.requoted, tokens, List.forall_mem_cons] at lexical ⊢
    obtain ⟨index, comparitor, term, _⟩ := lexical
    exact ⟨indexIsTerm.requoted_isLexeme index, comparitor, isTerm.requoted_isLexeme term, by simp⟩
  | boosted indexIsTerm _ _ isBoost isTerm =>
    simp only [IsLexical, Clause.requoted, tokens, List.forall_mem_cons] at lexical ⊢
    obtain ⟨index, comparitor, slash, name, equals, boost, term, _⟩ := lexical
    exact ⟨indexIsTerm.requoted_isLexeme index, comparitor, slash, name, equals,
      isBoost.1.requoted_isLexeme boost, isTerm.requoted_isLexeme term, by simp⟩
  | group _ booleans _ headHypothesis linkHypothesis =>
    obtain ⟨headLexical, linksLexical⟩ := (isLexical_group_iff _ _).mp lexical
    have clausesLexical := ((linksLexical_iff _).mp linksLexical).2
    rw [Clause.requoted, isLexical_group_iff]
    refine ⟨headHypothesis headLexical, linksLexical_requotedLinks booleans ?_⟩
    exact fun link member => linkHypothesis link member (clausesLexical link member)

end Clause

namespace Chain

/-- The derivation that a rendered query has. -/
def requoted (chain : Chain) : Chain := ⟨chain.head.requoted, Clause.requotedLinks chain.links⟩

/-- The words of the query are words of the language. -/
def IsLexical (chain : Chain) : Prop := ∀ token ∈ chain.tokens, Token.IsLexeme token.text.toList

variable {options : Options} {chain : Chain}

/-- A chain is made of words exactly if its first clause and its links are. -/
theorem isLexical_iff (chain : Chain) :
    chain.IsLexical ↔ chain.head.IsLexical ∧ Clause.LinksLexical chain.links := by
  simp only [IsLexical, tokens, List.forall_mem_append]
  rfl

/-- A query of the grammar stays one when its terms are quoted anew. -/
theorem Formed.requoted (formed : chain.Formed options) : chain.requoted.Formed options := by
  refine ⟨formed.head.requoted, ?_, ?_⟩ <;> rw [Chain.requoted, Clause.requotedLinks_eq_map]
  · exact List.forall_mem_map.mpr fun link member => (formed.booleans link member).raised
  · exact List.forall_mem_map.mpr fun link member => (formed.clauses link member).requoted

/-- Quoting anew changes the tokens and not the tree. -/
theorem Formed.tree_requoted (formed : chain.Formed options) :
    chain.requoted.tree = chain.tree := by
  rw [tree, tree, Chain.requoted, formed.head.tree_requoted,
    Clause.linkTrees_requotedLinks formed.booleans fun link member =>
      (formed.clauses link member).tree_requoted]

/-- Requoting keeps the words of a query in the language. -/
theorem Formed.requoted_isLexical (formed : chain.Formed options) (lexical : chain.IsLexical) :
    chain.requoted.IsLexical := by
  rw [isLexical_iff] at lexical ⊢
  have clausesLexical := ((Clause.linksLexical_iff _).mp lexical.2).2
  refine ⟨formed.head.requoted_isLexical lexical.1,
    Clause.linksLexical_requotedLinks formed.booleans fun link member => ?_⟩
  exact (formed.clauses link member).requoted_isLexical (clausesLexical link member)

end Chain

end ContextualQuery
