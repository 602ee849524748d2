import ContextualQuery.Proofs.Rendering.Requoting
import ContextualQuery.Proofs.Token.Splitting

/-!
# The spacing of rendered queries

A rendered query puts single spaces around booleans and relations, and nothing anywhere else. Only
the lone comparitor `=` has no spaces around it, and only a boost touches a comparitor. `pieces`
lays out the words of a derivation in this way. Where the words touch, none of them extends the
other: the first or the second one is punctuation, and together they start no other mark.
-/

namespace ContextualQuery

namespace Token

/-! ### Words that touch -/

/-- No word goes on with a space, a closing parenthesis or a slash. -/
theorem separator_alone {c : Char} (separator : c ∈ [' ', ')', '/']) :
    isBare c = false ∧ ∀ mark ∈ punctuation, mark.getLast? = some c → mark = [c] := by
  simp only [List.mem_cons, List.not_mem_nil, or_false] at separator
  rcases separator with rfl | rfl | rfl <;> decide

/-- A space, a closing parenthesis or a slash behind a word does not extend it. -/
theorem stops_of_separator {word after : List Char} (nonempty : word ≠ [])
    (separated : ∀ c ∈ after.head?, c ∈ [' ', ')', '/']) : Stops word after := by
  refine ⟨fun _ c first => (separator_alone (separated c first)).1, fun c first longer => ?_⟩
  have same := (separator_alone (separated c first)).2 _ longer (by simp)
  exact nonempty (by simpa using same)

/-- No word but the mark itself starts with an opening parenthesis or a slash. -/
theorem opening_alone {c : Char} (opening : c ∈ ['(', '/']) :
    isBare c = false ∧ ∀ mark ∈ punctuation, mark.head? = some c → mark = [c] := by
  simp only [List.mem_cons, List.not_mem_nil, or_false] at opening
  rcases opening with rfl | rfl <;> decide

/-- An opening parenthesis or a slash is not extended by any text. -/
theorem stops_opening {c : Char} (opening : c ∈ ['(', '/']) (after : List Char) :
    Stops [c] after := by
  obtain ⟨notBare, alone⟩ := opening_alone opening
  refine ⟨fun bare => ?_, fun d _ longer => ?_⟩
  · have isBare := bare.2 c (by simp)
    rw [notBare] at isBare
    exact absurd isBare (by simp)
  · exact absurd (alone _ longer rfl) (by simp)

/-- The first character of a term is not structural. -/
theorem IsTerm.isStructural_head {token : Token} {c : Char} (isTerm : token.IsTerm)
    (first : token.text.toList.head? = some c) : isStructural c = false := by
  obtain ⟨rest, shape⟩ := List.head?_eq_some_iff.mp first
  exact (startsStructural_eq shape).symm.trans isTerm

/-- A term is not extended by an equals sign. -/
theorem IsTerm.stops_equals {token : Token} (isTerm : token.IsTerm)
    (nonempty : token.text.toList ≠ []) (after : List Char) :
    Stops token.text.toList ('=' :: after) := by
  obtain ⟨d, rest, shape⟩ := List.exists_cons_of_ne_nil nonempty
  have plain := isTerm.isStructural_head (by rw [shape]; rfl)
  refine ⟨fun _ c first => ?_, fun c _ longer => ?_⟩
  · obtain rfl : '=' = c := by simpa using first
    decide
  · rw [shape, List.cons_append] at longer
    rw [isStructural_of_mem_punctuation longer] at plain
    exact absurd plain (by simp)

/-- An equals sign is not extended by a term. -/
theorem IsTerm.equals_stops {token : Token} (isTerm : token.IsTerm)
    (nonempty : token.text.toList ≠ []) (after : List Char) :
    Stops ['='] (token.text.toList ++ after) := by
  obtain ⟨d, rest, shape⟩ := List.exists_cons_of_ne_nil nonempty
  have plain := isTerm.isStructural_head (by rw [shape]; rfl)
  refine ⟨fun bare => ?_, fun c first longer => ?_⟩
  · exact absurd (bare.2 '=' (by simp)) (by decide)
  · obtain rfl : d = c := by simpa [shape] using first
    have lasts : ∀ mark ∈ punctuation, mark.getLast?.all isStructural = true := by decide
    have structural : isStructural d = true := lasts _ longer
    rw [structural] at plain
    exact absurd plain (by simp)

end Token

namespace Clause

mutual

/-- The words of a clause as they are spaced in a rendered query, with a gap before the first. -/
def pieces (gap : List Char) : Clause → List Token.Piece
  | .word term => [⟨gap, term⟩]
  | .indexed index comparitor term =>
    let around := if comparitor.text = "=" then [] else [' ']
    [⟨gap, index⟩, ⟨around, comparitor⟩, ⟨around, term⟩]
  | .boosted index comparitor boost term =>
    [⟨gap, index⟩, ⟨[' '], comparitor⟩, ⟨[], ⟨"/"⟩⟩, ⟨[], ⟨boostModifier⟩⟩, ⟨[], ⟨"="⟩⟩,
      ⟨[], boost⟩, ⟨[' '], term⟩]
  | .group head links =>
    ⟨gap, ⟨"("⟩⟩ :: (pieces [] head ++ linkPieces links ++ [⟨[], ⟨")"⟩⟩])

/-- The words of links as they are spaced in a rendered query. -/
def linkPieces : List (Token × Clause) → List Token.Piece
  | [] => []
  | (boolean, clause) :: rest => ⟨[' '], boolean⟩ :: (pieces [' '] clause ++ linkPieces rest)

end

/-- The pieces of links carry the tokens of the links, if those of each clause do. -/
theorem tokens_linkPieces {links : List (Token × Clause)}
    (each : ∀ link ∈ links, ∀ gap, (link.2.pieces gap).map Token.Piece.token = link.2.tokens) :
    (linkPieces links).map Token.Piece.token = linkTokens links := by
  induction links with
  | nil => rfl
  | cons link rest inductionHypothesis =>
    obtain ⟨first, others⟩ := List.forall_mem_cons.mp each
    simp [linkPieces, linkTokens, first, inductionHypothesis others]

/-- The layout has the words of the derivation. -/
theorem tokens_pieces (gap : List Char) (clause : Clause) :
    (clause.pieces gap).map Token.Piece.token = clause.tokens := by
  induction clause generalizing gap with
  | word => rfl
  | indexed => rfl
  | boosted => rfl
  | group head links headHypothesis linkHypothesis =>
    simp [pieces, tokens, headHypothesis, tokens_linkPieces linkHypothesis]

/-- The gap stands in front of the text of a clause. -/
theorem spelled_pieces_gap (gap : List Char) (clause : Clause) (after : List Char) :
    Token.spelled (clause.pieces gap) after = gap ++ Token.spelled (clause.pieces []) after := by
  cases clause <;> simp [pieces, Token.spelled, Token.Piece.word]

/-! ### Spaced words -/

/-- The text starts with a character that extends no word, or is empty. -/
def Separated (after : List Char) : Prop := ∀ c ∈ after.head?, c ∈ [' ', ')', '/']

/-- Behind a blank the words are kept apart. -/
theorem separated_space (after : List Char) : Separated (' ' :: after) := by
  simp [Separated]

/-- Links start with a space. -/
theorem separated_linkPieces (links : List (Token × Clause)) {after : List Char}
    (separated : Separated after) : Separated (Token.spelled (linkPieces links) after) := by
  cases links with
  | nil => exact separated
  | cons link rest =>
    rw [linkPieces, Token.spelled_cons]
    exact separated_space _

/-- Nothing at all is a gap. -/
theorem isGap_nil : Token.IsGap [] := by simp [Token.IsGap]

/-- A blank is a gap. -/
theorem isGap_space : Token.IsGap [' '] := by
  have blank : Text.isBlank ' ' = true := by decide
  simpa [Token.IsGap] using blank

variable {options : Options} {after : List Char}

/-- Links are spaced where their clauses are. -/
theorem spaced_linkPieces {links : List (Token × Clause)}
    (booleans : ∀ link ∈ links, Token.IsLexeme link.1.text.toList)
    (clauses : ∀ link ∈ links, ∀ gap after, Token.IsGap gap → Separated after →
      Token.Spaced (link.2.pieces gap) after)
    (separated : Separated after) : Token.Spaced (linkPieces links) after := by
  induction links with
  | nil => trivial
  | cons link rest inductionHypothesis =>
    obtain ⟨boolean, laterBooleans⟩ := List.forall_mem_cons.mp booleans
    obtain ⟨clause, laterClauses⟩ := List.forall_mem_cons.mp clauses
    have behind := separated_linkPieces rest separated
    refine ⟨isGap_space, boolean, ?_, ?_⟩
    · rw [Token.spelled_append, spelled_pieces_gap]
      exact Token.stops_of_separator boolean.ne_nil (separated_space _)
    · rw [Token.spaced_append]
      exact ⟨clause _ _ isGap_space behind, inductionHypothesis laterBooleans laterClauses⟩

/-- The lone comparitor touches the words around it. -/
theorem spaced_equals {index term : Token} (indexIsTerm : index.IsTerm) (isTerm : term.IsTerm)
    (indexLexeme : Token.IsLexeme index.text.toList) (lexeme : Token.IsLexeme term.text.toList)
    {gap : List Char} (blank : Token.IsGap gap) (separated : Separated after) :
    Token.Spaced [⟨gap, index⟩, ⟨[], ⟨"="⟩⟩, ⟨[], term⟩] after := by
  have behindIndex : Token.Stops index.text.toList ('=' :: (term.text.toList ++ after)) :=
    indexIsTerm.stops_equals indexLexeme.ne_nil _
  have behindEquals : Token.Stops ['='] (term.text.toList ++ after) :=
    isTerm.equals_stops lexeme.ne_nil _
  have behindTerm : Token.Stops term.text.toList after :=
    Token.stops_of_separator lexeme.ne_nil separated
  refine ⟨blank, indexLexeme, ?_, isGap_nil, .inl (by decide), ?_, isGap_nil, lexeme, behindTerm,
    trivial⟩
  · simpa [Token.spelled, Token.Piece.word] using behindIndex
  · simpa [Token.spelled, Token.Piece.word] using behindEquals

/-- Any other comparitor stands between spaces. -/
theorem spaced_relation {index comparitor term : Token}
    (indexLexeme : Token.IsLexeme index.text.toList)
    (comparitorLexeme : Token.IsLexeme comparitor.text.toList)
    (lexeme : Token.IsLexeme term.text.toList) {gap : List Char} (blank : Token.IsGap gap)
    (separated : Separated after) :
    Token.Spaced [⟨gap, index⟩, ⟨[' '], comparitor⟩, ⟨[' '], term⟩] after := by
  refine ⟨blank, indexLexeme, ?_, isGap_space, comparitorLexeme, ?_, isGap_space, lexeme,
    Token.stops_of_separator lexeme.ne_nil separated, trivial⟩
  · exact Token.stops_of_separator indexLexeme.ne_nil (separated_space _)
  · exact Token.stops_of_separator comparitorLexeme.ne_nil (separated_space _)

/-- The words of a boost touch each other. -/
theorem spaced_boost {boost : Token} (isTerm : boost.IsTerm)
    (lexeme : Token.IsLexeme boost.text.toList) (separated : Separated after) :
    Token.Spaced [⟨[], ⟨"/"⟩⟩, ⟨[], ⟨boostModifier⟩⟩, ⟨[], ⟨"="⟩⟩, ⟨[], boost⟩] after := by
  have nameIsTerm : Token.IsTerm ⟨boostModifier⟩ := by decide
  exact ⟨isGap_nil, .inl (by decide), Token.stops_opening (by decide) _,
    spaced_equals nameIsTerm isTerm Token.isLexeme_boostModifier lexeme isGap_nil separated⟩

/-- A boost stands between the comparitor, which it touches, and the space before the term. -/
theorem spaced_boosted {index comparitor boost term : Token} (isTerm : boost.IsTerm)
    (lexical : (Clause.boosted index comparitor boost term).IsLexical) {gap : List Char}
    (blank : Token.IsGap gap) (separated : Separated after) :
    Token.Spaced ((Clause.boosted index comparitor boost term).pieces gap) after := by
  simp only [IsLexical, tokens, List.forall_mem_cons] at lexical
  obtain ⟨indexLexeme, comparitorLexeme, _, _, _, boostLexeme, lexeme, _⟩ := lexical
  have behindComparitor : Separated (Token.spelled [⟨[], ⟨"/"⟩⟩, ⟨[], ⟨boostModifier⟩⟩,
      ⟨[], ⟨"="⟩⟩, ⟨[], boost⟩, ⟨[' '], term⟩] after) := by
    simp [Separated, Token.spelled, Token.Piece.word]
  have behindBoost : Separated (Token.spelled [⟨[' '], term⟩] after) := separated_space _
  have termSpaced : Token.Spaced [⟨[' '], term⟩] after :=
    ⟨isGap_space, lexeme, Token.stops_of_separator lexeme.ne_nil separated, trivial⟩
  have modifierSpaced := (Token.spaced_append _ _ _).mpr
    ⟨spaced_boost isTerm boostLexeme behindBoost, termSpaced⟩
  exact ⟨blank, indexLexeme, Token.stops_of_separator indexLexeme.ne_nil (separated_space _),
    isGap_space, comparitorLexeme,
    Token.stops_of_separator comparitorLexeme.ne_nil behindComparitor, modifierSpaced⟩

/-- What is spaced in front of a closing parenthesis is spaced in parentheses. -/
theorem spaced_parenthesized {inside : List Token.Piece}
    (insideSpaced : ∀ after, Separated after → Token.Spaced inside after) {gap : List Char}
    (blank : Token.IsGap gap) (separated : Separated after) :
    Token.Spaced (⟨gap, ⟨"("⟩⟩ :: (inside ++ [⟨[], ⟨")"⟩⟩])) after := by
  have closed : Token.Spaced [⟨[], ⟨")"⟩⟩] after :=
    ⟨isGap_nil, .inl (by decide), Token.stops_of_separator (by decide) separated, trivial⟩
  have closing : Separated (Token.spelled [⟨[], ⟨")"⟩⟩] after) := by
    simp [Separated, Token.spelled, Token.Piece.word]
  have opening : "(".toList ∈ Token.punctuation := by decide
  have opened : ∀ inside, Token.Stops "(".toList inside := Token.stops_opening (by decide)
  exact ⟨blank, .inl opening, opened _,
    (Token.spaced_append _ _ _).mpr ⟨insideSpaced _ closing, closed⟩⟩

/-- A group is spaced where its chain is, in front of the closing parenthesis. -/
theorem spaced_group {head : Clause} {links : List (Token × Clause)}
    (headSpaced : ∀ after, Separated after → Token.Spaced (head.pieces []) after)
    (linksSpaced : ∀ after, Separated after → Token.Spaced (linkPieces links) after)
    {gap : List Char} (blank : Token.IsGap gap) (separated : Separated after) :
    Token.Spaced ((Clause.group head links).pieces gap) after := by
  refine spaced_parenthesized (fun after closing => ?_) blank separated
  rw [Token.spaced_append]
  exact ⟨headSpaced _ (separated_linkPieces links closing), linksSpaced _ closing⟩

/-- A clause that is made of words of the language is spaced, where nothing behind it extends its last
word. By induction on the derivation. Each word is followed by a gap, by a mark, or by what stands behind
the clause. -/
theorem Formed.spaced_pieces {clause : Clause} (formed : clause.Formed options)
    (lexical : clause.IsLexical) {gap after : List Char} (blank : Token.IsGap gap)
    (separated : Separated after) : Token.Spaced (clause.pieces gap) after := by
  induction formed generalizing gap after with
  | word isTerm =>
    simp only [IsLexical, tokens, List.forall_mem_singleton] at lexical
    exact ⟨blank, lexical, Token.stops_of_separator lexical.ne_nil separated, trivial⟩
  | @indexed index comparitor term indexIsTerm _ isTerm =>
    simp only [IsLexical, tokens, List.forall_mem_cons] at lexical
    obtain ⟨indexLexeme, comparitorLexeme, lexeme, _⟩ := lexical
    by_cases lone : comparitor.text = "="
    · obtain rfl : comparitor = ⟨"="⟩ := by
        cases comparitor
        exact congrArg Token.mk lone
      exact spaced_equals indexIsTerm isTerm indexLexeme lexeme blank separated
    · simp only [pieces, lone, if_false]
      exact spaced_relation indexLexeme comparitorLexeme lexeme blank separated
  | boosted _ _ _ isBoost => exact spaced_boosted isBoost.1 lexical blank separated
  | group _ _ _ headHypothesis linkHypothesis =>
    obtain ⟨headLexical, linksLexical⟩ := (isLexical_group_iff _ _).mp lexical
    obtain ⟨booleansLexical, clausesLexical⟩ := (linksLexical_iff _).mp linksLexical
    refine spaced_group ?_ ?_ blank separated
    · intro after ends
      exact headHypothesis headLexical isGap_nil ends
    · intro after ends
      refine spaced_linkPieces booleansLexical ?_ ends
      intro link member gap after gapBlank
      exact linkHypothesis link member (clausesLexical link member) gapBlank

end Clause

namespace Token

/-! ### Words in a row -/

/-- Words with a space before each are spaced. -/
theorem spaced_words {tokens : List Token} (words : ∀ token ∈ tokens, IsLexeme token.text.toList) :
    Spaced (tokens.map fun token => ⟨[' '], token⟩) [] := by
  induction tokens with
  | nil => trivial
  | cons token rest inductionHypothesis =>
    obtain ⟨word, others⟩ := List.forall_mem_cons.mp words
    refine ⟨Clause.isGap_space, word, ?_, inductionHypothesis others⟩
    apply stops_of_separator word.ne_nil
    cases rest with
    | nil => simp
    | cons next rest => simp [spelled_cons]

/-- Any words of the language are the tokens of a text. -/
theorem exists_tokenize {tokens : List Token}
    (words : ∀ token ∈ tokens, IsLexeme token.text.toList) :
    ∃ text, tokenize text = .ok tokens := by
  have split := tokenize_spelled (spaced_words words)
  rw [List.map_map] at split
  exact ⟨_, by simpa [Function.comp_def] using split⟩

end Token

end ContextualQuery
