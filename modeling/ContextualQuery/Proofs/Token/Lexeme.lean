import ContextualQuery.Token.Lexer

/-!
# The words of the query language

A text is split into words of three classes: punctuation, bare words and quoted words. The classes
are defined by their characters alone. The reader of a single word takes a word of one of the
classes, and among the fronts of the text with this property the only one that the characters
behind it do not extend: reading a word is characterized by membership and this boundary, without
the order in which the reader tries the classes.

A quoted word ends at the first quote without a backslash directly before it. Whether a quote is
escaped depends on the character before it alone, so the facts about escapes are proved for a text
together with the information whether a backslash precedes it.
-/

namespace ContextualQuery.Token

/-! ### Escaped quotes -/

/-- Every quote of the text has a backslash directly before it. -/
def QuotesEscaped (chars : List Char) : Prop :=
  ∀ front back, chars = front ++ '"' :: back → front.getLast? = some '\\'

/-- Every quote of the text is escaped, where `escaped` tells whether a backslash stands before the
text. -/
def escapedAfter (escaped : Bool) : List Char → Bool
  | [] => true
  | c :: rest => (c != '"' || escaped) && escapedAfter (c == '\\') rest

/-- A backslash stands before the place behind the text, where `escaped` tells whether one stands
before the text. -/
def slashAfter (escaped : Bool) : List Char → Bool
  | [] => escaped
  | c :: rest => slashAfter (c == '\\') rest

/-- Only the first character depends on what stands before the text. By induction on the text; a quote at
its start depends on the flag, and every other one on the character before it. -/
theorem escapedAfter_iff (escaped : Bool) (chars : List Char) :
    escapedAfter escaped chars = true ↔
      ∀ front back, chars = front ++ '"' :: back →
        front.getLast? = some '\\' ∨ (front = [] ∧ escaped = true) := by
  induction chars generalizing escaped with
  | nil => simp [escapedAfter]
  | cons c rest inductionHypothesis =>
    simp only [escapedAfter, Bool.and_eq_true, inductionHypothesis, Bool.or_eq_true, bne_iff_ne]
    constructor
    · rintro ⟨first, later⟩ front back split
      cases front with
      | nil =>
        obtain ⟨rfl, rfl⟩ : c = '"' ∧ rest = back := by simpa using split
        exact .inr ⟨rfl, first.resolve_left (by simp)⟩
      | cons d front =>
        obtain ⟨rfl, inRest⟩ : c = d ∧ rest = front ++ '"' :: back := by simpa using split
        rcases later front back inRest with slash | ⟨rfl, slash⟩
        · exact .inl (by simp [List.getLast?_cons, slash])
        · exact .inl (by simpa using slash)
    · intro each
      constructor
      · by_cases quote : c = '"'
        · have here := each [] rest (by simp [quote])
          exact .inr (by simpa using here)
        · exact .inl quote
      · intro front back inRest
        have here := each (c :: front) back (by simp [inRest])
        rcases here with slash | ⟨impossible, _⟩
        · cases front with
          | nil => exact .inr ⟨rfl, by simpa using slash⟩
          | cons d front => exact .inl (by simpa using slash)
        · exact absurd impossible (by simp)

/-- Nothing but the text decides when no backslash stands before it. -/
theorem quotesEscaped_iff (chars : List Char) :
    QuotesEscaped chars ↔ escapedAfter false chars = true := by
  simp [QuotesEscaped, escapedAfter_iff]

/-- A text whose last character is known hides what stands before it. -/
theorem slashAfter_iff (escaped : Bool) (chars : List Char) :
    slashAfter escaped chars = true ↔
      chars.getLast? = some '\\' ∨ (chars = [] ∧ escaped = true) := by
  induction chars generalizing escaped with
  | nil => simp [slashAfter]
  | cons c rest inductionHypothesis =>
    rw [slashAfter, inductionHypothesis]
    cases rest <;> simp

/-- A text ends without a backslash exactly if the place behind it is not escaped. -/
theorem slashAfter_false_iff (chars : List Char) :
    slashAfter false chars = false ↔ chars.getLast? ≠ some '\\' := by
  rw [← Bool.not_eq_true, slashAfter_iff]
  simp

/-- The quote that closes is the first one that is not escaped. By induction on the text. The flag goes
along and says whether the last character was a backslash, as it does in `escapedAfter` and `slashAfter`.
-/
theorem closeQuote?_eq_some_iff {escaped : Bool} {chars inner after : List Char} :
    closeQuote? escaped chars = some (inner, after) ↔
      chars = inner ++ '"' :: after ∧ escapedAfter escaped inner = true ∧
        slashAfter escaped inner = false := by
  induction chars generalizing escaped inner with
  | nil => simp [closeQuote?]
  | cons c rest inductionHypothesis =>
    rw [closeQuote?]
    by_cases closes : c = '"' ∧ escaped = false
    · obtain ⟨rfl, rfl⟩ := closes
      cases inner with
      | nil => simp [escapedAfter, slashAfter]
      | cons d inner =>
        constructor
        · simp
        · rintro ⟨split, escapes, _⟩
          obtain ⟨rfl, _⟩ := List.cons.inj split
          simp [escapedAfter] at escapes
    · rw [if_neg closes]
      cases inner with
      | nil => simp_all [slashAfter, escapedAfter]
      | cons d inner =>
        simp only [Option.map_eq_some_iff, Prod.mk.injEq, List.cons.injEq, List.cons_append,
          escapedAfter, slashAfter, Bool.and_eq_true, Bool.or_eq_true, bne_iff_ne]
        constructor
        · rintro ⟨⟨inner', after'⟩, found, ⟨rfl, rfl⟩, rfl⟩
          obtain ⟨split, escapes, ends⟩ := inductionHypothesis.mp found
          have first : c ≠ '"' ∨ escaped = true := by
            by_cases quote : c = '"'
            · exact .inr (by simpa [quote] using closes)
            · exact .inl quote
          exact ⟨⟨rfl, split⟩, ⟨first, escapes⟩, ends⟩
        · rintro ⟨⟨rfl, split⟩, ⟨_, escapes⟩, ends⟩
          exact ⟨(inner, after), inductionHypothesis.mpr ⟨split, escapes, ends⟩, ⟨rfl, rfl⟩, rfl⟩

/-- No quote closes exactly if all of them are escaped. -/
theorem closeQuote?_eq_none_iff {escaped : Bool} {chars : List Char} :
    closeQuote? escaped chars = none ↔ escapedAfter escaped chars = true := by
  induction chars generalizing escaped with
  | nil => simp [closeQuote?, escapedAfter]
  | cons c rest inductionHypothesis =>
    rw [closeQuote?]
    by_cases closes : c = '"' ∧ escaped = false
    · simp [closes, escapedAfter]
    · rw [if_neg closes, Option.map_eq_none_iff, inductionHypothesis]
      have first : (c != '"' || escaped) = true := by
        by_cases quote : c = '"' <;> simp_all
      simp [escapedAfter, first]

/-! ### Classes of words -/

/-- A bare word: characters that are neither blank nor structural nor quotes. -/
def IsBareWord (word : List Char) : Prop := word ≠ [] ∧ ∀ c ∈ word, isBare c = true

/-- A quoted word: two quotes, between them a text in which every quote is escaped, and no backslash
directly before the last quote. -/
def IsQuotedWord (word : List Char) : Prop :=
  ∃ inner, word = '"' :: (inner ++ ['"']) ∧ QuotesEscaped inner ∧ inner.getLast? ≠ some '\\'

/-- A word of the language. -/
def IsLexeme (word : List Char) : Prop :=
  word ∈ punctuation ∨ IsBareWord word ∨ IsQuotedWord word

/-- The characters behind a word do not extend it: a bare word is not followed by a character of
bare words, and no mark is followed by a character that makes it another mark. -/
def Stops (word after : List Char) : Prop :=
  (IsBareWord word → ∀ c ∈ after.head?, isBare c = false) ∧
    ∀ c ∈ after.head?, word ++ [c] ∉ punctuation

/-- An unclosed quote: no quote behind the first one is free of a backslash directly before it. -/
def IsUnclosed (chars : List Char) : Prop := ∃ tail, chars = '"' :: tail ∧ QuotesEscaped tail

/-- A quote is no character of bare words. -/
theorem isBare_quote : isBare '"' = false := by decide

/-- A quote is no blank. -/
theorem isBlank_quote : Text.isBlank '"' = false := by decide

/-- A character of bare words is no quote, not structural and not blank. -/
theorem isBare_iff (c : Char) :
    isBare c = true ↔ c ≠ '"' ∧ isStructural c = false ∧ Text.isBlank c = false := by
  simp [isBare, and_assoc]

/-- The first character of a token decides whether it is structural. -/
theorem startsStructural_eq {token : Token} {c : Char} {rest : List Char}
    (shape : token.text.toList = c :: rest) : token.startsStructural = isStructural c := by
  rw [startsStructural, shape]

/-- Punctuation starts with a structural character. -/
theorem isStructural_of_mem_punctuation {c : Char} {rest : List Char}
    (listed : c :: rest ∈ punctuation) : isStructural c = true := by
  have heads : ∀ mark ∈ punctuation, mark.head?.all isStructural = true := by decide
  exact heads _ listed

/-- Every structural character is a mark on its own. -/
theorem singleton_mem_punctuation {c : Char} (structural : isStructural c = true) :
    [c] ∈ punctuation := by
  simp only [isStructural, Bool.or_eq_true, beq_iff_eq] at structural
  rcases structural with ((((rfl | rfl) | rfl) | rfl) | rfl) | rfl <;> decide

/-- A structural character is not blank. -/
theorem isBlank_of_isStructural {c : Char} (structural : isStructural c = true) :
    Text.isBlank c = false := by
  simp only [isStructural, Bool.or_eq_true, beq_iff_eq] at structural
  rcases structural with ((((rfl | rfl) | rfl) | rfl) | rfl) | rfl <;> decide

/-- No mark is the front of a mark that comes later in the list. -/
theorem punctuation_ordered :
    punctuation.Pairwise fun earlier later => ¬ earlier <+: later := by decide

/-- The marks have one or two characters. -/
theorem length_of_mem_punctuation {mark : List Char} (listed : mark ∈ punctuation) :
    1 ≤ mark.length ∧ mark.length ≤ 2 := by
  have lengths : ∀ mark ∈ punctuation, 1 ≤ mark.length ∧ mark.length ≤ 2 := by decide
  exact lengths mark listed

/-- A word has a first character. -/
theorem IsLexeme.ne_nil {word : List Char} (lexeme : IsLexeme word) : word ≠ [] := by
  rintro rfl
  rcases lexeme with mark | ⟨nonempty, _⟩ | ⟨inner, same, _⟩
  · exact absurd mark (by decide)
  · exact nonempty rfl
  · exact absurd same (by simp)

/-- A word does not start with a blank. -/
theorem IsLexeme.isBlank_head {c : Char} {rest : List Char} (lexeme : IsLexeme (c :: rest)) :
    Text.isBlank c = false := by
  rcases lexeme with mark | ⟨_, bare⟩ | ⟨inner, same, _⟩
  · exact isBlank_of_isStructural (isStructural_of_mem_punctuation mark)
  · exact ((isBare_iff c).mp (bare c (by simp))).2.2
  · obtain ⟨rfl, _⟩ := List.cons.inj same
    exact isBlank_quote

/-- What starts with a character of bare words is no mark, and no quoted word. -/
theorem IsLexeme.isBareWord_iff {c : Char} {rest : List Char} (lexeme : IsLexeme (c :: rest)) :
    IsBareWord (c :: rest) ↔ isBare c = true := by
  constructor
  · exact fun bare => bare.2 c (by simp)
  · intro bare
    obtain ⟨notQuote, notStructural, _⟩ := (isBare_iff c).mp bare
    rcases lexeme with mark | bareWord | ⟨inner, same, _⟩
    · rw [isStructural_of_mem_punctuation mark] at notStructural
      exact absurd notStructural (by simp)
    · exact bareWord
    · exact absurd (List.cons.inj same).1 notQuote

/-! ### Boundaries -/

/-- Less text behind a word extends it less. -/
theorem Stops.of_append {word front back : List Char} (stops : Stops word (front ++ back)) :
    Stops word front := by
  have headed : ∀ c ∈ front.head?, c ∈ (front ++ back).head? := by
    intro c first
    cases front with
    | nil => simp at first
    | cons d front => simpa using first
  exact ⟨fun bare c first => stops.1 bare c (headed c first),
    fun c first => stops.2 c (headed c first)⟩

/-- A word that neither of two texts extends is not extended by the two in a row. -/
theorem Stops.append {word front back : List Char} (stops : Stops word front)
    (behind : Stops word back) : Stops word (front ++ back) := by
  cases front with
  | nil => exact behind
  | cons c front => simpa [Stops] using stops

/-- A quote extends no word. -/
theorem stops_quote (word tail : List Char) : Stops word ('"' :: tail) := by
  constructor
  · intro bare c first
    obtain rfl : '"' = c := by simpa using first
    exact isBare_quote
  · intro c first listed
    obtain rfl : '"' = c := by simpa using first
    have quoteFree : ∀ mark ∈ punctuation, '"' ∉ mark := by decide
    exact quoteFree _ listed (by simp)

/-- A quoted word is complete whatever follows it. -/
theorem IsQuotedWord.stops {word : List Char} (quoted : IsQuotedWord word) (after : List Char) :
    Stops word after := by
  obtain ⟨inner, rfl, _⟩ := quoted
  refine ⟨fun bare => ?_, fun c _ listed => ?_⟩
  · exact absurd (bare.2 '"' (by simp)) (by decide)
  · exact absurd (isStructural_of_mem_punctuation listed) (by decide)

/-! ### Reading a word -/

/-- No mark is found where no structural character stands. -/
theorem find?_punctuation_eq_none {c : Char} {rest : List Char}
    (notStructural : isStructural c = false) :
    punctuation.find? (·.isPrefixOf (c :: rest)) = none := by
  rw [List.find?_eq_none]
  intro mark listed begins
  cases mark with
  | nil => exact absurd listed (by decide)
  | cons d mark =>
    obtain rfl : d = c := (List.cons_prefix_cons.mp (List.isPrefixOf_iff_prefix.mp begins)).1
    rw [isStructural_of_mem_punctuation listed] at notStructural
    exact absurd notStructural (by simp)

/-- A mark that nothing extends is the one that is found: marks that come earlier in the list and
begin the text would have to extend it. -/
theorem find?_punctuation {mark after : List Char} (listed : mark ∈ punctuation)
    (stops : ∀ c ∈ after.head?, mark ++ [c] ∉ punctuation) :
    punctuation.find? (·.isPrefixOf (mark ++ after)) = some mark := by
  obtain ⟨earlier, later, order⟩ := List.append_of_mem listed
  rw [List.find?_eq_some_iff_append]
  refine ⟨by simp, earlier, later, order, ?_⟩
  intro other before
  have otherListed : other ∈ punctuation := by simp [order, before]
  have notFront : ¬ other <+: mark := by
    have ordered := punctuation_ordered
    rw [order, List.pairwise_append] at ordered
    exact ordered.2.2 other before mark (by simp)
  rw [Bool.not_eq_true', Bool.eq_false_iff]
  intro begins
  have otherFront : other <+: mark ++ after := by simpa using begins
  rcases List.prefix_or_prefix_of_prefix otherFront (List.prefix_append mark after) with
    shorter | ⟨extension, rfl⟩
  · exact notFront shorter
  · have follows : extension <+: after := by simpa using otherFront
    have lengths := length_of_mem_punctuation otherListed
    have markLength := length_of_mem_punctuation listed
    rw [List.length_append] at lengths
    match extension, follows with
    | [], _ => exact notFront (by simp)
    | [c], ⟨rest, same⟩ => exact stops c (by simp [← same]) otherListed
    | _ :: _ :: _, _ => simp at lengths; omega

/-- The mark that is found is one that the text behind it does not extend: the longer mark would
begin the text as well, and it comes earlier in the list. -/
theorem stops_of_find? {chars mark : List Char}
    (found : punctuation.find? (·.isPrefixOf chars) = some mark) :
    mark ∈ punctuation ∧ Stops mark (chars.drop mark.length) := by
  obtain ⟨begins, earlier, later, order, none⟩ := List.find?_eq_some_iff_append.mp found
  have listed : mark ∈ punctuation := by simp [order]
  obtain ⟨after, rfl⟩ : mark <+: chars := by simpa using begins
  rw [List.drop_left]
  refine ⟨listed, fun bare => ?_, fun c first longer => ?_⟩
  · obtain ⟨c, rest, rfl⟩ := List.exists_cons_of_ne_nil bare.1
    have structural := isStructural_of_mem_punctuation listed
    rw [((isBare_iff c).mp (bare.2 c (by simp))).2.1] at structural
    exact absurd structural (by simp)
  · obtain ⟨rest, rfl⟩ := List.head?_eq_some_iff.mp first
    have longerBegins : (mark ++ [c]).isPrefixOf (mark ++ c :: rest) = true := by simp
    rw [order, List.mem_append, List.mem_cons] at longer
    rcases longer with before | same | behind
    · simpa [longerBegins] using none _ before
    · exact absurd same (by simp)
    · have ordered := punctuation_ordered
      rw [order, List.pairwise_append, List.pairwise_cons] at ordered
      exact ordered.2.1.1 _ behind (List.prefix_append mark [c])

/-- The characters of bare words at the front of a text are a bare word, which the rest does not
extend. -/
theorem stops_takeWhile {c : Char} (bare : isBare c = true) (rest : List Char) :
    IsBareWord (c :: rest.takeWhile isBare) ∧
      Stops (c :: rest.takeWhile isBare) (rest.dropWhile isBare) := by
  refine ⟨⟨by simp, fun d member => ?_⟩, fun _ d first => ?_, fun d _ listed => ?_⟩
  · rcases List.mem_cons.mp member with rfl | member
    · exact bare
    · exact List.all_eq_true.mp List.all_takeWhile d member
  · have stop := List.head?_dropWhile_not isBare rest
    rw [Option.mem_def.mp first] at stop
    exact stop
  · rw [List.cons_append] at listed
    have structural := isStructural_of_mem_punctuation listed
    rw [((isBare_iff c).mp bare).2.1] at structural
    exact absurd structural (by simp)

/-- A bare word is read up to the first character that is not one of bare words. -/
theorem lexeme?_bare {word after : List Char} (bareWord : IsBareWord word)
    (stops : ∀ c ∈ after.head?, isBare c = false) :
    lexeme? (word ++ after) = some (word, after) := by
  obtain ⟨c, rest, rfl⟩ := List.exists_cons_of_ne_nil bareWord.1
  have bare : isBare c = true := bareWord.2 c (by simp)
  have restBare : ∀ d ∈ rest, isBare d = true := fun d member => bareWord.2 d (by simp [member])
  obtain ⟨notQuote, notStructural, _⟩ := (isBare_iff c).mp bare
  have boundary : after.takeWhile isBare = [] ∧ after.dropWhile isBare = after := by
    cases after with
    | nil => simp
    | cons d after => simp [stops d (by simp)]
  rw [lexeme?.eq_def, List.cons_append, find?_punctuation_eq_none notStructural]
  simp [notQuote, bare, List.takeWhile_append_of_pos restBare,
    List.dropWhile_append_of_pos restBare, boundary]

/-- A quoted word is read whatever follows it. -/
theorem lexeme?_quoted {word : List Char} (quoted : IsQuotedWord word) (after : List Char) :
    lexeme? (word ++ after) = some (word, after) := by
  obtain ⟨inner, rfl, escapes, ends⟩ := quoted
  have closed : closeQuote? false (inner ++ '"' :: after) = some (inner, after) :=
    closeQuote?_eq_some_iff.mpr
      ⟨rfl, (quotesEscaped_iff inner).mp escapes, (slashAfter_false_iff inner).mpr ends⟩
  have shape : '"' :: (inner ++ ['"']) ++ after = '"' :: (inner ++ '"' :: after) := by simp
  rw [lexeme?.eq_def, shape, find?_punctuation_eq_none (by decide)]
  simp [closed]

/-- What is read behind a quote is a quoted word. -/
theorem isQuotedWord_of_closeQuote? {rest inner after : List Char}
    (closed : closeQuote? false rest = some (inner, after)) :
    IsQuotedWord ('"' :: (inner ++ ['"'])) := by
  obtain ⟨_, escapes, ends⟩ := closeQuote?_eq_some_iff.mp closed
  exact ⟨inner, rfl, (quotesEscaped_iff inner).mpr escapes, (slashAfter_false_iff inner).mp ends⟩

/-- A word that is read is one of the language, and the rest of the text does not extend it. The cases are
the branches of the reader: a mark, a quoted word, or a bare word that is read as far as it goes. -/
theorem isLexeme_of_lexeme? {chars word after : List Char}
    (found : lexeme? chars = some (word, after)) : IsLexeme word ∧ Stops word after := by
  unfold lexeme? at found
  split at found
  case h_1 mark isFirst =>
    obtain ⟨rfl, rfl⟩ : mark = word ∧ chars.drop mark.length = after := by simpa using found
    obtain ⟨listed, stops⟩ := stops_of_find? isFirst
    exact ⟨.inl listed, stops⟩
  case h_2 noMark =>
    cases chars with
    | nil => simp at found
    | cons c rest =>
      dsimp only at found
      split at found
      case isTrue quote =>
        obtain ⟨⟨inner, after'⟩, closed, same⟩ := Option.map_eq_some_iff.mp found
        obtain ⟨rfl, rfl⟩ := Prod.mk.inj same
        have quoted := isQuotedWord_of_closeQuote? closed
        exact ⟨.inr (.inr quoted), quoted.stops _⟩
      case isFalse =>
        split at found
        case isTrue bare =>
          obtain ⟨rfl, rfl⟩ :
              c :: rest.takeWhile isBare = word ∧ rest.dropWhile isBare = after := by
            simpa using found
          obtain ⟨bareWord, stops⟩ := stops_takeWhile bare rest
          exact ⟨.inr (.inl bareWord), stops⟩
        case isFalse => simp at found

/-- A front of the text is read as a word exactly if it is a word of the language that the rest of
the text does not extend. -/
theorem lexeme?_eq_some_iff {chars word after : List Char} :
    lexeme? chars = some (word, after) ↔
      chars = word ++ after ∧ IsLexeme word ∧ Stops word after := by
  constructor
  · intro found
    exact ⟨(lexeme?_eq found).1, isLexeme_of_lexeme? found⟩
  · rintro ⟨rfl, mark | bareWord | quoted, stops⟩
    · rw [lexeme?.eq_def, find?_punctuation mark stops.2]
      simp
    · exact lexeme?_bare bareWord (stops.1 bareWord)
    · exact lexeme?_quoted quoted after

/-- Behind the blanks, the only text that starts with no word is an unclosed quote. -/
theorem lexeme?_eq_none_iff {c : Char} {rest : List Char} (visible : Text.isBlank c = false) :
    lexeme? (c :: rest) = none ↔ IsUnclosed (c :: rest) := by
  by_cases structural : isStructural c = true
  · have found : (punctuation.find? (·.isPrefixOf (c :: rest))).isSome = true := by
      rw [List.find?_isSome]
      exact ⟨[c], singleton_mem_punctuation structural, by simp⟩
    obtain ⟨mark, first⟩ := Option.isSome_iff_exists.mp found
    have notQuote : c ≠ '"' := by
      rintro rfl
      exact absurd structural (by decide)
    simp [lexeme?, first, IsUnclosed, notQuote]
  · have notStructural : isStructural c = false := by simpa using structural
    rw [lexeme?.eq_def, find?_punctuation_eq_none notStructural]
    by_cases quote : c = '"'
    · simp [quote, IsUnclosed, closeQuote?_eq_none_iff, quotesEscaped_iff]
    · have bare : isBare c = true := (isBare_iff c).mpr ⟨quote, notStructural, visible⟩
      simp [quote, bare, IsUnclosed]

end ContextualQuery.Token
