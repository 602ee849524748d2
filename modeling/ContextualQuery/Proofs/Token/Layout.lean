import Mathlib.Data.List.Chain
import ContextualQuery.Proofs.Token.Lexeme

/-!
# Layouts

A layout writes a text as words with blanks before, between and behind them. It is well spaced when
its words are words of the language, no two bare words touch, and no mark touches a character that
would make it another mark. A text has at most one well-spaced layout, and splitting a text into
tokens finds it: the tokens are the words of the layout. A text that cannot be split is a text with
a layout, followed by a quote that is never closed.

The conditions on neighbours look at the next word, but what matters to the reader of words is the
text behind a word. `Spaced` states them in this form, for words in front of any text, so that
layouts can be put together from parts.
-/

namespace ContextualQuery.Token

/-- A run of blanks, which may be empty. -/
def IsGap (chars : List Char) : Prop := ∀ c ∈ chars, Text.isBlank c = true

/-- A token with the characters before it that belong to no token. -/
structure Piece where
  gap : List Char
  token : Token

/-- The characters of the token. -/
def Piece.word (piece : Piece) : List Char := piece.token.text.toList

/-- Pieces in front of a text, as one text. -/
def spelled (pieces : List Piece) (after : List Char) : List Char :=
  pieces.flatMap (fun piece => piece.gap ++ piece.word) ++ after

/-- Pieces in front of a text: the gaps are blank, and every word is one that the text behind it
does not extend. -/
def Spaced : List Piece → List Char → Prop
  | [], _ => True
  | piece :: rest, after =>
    IsGap piece.gap ∧ IsLexeme piece.word ∧ Stops piece.word (spelled rest after) ∧
      Spaced rest after

/-- A way to write a text as words and gaps. -/
structure Layout where
  pieces : List Piece
  trailing : List Char

namespace Layout

/-- The text of a layout. -/
def text (layout : Layout) : List Char := spelled layout.pieces layout.trailing

/-- The words of a layout. -/
def tokens (layout : Layout) : List Token := layout.pieces.map Piece.token

/-- Two bare words do not touch. -/
def Apart (left right : Piece) : Prop :=
  IsBareWord left.word → IsBareWord right.word → right.gap ≠ []

/-- No character directly behind a mark makes it another mark. -/
def MarksEnd : List Piece → List Char → Prop
  | [], _ => True
  | piece :: rest, trailing =>
    (∀ c ∈ (spelled rest trailing).head?, piece.word ++ [c] ∉ punctuation) ∧ MarksEnd rest trailing

/-- Gaps are blank, words are words of the language, bare words do not touch, and marks are not
continued by what touches them. -/
structure WellSpaced (layout : Layout) : Prop where
  gaps : ∀ piece ∈ layout.pieces, IsGap piece.gap
  lexemes : ∀ piece ∈ layout.pieces, IsLexeme piece.word
  apart : layout.pieces.IsChain Apart
  marksEnd : MarksEnd layout.pieces layout.trailing
  trailing : IsGap layout.trailing

end Layout

/-! ### Spelling -/

/-- Without pieces nothing is written in front of a text. -/
@[simp] theorem spelled_nil (after : List Char) : spelled [] after = after := rfl

/-- A piece is written as its gap and its word. -/
theorem spelled_cons (piece : Piece) (rest : List Piece) (after : List Char) :
    spelled (piece :: rest) after = piece.gap ++ (piece.word ++ spelled rest after) := by
  simp [spelled]

/-- Pieces in two parts are written one behind the other. -/
theorem spelled_append (front back : List Piece) (after : List Char) :
    spelled (front ++ back) after = spelled front (spelled back after) := by
  simp [spelled]

/-- Characters that are added behind do not change what is written in front of them. -/
theorem spelled_after (pieces : List Piece) (after more : List Char) :
    spelled pieces (after ++ more) = spelled pieces after ++ more := by
  simp [spelled]

/-- Pieces are spaced when those at the front are, before the text of the others. -/
theorem spaced_append (front back : List Piece) (after : List Char) :
    Spaced (front ++ back) after ↔ Spaced front (spelled back after) ∧ Spaced back after := by
  induction front with
  | nil => simp [Spaced]
  | cons piece rest inductionHypothesis =>
    simp only [List.cons_append, Spaced, inductionHypothesis, spelled_append, and_assoc]

/-- Spaced pieces stay so when less follows them. -/
theorem Spaced.of_append {pieces : List Piece} {after more : List Char}
    (spaced : Spaced pieces (after ++ more)) : Spaced pieces after := by
  induction pieces with
  | nil => trivial
  | cons piece rest inductionHypothesis =>
    obtain ⟨gap, lexeme, stops, restSpaced⟩ := spaced
    rw [spelled_after] at stops
    exact ⟨gap, lexeme, stops.of_append, inductionHypothesis restSpaced⟩

/-- Spaced pieces stay so when a text follows them that extends no word. -/
theorem Spaced.append {pieces : List Piece} {after more : List Char}
    (spaced : Spaced pieces after) (behind : ∀ word, IsLexeme word → Stops word more) :
    Spaced pieces (after ++ more) := by
  induction pieces with
  | nil => trivial
  | cons piece rest inductionHypothesis =>
    obtain ⟨gap, lexeme, stops, restSpaced⟩ := spaced
    have stillStops := stops.append (behind _ lexeme)
    rw [← spelled_after] at stillStops
    exact ⟨gap, lexeme, stillStops, inductionHypothesis restSpaced⟩

/-! ### Neighbours -/

/-- No blank is a character of bare words. -/
theorem isBare_of_isBlank {c : Char} (blank : Text.isBlank c = true) : isBare c = false := by
  simp [isBare, blank]

/-- The character behind a bare word is one of bare words exactly if a bare word touches it. -/
theorem isBare_behind_iff {rest : List Piece} {trailing : List Char}
    (gaps : ∀ piece ∈ rest, IsGap piece.gap) (lexemes : ∀ piece ∈ rest, IsLexeme piece.word)
    (blank : IsGap trailing) :
    (∀ c ∈ (spelled rest trailing).head?, isBare c = false) ↔
      ∀ next ∈ rest.head?, IsBareWord next.word → next.gap ≠ [] := by
  cases rest with
  | nil =>
    have visible : ∀ c ∈ trailing.head?, isBare c = false := fun c first =>
      isBare_of_isBlank (blank c (List.mem_of_mem_head? first))
    simpa using visible
  | cons next rest =>
    obtain ⟨c, tail, shape⟩ := List.exists_cons_of_ne_nil (lexemes next (by simp)).ne_nil
    have lexeme : IsLexeme (c :: tail) := shape ▸ lexemes next (by simp)
    rw [spelled_cons, shape]
    cases gap : next.gap with
    | nil => simp [gap, shape, lexeme.isBareWord_iff]
    | cons d gap' =>
      have dBlank : Text.isBlank d = true := gaps next (by simp) d (by simp [gap])
      simp [gap, isBare_of_isBlank dBlank]

/-- The conditions on neighbours are those on the text behind each word. By induction on the pieces, in
both directions: a bare word would go on in the text behind it exactly if another one touches it. -/
theorem Layout.wellSpaced_iff (layout : Layout) :
    layout.WellSpaced ↔ Spaced layout.pieces layout.trailing ∧ IsGap layout.trailing := by
  obtain ⟨pieces, trailing⟩ := layout
  constructor
  · rintro ⟨gaps, lexemes, apart, marksEnd, blank⟩
    refine ⟨?_, blank⟩
    dsimp only at *
    induction pieces with
    | nil => trivial
    | cons piece rest inductionHypothesis =>
      obtain ⟨gap, restGaps⟩ := List.forall_mem_cons.mp gaps
      obtain ⟨lexeme, restLexemes⟩ := List.forall_mem_cons.mp lexemes
      obtain ⟨neighbour, restApart⟩ := List.isChain_cons.mp apart
      refine ⟨gap, lexeme, ⟨fun bare => ?_, marksEnd.1⟩,
        inductionHypothesis restGaps restLexemes restApart marksEnd.2⟩
      exact (isBare_behind_iff restGaps restLexemes blank).mpr
        fun next first => neighbour next first bare
  · rintro ⟨spaced, blank⟩
    dsimp only at *
    induction pieces with
    | nil => exact ⟨by simp, by simp, .nil, trivial, blank⟩
    | cons piece rest inductionHypothesis =>
      obtain ⟨gap, lexeme, stops, restSpaced⟩ := spaced
      obtain ⟨gaps, lexemes, apart, marksEnd, _⟩ := inductionHypothesis restSpaced
      refine ⟨List.forall_mem_cons.mpr ⟨gap, gaps⟩, List.forall_mem_cons.mpr ⟨lexeme, lexemes⟩,
        List.isChain_cons.mpr ⟨fun next first bare => ?_, apart⟩, ⟨stops.2, marksEnd⟩, blank⟩
      exact (isBare_behind_iff gaps lexemes blank).mp (stops.1 bare) next first

/-! ### Splitting a text -/

/-- Blanks at the front are passed over. -/
theorem skipBlanks_append {gap : List Char} (blank : IsGap gap) (after : List Char) :
    Text.skipBlanks (gap ++ after) = Text.skipBlanks after :=
  List.dropWhile_append_of_pos blank

/-- Nothing is passed over in front of a word. -/
theorem skipBlanks_lexeme {word : List Char} (lexeme : IsLexeme word) (after : List Char) :
    Text.skipBlanks (word ++ after) = word ++ after := by
  obtain ⟨c, rest, rfl⟩ := List.exists_cons_of_ne_nil lexeme.ne_nil
  simp [Text.skipBlanks, lexeme.isBlank_head]

/-- A text of blanks has no tokens. -/
theorem lex_nil {chars : List Char} (nothing : Text.skipBlanks chars = []) :
    lex chars = .ok [] := by
  rw [lex.eq_def]
  split
  · rfl
  case h_2 shape => simp [nothing] at shape

/-- Behind the blanks stands a token, or the splitting stops. -/
theorem lex_cons {chars rest : List Char} {c : Char} (visible : Text.skipBlanks chars = c :: rest) :
    lex chars =
      match lexeme? (c :: rest) with
      | none => .error (c :: rest)
      | some (word, after) => (lex after).map (⟨String.ofList word⟩ :: ·) := by
  rw [lex.eq_def]
  split
  case h_1 shape => simp [visible] at shape
  case h_2 shape =>
    obtain ⟨rfl, rfl⟩ := List.cons.inj (visible.symm.trans shape)
    split
    case h_1 noWord => simp [noWord]
    case h_2 found => simp [found]

/-- A gap has no tokens. -/
theorem lex_gap {chars : List Char} (blank : IsGap chars) : lex chars = .ok [] := by
  apply lex_nil
  have passed := skipBlanks_append blank []
  simpa [Text.skipBlanks] using passed

/-- Blanks in front of a text do not change its tokens. -/
theorem lex_gap_append {gap : List Char} (blank : IsGap gap) (after : List Char) :
    lex (gap ++ after) = lex after := by
  have same := skipBlanks_append blank after
  cases shape : Text.skipBlanks after with
  | nil => rw [lex_nil shape, lex_nil (same.trans shape)]
  | cons c rest => rw [lex_cons shape, lex_cons (same.trans shape)]

/-- A word that the text behind it does not extend is the first token. -/
theorem lex_lexeme {word after : List Char} (lexeme : IsLexeme word) (stops : Stops word after) :
    lex (word ++ after) = (lex after).map (⟨String.ofList word⟩ :: ·) := by
  have found : lexeme? (word ++ after) = some (word, after) :=
    lexeme?_eq_some_iff.mpr ⟨rfl, lexeme, stops⟩
  have unchanged := skipBlanks_lexeme lexeme after
  obtain ⟨c, rest, rfl⟩ := List.exists_cons_of_ne_nil lexeme.ne_nil
  rw [List.cons_append] at found unchanged ⊢
  rw [lex_cons unchanged, found]

/-- An unclosed quote stops the splitting. -/
theorem lex_unclosed {rest : List Char} (unclosed : IsUnclosed rest) : lex rest = .error rest := by
  have noWord := unclosed
  obtain ⟨tail, rfl, _⟩ := unclosed
  have unchanged : Text.skipBlanks ('"' :: tail) = '"' :: tail := by
    simp [Text.skipBlanks, isBlank_quote]
  rw [lex_cons unchanged, (lexeme?_eq_none_iff isBlank_quote).mpr noWord]

/-- The tokens of spaced pieces come first, whatever the text behind them gives. -/
theorem lex_spelled {pieces : List Piece} {after : List Char} (spaced : Spaced pieces after) :
    lex (spelled pieces after) = (lex after).map (pieces.map Piece.token ++ ·) := by
  induction pieces with
  | nil => cases h : lex after <;> simp [h, Except.map]
  | cons piece rest inductionHypothesis =>
    obtain ⟨gap, lexeme, stops, restSpaced⟩ := spaced
    have sameToken : (⟨String.ofList piece.word⟩ : Token) = piece.token := by simp [Piece.word]
    rw [spelled_cons, lex_gap_append gap, lex_lexeme lexeme stops, inductionHypothesis restSpaced,
      sameToken]
    cases lex after <;> rfl

/-- A word that was read becomes the first piece of the text behind it. -/
theorem spaced_read {gap word tail : List Char} {pieces : List Piece} (blank : IsGap gap)
    (lexeme : IsLexeme word) (stops : Stops word (spelled pieces tail))
    (spaced : Spaced pieces tail) :
    gap ++ (word ++ spelled pieces tail) = spelled (⟨gap, ⟨String.ofList word⟩⟩ :: pieces) tail ∧
      Spaced (⟨gap, ⟨String.ofList word⟩⟩ :: pieces) tail := by
  have sameWord : (⟨gap, ⟨String.ofList word⟩⟩ : Piece).word = word := by simp [Piece.word]
  rw [spelled_cons, Spaced, sameWord]
  exact ⟨rfl, blank, lexeme, stops, spaced⟩

/-- Every text is spaced pieces with blanks behind them, or these with an unclosed quote behind. The text
is read word by word, as the lexer reads it, until only blanks are left or no word can be read. -/
theorem exists_spaced (chars : List Char) :
    ∃ pieces trailing, IsGap trailing ∧
      ((chars = spelled pieces trailing ∧ Spaced pieces trailing) ∨
        ∃ rest, chars = spelled pieces (trailing ++ rest) ∧ Spaced pieces (trailing ++ rest) ∧
          IsUnclosed rest) := by
  have gap : IsGap (chars.takeWhile Text.isBlank) := fun c member =>
    List.all_eq_true.mp List.all_takeWhile c member
  have split : chars = chars.takeWhile Text.isBlank ++ Text.skipBlanks chars :=
    List.takeWhile_append_dropWhile.symm
  cases shape : Text.skipBlanks chars with
  | nil =>
    rw [shape, List.append_nil] at split
    exact ⟨[], chars.takeWhile Text.isBlank, gap, .inl ⟨split, trivial⟩⟩
  | cons c rest =>
    have visible : Text.isBlank c = false := Text.isBlank_head_skipBlanks shape
    rw [shape] at split
    cases found : lexeme? (c :: rest) with
    | none =>
      have unclosed : IsUnclosed (c :: rest) := (lexeme?_eq_none_iff visible).mp found
      exact ⟨[], _, gap, .inr ⟨c :: rest, split, trivial, unclosed⟩⟩
    | some answer =>
      obtain ⟨word, after⟩ := answer
      obtain ⟨parts, lexeme, stops⟩ := lexeme?_eq_some_iff.mp found
      have shorter : after.length < chars.length := by
        have lengths := congrArg List.length split
        have wordLength := length_after_lexeme found
        rw [List.length_append] at lengths
        omega
      rw [parts] at split
      obtain ⟨pieces, trailing, blank, ⟨rfl, spaced⟩ | ⟨unread, rfl, spaced, unclosed⟩⟩ :=
        exists_spaced after
      · obtain ⟨same, whole⟩ := spaced_read gap lexeme stops spaced
        exact ⟨_, trailing, blank, .inl ⟨split.trans same, whole⟩⟩
      · obtain ⟨same, whole⟩ := spaced_read gap lexeme stops spaced
        exact ⟨_, trailing, blank, .inr ⟨unread, split.trans same, whole, unclosed⟩⟩
termination_by chars.length

end ContextualQuery.Token
