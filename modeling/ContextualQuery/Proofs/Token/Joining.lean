import Mathlib.Control.Monad.Basic
import ContextualQuery.Proofs.Rendering.Spacing

/-!
# Joined texts

A text in parentheses has the tokens of the text between two parentheses, and two texts around a
spaced word have the tokens of both around the word. The last token of a text is not changed by what
is put behind it, because no token goes on with a space or a closing parenthesis, and a quote that
is closed stays closed.
-/

namespace ContextualQuery.Token

variable {tokens : List Token}

/-- The tokens of a text come first in front of a text that extends no word. -/
theorem lex_append_of_stops {front back : List Char} (split : lex front = .ok tokens)
    (behind : ∀ word, IsLexeme word → Stops word back) :
    lex (front ++ back) = (lex back).map (tokens ++ ·) := by
  obtain ⟨layout, spaced, rfl, rfl⟩ := lex_eq_ok_iff.mp split
  obtain ⟨pieces, blank⟩ := layout.wellSpaced_iff.mp spaced
  rw [Layout.text, ← spelled_after, lex_spelled (pieces.append behind), lex_gap_append blank]
  rfl

/-- The tokens of a text come first in front of a separator, whatever stands behind it. -/
theorem lex_append {front back : List Char} (split : lex front = .ok tokens)
    (separated : Clause.Separated back) : lex (front ++ back) = (lex back).map (tokens ++ ·) :=
  lex_append_of_stops split fun _ lexeme => stops_of_separator lexeme.ne_nil separated

/-- The tokens of a text in parentheses. -/
theorem tokenize_group {text : String} (split : tokenize text = .ok tokens) :
    tokenize ("(" ++ text ++ ")") = .ok (⟨"("⟩ :: (tokens ++ [⟨")"⟩])) := by
  rw [tokenize_eq_ok_iff] at split ⊢
  have characters : ("(" ++ text ++ ")").toList = ['('] ++ (text.toList ++ ([')'] ++ [])) := by
    simp
  have opening : IsLexeme ['('] := .inl (by decide)
  have closing : IsLexeme [')'] := .inl (by decide)
  have closed : lex ([')'] ++ []) = .ok [⟨")"⟩] := by
    rw [lex_lexeme closing (stops_of_separator closing.ne_nil (by simp)), lex_nil rfl]
    rfl
  have inside : lex (text.toList ++ ([')'] ++ [])) = .ok (tokens ++ [⟨")"⟩]) := by
    rw [lex_append split (by simp [Clause.Separated]), closed]
    rfl
  rw [characters, lex_lexeme opening (stops_opening (by simp) _), inside]
  rfl

/-- The tokens of two texts around a bare word with a space on either side. -/
theorem tokenize_linked {left right : String} {name : String} {leftTokens rightTokens : List Token}
    (leftSplit : tokenize left = .ok leftTokens) (rightSplit : tokenize right = .ok rightTokens)
    (isBareWord : IsBareWord name.toList) :
    tokenize (left ++ (" " ++ name ++ " ") ++ right) =
      .ok (leftTokens ++ ⟨name⟩ :: rightTokens) := by
  rw [tokenize_eq_ok_iff] at leftSplit rightSplit ⊢
  have characters : (left ++ (" " ++ name ++ " ") ++ right).toList =
      left.toList ++ ([' '] ++ (name.toList ++ ([' '] ++ right.toList))) := by
    simp
  have lexeme : IsLexeme name.toList := .inr (.inl isBareWord)
  have stops : Stops name.toList ([' '] ++ right.toList) :=
    stops_of_separator lexeme.ne_nil (Clause.separated_space _)
  have separated : Clause.Separated ([' '] ++ (name.toList ++ ([' '] ++ right.toList))) :=
    Clause.separated_space _
  rw [characters, lex_append leftSplit separated, lex_gap_append Clause.isGap_space,
    lex_lexeme lexeme stops, lex_gap_append Clause.isGap_space, rightSplit, String.ofList_toList]
  rfl

/-! ### Blanks between texts -/

/-- A blank extends no word. -/
theorem stops_of_isBlank {c : Char} (blank : Text.isBlank c = true) (word after : List Char) :
    Stops word (c :: after) := by
  refine ⟨fun _ d first => ?_, fun d first longer => ?_⟩
  · obtain rfl : c = d := by simpa using first
    exact isBare_of_isBlank blank
  · obtain rfl : c = d := by simpa using first
    have lasts : ∀ mark ∈ punctuation, mark.getLast?.all isStructural = true := by decide
    have structural : isStructural c = true := by simpa using lasts _ longer
    rw [isBlank_of_isStructural structural] at blank
    exact absurd blank (by simp)

/-- The tokens of a text come first in front of a gap that is not empty. -/
theorem lex_append_gap {front gap : List Char} (split : lex front = .ok tokens) (blank : IsGap gap)
    (nonempty : gap ≠ []) (back : List Char) :
    lex (front ++ (gap ++ back)) = (lex back).map (tokens ++ ·) := by
  obtain ⟨c, rest, rfl⟩ := List.exists_cons_of_ne_nil nonempty
  have first : Text.isBlank c = true := blank c (by simp)
  have behind : ∀ word, IsLexeme word → Stops word (c :: rest ++ back) := fun word _ =>
    stops_of_isBlank first word (rest ++ back)
  rw [lex_append_of_stops split behind, lex_gap_append blank]

/-- A word of the language is split into itself. -/
theorem tokenize_lexeme {token : Token} (lexeme : IsLexeme token.text.toList) :
    tokenize token.text = .ok [token] := by
  have nothing : Stops token.text.toList [] := by simp [Stops]
  have atEnd : lex [] = .ok [] := lex_nil rfl
  have alone := lex_lexeme lexeme nothing
  rw [List.append_nil, atEnd, String.ofList_toList] at alone
  exact tokenize_eq_ok_iff.mpr alone

/-- Words with single spaces between them are split into these words. -/
theorem tokenize_intercalate (words : ∀ token ∈ tokens, IsLexeme token.text.toList) :
    tokenize (" ".intercalate (tokens.map text)) = .ok tokens := by
  induction tokens with
  | nil => exact tokenize_eq_ok_iff.mpr (lex_nil rfl)
  | cons token rest inductionHypothesis =>
    obtain ⟨word, others⟩ := List.forall_mem_cons.mp words
    have alone := tokenize_lexeme word
    by_cases last : rest = []
    · simpa [last] using alone
    · have behind := tokenize_eq_ok_iff.mp (inductionHypothesis others)
      have characters : (" ".intercalate ((token :: rest).map text)).toList =
          token.text.toList ++ ([' '] ++ (" ".intercalate (rest.map text)).toList) := by
        rw [List.map_cons, String.intercalate_cons_of_ne_nil (by simpa using last)]
        simp
      rw [tokenize_eq_ok_iff, characters,
        lex_append_gap (tokenize_eq_ok_iff.mp alone) Clause.isGap_space (by simp), behind]
      rfl

/-- Splitting is compositional. With blanks between two texts, the tokens of the first come before those
of the second, and where the second is not split, the splitting stops at the same fragment, behind the
bytes of the first text and the blanks. So the tokens of a text with single spaces between them are split
into the same tokens.

Proof: blanks stop every word, so the first text is split as before, and the splitting goes on behind them
as it would start in the second text. -/
theorem tokenize_append (front gap back : String) (tokens : List Token)
    (split : tokenize front = .ok tokens) (blank : IsGap gap.toList) (nonempty : gap ≠ "") :
    (∀ more, tokenize back = .ok more → tokenize (front ++ gap ++ back) = .ok (tokens ++ more)) ∧
    (∀ error, tokenize back = .error error →
      tokenize (front ++ gap ++ back) = .error
        { error with
          position := front.utf8ByteSize + gap.utf8ByteSize + error.position
          input := front ++ gap ++ back }) ∧
    tokenize (" ".intercalate (tokens.map text)) = .ok tokens := by
  have characters : (front ++ gap ++ back).toList =
      front.toList ++ (gap.toList ++ back.toList) := by
    simp
  have joined : lex (front ++ gap ++ back).toList = (lex back.toList).map (tokens ++ ·) := by
    rw [characters]
    exact lex_append_gap (tokenize_eq_ok_iff.mp split) blank (by simpa using nonempty) _
  refine ⟨fun more behind => ?_, fun error stopped => ?_, ?_⟩
  · rw [tokenize_eq_ok_iff, joined, tokenize_eq_ok_iff.mp behind]
    rfl
  · obtain ⟨read, rest, halves, unread, _, rfl⟩ := exists_unclosed_of_tokenize stopped
    have whole : (front ++ gap ++ back).toList = front.toList ++ gap.toList ++ read ++ rest := by
      simp [halves]
    rw [unread] at joined
    rw [tokenize_of_lex_error whole joined]
    simp [Nat.add_assoc]
  · exact tokenize_intercalate (isLexeme_of_tokenize split)

/-- A blank keeps two marks apart that would be one mark without it, and an unclosed quote behind them is
found at its place in the whole text. -/
theorem tokenize_append_marks :
    tokenize "title >" = .ok [⟨"title"⟩, ⟨">"⟩] ∧ IsGap " ".toList ∧ " " ≠ "" ∧
      tokenize ("title >" ++ " " ++ "= 1") = .ok [⟨"title"⟩, ⟨">"⟩, ⟨"="⟩, ⟨"1"⟩] ∧
      tokenize ("title >" ++ " " ++ "= \"dune") = .error
        { message := "unrecognized token"
          fragment := "\"dune"
          position := 10
          input := "title >" ++ " " ++ "= \"dune" } ∧
      tokenize "title >" = .ok [⟨"title"⟩, ⟨">"⟩] := by
  have split : tokenize "title >" = .ok [⟨"title"⟩, ⟨">"⟩] := by cbv
  have blank : IsGap " ".toList := by simp [IsGap, Text.isBlank]
  have nonempty : " " ≠ "" := by decide
  have behind : tokenize "= 1" = .ok [⟨"="⟩, ⟨"1"⟩] := by cbv
  have stopped : tokenize "= \"dune" = .error
      { message := "unrecognized token"
        fragment := "\"dune"
        position := 2
        input := "= \"dune" } := by decide +kernel
  have splits := (tokenize_append _ _ "= 1" _ split blank nonempty).1 _ behind
  have stops := (tokenize_append _ _ "= \"dune" _ split blank nonempty).2.1 _ stopped
  have spaced := (tokenize_append _ _ "= 1" _ split blank nonempty).2.2
  exact ⟨split, blank, nonempty, splits, stops, spaced⟩

end ContextualQuery.Token
