import ContextualQuery.Proofs.Rendering.Flattened

/-!
# Quoting and splitting

The text that writes a term is split into one token, which reads back as the term, unless the term needs
quotes and ends in a backslash. No text of a single token writes such a term: the backslash escapes the
quote that should close it. The quote at the front then stays open, and the splitting stops there.
-/

namespace ContextualQuery.Token

variable {term : String}

/-- A text is free of unescaped quotes if its parts are. The second part knows of the first only whether
it ends in a backslash. -/
theorem escapedAfter_append (escaped : Bool) (front back : List Char) :
    escapedAfter escaped (front ++ back) =
      (escapedAfter escaped front && escapedAfter (slashAfter escaped front) back) := by
  induction front generalizing escaped with
  | nil => rfl
  | cons c rest inductionHypothesis =>
    simp only [List.cons_append, escapedAfter, slashAfter, inductionHypothesis, Bool.and_assoc]

/-- A text that starts with an unclosed quote is not split at all. -/
theorem tokenize_unclosed {input : String} (unclosed : IsUnclosed input.toList) :
    tokenize input = .error
      { message := "unrecognized token"
        fragment := String.ofList (Text.trimBlanksEnd input.toList)
        position := 0
        input } := by
  have whole : input.toList = [] ++ input.toList := rfl
  exact tokenize_of_lex_error whole (lex_unclosed unclosed)

/-- What cannot be written needs quotes and ends in a backslash. -/
theorem not_isWritable_iff :
    ¬ IsWritable term ↔ needsQuotes term = true ∧ term.toList.getLast? = some '\\' := by
  simp [IsWritable]

/-- The backslash at the end of a term escapes the quote behind it. -/
theorem isUnclosed_ofTerm (unwritable : ¬ IsWritable term) :
    IsUnclosed (ofTerm term).text.toList := by
  obtain ⟨needed, slash⟩ := not_isWritable_iff.mp unwritable
  refine ⟨_, toList_ofTerm_of_needsQuotes needed, ?_⟩
  have atEnd : slashAfter false (escapeQuotes term.toList) = true := by
    rw [slashAfter_iff, getLast?_escapeQuotes]
    exact .inl slash
  rw [quotesEscaped_iff, escapedAfter_append, escapedAfter_escapeQuotes, atEnd]
  rfl

/-- A term that can be written is written as one token. -/
theorem tokenize_of_isWritable (writable : IsWritable term) :
    tokenize (quoteTerm term) = .ok [ofTerm term] :=
  tokenize_lexeme writable.isLexeme

/-- A term that cannot be written is written as a quote that stays open. -/
theorem tokenize_of_not_isWritable (unwritable : ¬ IsWritable term) :
    tokenize (quoteTerm term) = .error
      { message := "unrecognized token"
        fragment := quoteTerm term
        position := 0
        input := quoteTerm term } := by
  have unclosed := isUnclosed_ofTerm unwritable
  have needed := (not_isWritable_iff.mp unwritable).1
  have closed : Text.trimBlanksEnd (ofTerm term).text.toList = (ofTerm term).text.toList := by
    rw [toList_ofTerm_of_needsQuotes needed, ← List.cons_append]
    simp [Text.trimBlanksEnd, isBlank_quote]
  have stopped := tokenize_unclosed unclosed
  rw [closed, String.ofList_toList] at stopped
  exact stopped

/-- The text that writes a term is split into one token, which is no mark and writes the term, unless the
term needs quotes and ends in a backslash. Then the quote at the front is never closed, and the splitting
stops there.

Proof: quotes inside are escaped, so the quote that closes is the last one, unless a backslash of the term
stands directly before it. -/
theorem tokenize_quoteTerm (term : String) :
    tokenize (quoteTerm term) =
        (if IsWritable term then .ok [ofTerm term]
        else .error
          { message := "unrecognized token"
            fragment := quoteTerm term
            position := 0
            input := quoteTerm term }) ∧
      (ofTerm term).startsStructural = false ∧ (ofTerm term).unquote = term := by
  refine ⟨?_, isTerm_ofTerm term, unquote_ofTerm term⟩
  split
  case isTrue writable => exact tokenize_of_isWritable writable
  case isFalse unwritable => exact tokenize_of_not_isWritable unwritable

/-- The backslash at the end of this term would escape the quote that closes it, so its text is not split
into one token. -/
theorem tokenize_quoteTerm_backslash :
    ¬ ∀ term, ∃ token, tokenize (quoteTerm term) = .ok [token] ∧ token.startsStructural = false ∧
      token.unquote = term := by
  intro claimed
  obtain ⟨token, split, _⟩ := claimed "open \\"
  have unwritable : ¬ IsWritable "open \\" := by decide
  simp [tokenize_of_not_isWritable unwritable] at split

end ContextualQuery.Token
