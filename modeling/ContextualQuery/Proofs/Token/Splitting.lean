import ContextualQuery.Proofs.Token.Layout

/-!
# Splitting texts

Splitting is exact and loses nothing. A text is split into tokens exactly if it has a well-spaced
layout, and then the tokens are those of the layout, of which there is only one. The splitting fails
exactly if the text is a well-spaced layout followed by an unclosed quote; the error then gives the
place of that quote in bytes, and the text from it on without the blanks at the end.
-/

namespace ContextualQuery.Token

/-- A gap in front of a word is what is passed over to reach the word. -/
theorem skipBlanks_piece {piece : Piece} {rest : List Piece} {after : List Char}
    (spaced : Spaced (piece :: rest) after) :
    Text.skipBlanks (spelled (piece :: rest) after) = piece.word ++ spelled rest after := by
  obtain ⟨gap, lexeme, _⟩ := spaced
  rw [spelled_cons, skipBlanks_append gap, skipBlanks_lexeme lexeme]

/-- Spaced pieces with blanks behind them are determined by their text. The gap in front of the
first word is what is passed over, and the word is the one that is read there, so the texts behind
the first words are the same again. -/
theorem spaced_unique {pieces pieces' : List Piece} {trailing trailing' : List Char}
    (spaced : Spaced pieces trailing) (spaced' : Spaced pieces' trailing')
    (blank : IsGap trailing) (blank' : IsGap trailing')
    (same : spelled pieces trailing = spelled pieces' trailing') :
    pieces = pieces' ∧ trailing = trailing' := by
  have counts : pieces.map Piece.token = pieces'.map Piece.token := by
    have tokens := congrArg lex same
    rw [lex_spelled spaced, lex_spelled spaced', lex_gap blank, lex_gap blank'] at tokens
    simpa [Except.map] using tokens
  induction pieces generalizing pieces' with
  | nil =>
    obtain rfl : pieces' = [] := List.map_eq_nil_iff.mp counts.symm
    exact ⟨rfl, same⟩
  | cons piece rest inductionHypothesis =>
    cases pieces' with
    | nil => simp at counts
    | cons piece' rest' =>
      obtain ⟨sameToken, restCounts⟩ := List.cons.inj counts
      have sameWord : piece.word = piece'.word :=
        congrArg (fun token => token.text.toList) sameToken
      have visible := congrArg Text.skipBlanks same
      rw [skipBlanks_piece spaced, skipBlanks_piece spaced', sameWord,
        List.append_cancel_left_eq] at visible
      obtain ⟨rfl, rfl⟩ :=
        inductionHypothesis spaced.2.2.2 spaced'.2.2.2 visible restCounts
      have sameGap : piece.gap = piece'.gap := by
        rw [spelled_cons, spelled_cons, sameWord] at same
        exact List.append_cancel_right same
      cases piece
      cases piece'
      exact ⟨by simp_all, rfl⟩

/-- A text has at most one well-spaced layout. -/
theorem Layout.WellSpaced.unique {layout layout' : Layout} (spaced : layout.WellSpaced)
    (spaced' : layout'.WellSpaced) (same : layout.text = layout'.text) : layout = layout' := by
  obtain ⟨pieces, blank⟩ := layout.wellSpaced_iff.mp spaced
  obtain ⟨pieces', blank'⟩ := layout'.wellSpaced_iff.mp spaced'
  obtain ⟨samePieces, sameTrailing⟩ := spaced_unique pieces pieces' blank blank' same
  cases layout
  cases layout'
  simp_all

/-- The tokens of a text with a layout are those of the layout. -/
theorem Layout.WellSpaced.lex_text {layout : Layout} (spaced : layout.WellSpaced) :
    lex layout.text = .ok layout.tokens := by
  obtain ⟨pieces, blank⟩ := layout.wellSpaced_iff.mp spaced
  rw [Layout.text, lex_spelled pieces, lex_gap blank]
  simp [Except.map, Layout.tokens]

/-- Behind a layout, an unclosed quote stops the splitting. -/
theorem Layout.WellSpaced.lex_append_unclosed {layout : Layout} {rest : List Char}
    (spaced : layout.WellSpaced) (unclosed : IsUnclosed rest) :
    lex (layout.text ++ rest) = .error rest := by
  obtain ⟨pieces, blank⟩ := layout.wellSpaced_iff.mp spaced
  have stopped := lex_unclosed unclosed
  obtain ⟨tail, rfl, _⟩ := unclosed
  have followed : Spaced layout.pieces (layout.trailing ++ '"' :: tail) :=
    pieces.append fun word _ => stops_quote word tail
  rw [Layout.text, ← spelled_after, lex_spelled followed, lex_gap_append blank, stopped]
  rfl

/-- The two ways in which splitting can end. -/
theorem exists_layout (chars : List Char) :
    ∃ layout : Layout, layout.WellSpaced ∧
      (chars = layout.text ∨ ∃ rest, chars = layout.text ++ rest ∧ IsUnclosed rest) := by
  obtain ⟨pieces, trailing, blank, ⟨same, spaced⟩ | ⟨rest, same, spaced, unclosed⟩⟩ :=
    exists_spaced chars
  · exact ⟨⟨pieces, trailing⟩, (Layout.wellSpaced_iff _).mpr ⟨spaced, blank⟩, .inl same⟩
  · refine ⟨⟨pieces, trailing⟩, (Layout.wellSpaced_iff _).mpr ⟨spaced.of_append, blank⟩,
      .inr ⟨rest, ?_, unclosed⟩⟩
    rw [Layout.text, ← spelled_after]
    exact same

/-- A text is split into tokens exactly if they are the words of a layout of the text. -/
theorem lex_eq_ok_iff {chars : List Char} {tokens : List Token} :
    lex chars = .ok tokens ↔
      ∃ layout : Layout, layout.WellSpaced ∧ layout.text = chars ∧ layout.tokens = tokens := by
  constructor
  · intro split
    obtain ⟨layout, spaced, rfl | ⟨rest, rfl, unclosed⟩⟩ := exists_layout chars
    · rw [spaced.lex_text] at split
      exact ⟨layout, spaced, rfl, Except.ok.inj split⟩
    · rw [spaced.lex_append_unclosed unclosed] at split
      simp at split
  · rintro ⟨layout, spaced, rfl, rfl⟩
    exact spaced.lex_text

/-- The splitting stops exactly at an unclosed quote behind a layout. -/
theorem lex_eq_error_iff {chars rest : List Char} :
    lex chars = .error rest ↔
      ∃ layout : Layout, layout.WellSpaced ∧ chars = layout.text ++ rest ∧ IsUnclosed rest := by
  constructor
  · intro stopped
    obtain ⟨layout, spaced, rfl | ⟨unread, rfl, unclosed⟩⟩ := exists_layout chars
    · rw [spaced.lex_text] at stopped
      simp at stopped
    · rw [spaced.lex_append_unclosed unclosed] at stopped
      obtain rfl : unread = rest := by simpa using stopped
      exact ⟨layout, spaced, rfl, unclosed⟩
  · rintro ⟨layout, spaced, rfl, unclosed⟩
    exact spaced.lex_append_unclosed unclosed

/-- The tokens of a text are those of its characters, if it can be split. -/
theorem tokenize_eq_ok_iff {input : String} {tokens : List Token} :
    tokenize input = .ok tokens ↔ lex input.toList = .ok tokens := by
  rw [tokenize]
  cases lex input.toList <;> simp

/-- Every token of a text is a word of the language. -/
theorem isLexeme_of_tokenize {input : String} {tokens : List Token}
    (split : tokenize input = .ok tokens) : ∀ token ∈ tokens, IsLexeme token.text.toList := by
  obtain ⟨layout, spaced, _, rfl⟩ := lex_eq_ok_iff.mp (tokenize_eq_ok_iff.mp split)
  exact List.forall_mem_map.mpr spaced.lexemes

/-- Spaced pieces are split into their tokens. -/
theorem tokenize_spelled {pieces : List Piece} (spaced : Spaced pieces []) :
    tokenize (String.ofList (spelled pieces [])) = .ok (pieces.map Piece.token) := by
  have nothing : lex [] = .ok [] := lex_nil rfl
  rw [tokenize_eq_ok_iff, String.toList_ofList, lex_spelled spaced, nothing]
  simp [Except.map]

/-! ### Positions -/

/-- The number of bytes of characters is that of their text. -/
theorem byteCount_eq (chars : List Char) :
    TokenizerError.byteCount chars = (String.ofList chars).utf8ByteSize := by
  induction chars with
  | nil => rfl
  | cons c rest inductionHypothesis =>
    have split : String.ofList (c :: rest) = String.singleton c ++ String.ofList rest := by
      rw [← String.toList_inj]
      simp
    rw [TokenizerError.byteCount, inductionHypothesis, split, String.utf8ByteSize_append,
      String.utf8ByteSize_singleton]

/-- The error for the rest of a text points behind the characters before it. -/
theorem tokenize_of_lex_error {input : String} {front rest : List Char}
    (split : input.toList = front ++ rest) (stopped : lex input.toList = .error rest) :
    tokenize input = .error
      { message := "unrecognized token"
        fragment := String.ofList (Text.trimBlanksEnd rest)
        position := (String.ofList front).utf8ByteSize
        input } := by
  have size : input.utf8ByteSize =
      TokenizerError.byteCount front + TokenizerError.byteCount rest := by
    rw [← TokenizerError.byteCount_append, ← split, byteCount_eq, String.ofList_toList]
  have position : input.utf8ByteSize - TokenizerError.byteCount rest =
      TokenizerError.byteCount front := by omega
  rw [tokenize, stopped]
  simp only [position, TokenizerError.atPosition, split, TokenizerError.dropBytes_append,
    ← byteCount_eq]

/-- A text that is not split ends in an unclosed quote, which the error points at. -/
theorem exists_unclosed_of_tokenize {input : String} {error : TokenizerError}
    (failed : tokenize input = .error error) :
    ∃ front rest, input.toList = front ++ rest ∧ lex input.toList = .error rest ∧ IsUnclosed rest ∧
      error =
        { message := "unrecognized token"
          fragment := String.ofList (Text.trimBlanksEnd rest)
          position := (String.ofList front).utf8ByteSize
          input } := by
  cases stopped : lex input.toList with
  | ok tokens => simp [tokenize, stopped] at failed
  | error rest =>
    obtain ⟨layout, _, split, unclosed⟩ := lex_eq_error_iff.mp stopped
    rw [tokenize_of_lex_error split stopped] at failed
    exact ⟨layout.text, rest, split, rfl, unclosed, (Except.error.inj failed).symm⟩

/-- Splitting is exact and loses nothing. A text has the given tokens exactly if they are the words of a
well-spaced layout of it, and it has at most one such layout. The splitting fails exactly if the text is a
well-spaced layout and a rest that starts with a quote that is never closed; the error points behind the
bytes of the layout, at the rest without blanks at its end.

Proof: on characters, splitting succeeds exactly for spaced pieces and fails exactly at an unclosed quote
behind such pieces. Pieces are determined by their text, because each word is the one that is read there.
-/
theorem tokenize_exact (input : String) :
    (∀ tokens, tokenize input = .ok tokens ↔
      ∃ layout : Layout, layout.WellSpaced ∧ layout.text = input.toList ∧ layout.tokens = tokens) ∧
    (∀ layout layout' : Layout, layout.WellSpaced ∧ layout.text = input.toList →
      layout'.WellSpaced ∧ layout'.text = input.toList → layout = layout') ∧
    (∀ error, tokenize input = .error error ↔
      ∃ (layout : Layout) (rest : List Char), layout.WellSpaced ∧
        input.toList = layout.text ++ rest ∧ IsUnclosed rest ∧
        error =
          { message := "unrecognized token"
            fragment := String.ofList (Text.trimBlanksEnd rest)
            position := (String.ofList layout.text).utf8ByteSize
            input }) := by
  refine ⟨fun tokens => ?_, ?_, fun error => ?_⟩
  · rw [← lex_eq_ok_iff, tokenize_eq_ok_iff]
  · rintro layout layout' ⟨spaced, text⟩ ⟨spaced', text'⟩
    exact spaced.unique spaced' (text.trans text'.symm)
  · constructor
    · intro failed
      cases stopped : lex input.toList with
      | ok tokens => simp [tokenize, stopped] at failed
      | error rest =>
        obtain ⟨layout, spaced, split, unclosed⟩ := lex_eq_error_iff.mp stopped
        rw [tokenize_of_lex_error split stopped] at failed
        exact ⟨layout, rest, spaced, split, unclosed, (Except.error.inj failed).symm⟩
    · rintro ⟨layout, rest, spaced, split, unclosed, rfl⟩
      exact tokenize_of_lex_error split (lex_eq_error_iff.mpr ⟨layout, spaced, split, unclosed⟩)

end ContextualQuery.Token
