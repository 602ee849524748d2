import Mathlib.Control.Monad.Basic
import ContextualQuery.Highlight
import ContextualQuery.Proofs.Token.Splitting

/-!
# Highlighting changes only the colour

A highlighted query is the query with each token in its style and the blanks between the tokens as they
were. The tokens are looked for one behind the other: in front of the next token stand only blanks, and a
token starts with no blank, so its first occurrence is the token itself. Whatever a token looks like, the
search does not miss it, and it never gives up. The styles only add control sequences, so the text
that is shown is the query.
-/

namespace ContextualQuery

/-! ### What is shown on a terminal -/

namespace Style

/-- The characters that a terminal shows: those outside of control sequences, which start with the escape
character and end with the letter `m`. -/
def shown (withinSequence : Bool) : List Char → List Char
  | [] => []
  | c :: rest =>
    if withinSequence then shown (c != 'm') rest
    else if c = '\x1b' then shown true rest
    else c :: shown false rest

/-- A text without its control sequences. -/
def plain (text : String) : String := String.ofList (shown false text.toList)

/-- Characters without an escape among them are shown. -/
theorem shown_append {chars : List Char} (noEscape : '\x1b' ∉ chars) (rest : List Char) :
    shown false (chars ++ rest) = chars ++ shown false rest := by
  induction chars with
  | nil => rfl
  | cons c tail inductionHypothesis =>
    obtain ⟨isOther, others⟩ := List.ne_and_not_mem_of_not_mem_cons noEscape
    simp [shown, isOther.symm, inductionHypothesis others]

/-- The inside of a control sequence is passed over up to its end. -/
theorem shown_rendition {rendition : List Char} (noEnd : 'm' ∉ rendition) (rest : List Char) :
    shown true (rendition ++ 'm' :: rest) = shown false rest := by
  induction rendition with
  | nil => rfl
  | cons c tail inductionHypothesis =>
    obtain ⟨isOther, others⟩ := List.ne_and_not_mem_of_not_mem_cons noEnd
    have stillWithin : (c != 'm') = true := bne_iff_ne.mpr isOther.symm
    rw [List.cons_append, shown, if_pos rfl, stillWithin, inductionHypothesis others]

/-- A control sequence is not shown. -/
theorem shown_sequence {rendition : String} (noEnd : 'm' ∉ rendition.toList) (rest : List Char) :
    shown false ((sequence rendition).toList ++ rest) = shown false rest := by
  have inside : 'm' ∉ '[' :: rendition.toList := by simp [noEnd]
  simpa [sequence, shown] using shown_rendition inside rest

/-- No style is shown. -/
theorem shown_switchOn (style : Style) (rest : List Char) :
    shown false (style.switchOn.toList ++ rest) = shown false rest := by
  cases style with
  | header =>
    rw [switchOn, String.toList_append, List.append_assoc, shown_sequence (by decide),
      shown_sequence (by decide)]
  | subheader => exact shown_sequence (by decide) rest
  | dim => exact shown_sequence (by decide) rest
  | success => exact shown_sequence (by decide) rest
  | warning => exact shown_sequence (by decide) rest
  | failure => exact shown_sequence (by decide) rest

/-- Of a text in a style the text is shown. -/
theorem shown_apply {text : String} (noEscape : '\x1b' ∉ text.toList) (style : Style)
    (rest : List Char) :
    shown false ((style.apply text).toList ++ rest) = text.toList ++ shown false rest := by
  rw [apply, String.toList_append, String.toList_append, List.append_assoc, List.append_assoc,
    shown_switchOn, shown_append noEscape, reset, shown_sequence (by decide)]

end Style

/-! ### Painting a layout -/

namespace Token

/-- Of a painted token its text is shown. -/
theorem shown_paint {token : Token} (noEscape : '\x1b' ∉ token.text.toList) (rest : List Char) :
    Style.shown false (token.paint.toList ++ rest) = token.text.toList ++ Style.shown false rest := by
  rw [paint]
  cases token.style? with
  | none => exact Style.shown_append noEscape rest
  | some style => exact Style.shown_apply noEscape style rest

/-- Behind a gap, the first occurrence of a word is the word that stands there: it starts with no
blank. -/
theorem splitAtFirst?_gap {gap word : List Char} (blank : IsGap gap) (lexeme : IsLexeme word)
    (after : List Char) :
    Text.splitAtFirst? word (gap ++ (word ++ after)) = some (gap, after) := by
  obtain ⟨first, tail, rfl⟩ := List.exists_cons_of_ne_nil lexeme.ne_nil
  induction gap with
  | nil =>
    have begins : (first :: tail).isPrefixOf (first :: (tail ++ after)) = true :=
      List.isPrefixOf_iff_prefix.mpr ⟨after, rfl⟩
    rw [List.nil_append, List.cons_append, Text.splitAtFirst?, if_pos begins]
    simp
  | cons c rest inductionHypothesis =>
    obtain ⟨isBlank, others⟩ := List.forall_mem_cons.mp blank
    have differ : first ≠ c := by
      rintro rfl
      exact Bool.false_ne_true (lexeme.isBlank_head.symm.trans isBlank)
    rw [List.cons_append, Text.splitAtFirst?, inductionHypothesis others]
    simp [differ]

/-- Pieces with their gaps as they are and their tokens in their styles. -/
def painted (pieces : List Piece) : String :=
  String.join (pieces.map fun piece => String.ofList piece.gap ++ piece.token.paint)

variable {pieces : List Piece} {trailing : List Char}

/-- Of painted pieces the pieces are shown. -/
theorem shown_painted (noEscape : '\x1b' ∉ spelled pieces trailing) :
    Style.shown false ((painted pieces).toList ++ trailing) = spelled pieces trailing := by
  induction pieces with
  | nil => simpa [painted, Style.shown] using Style.shown_append noEscape []
  | cons piece rest inductionHypothesis =>
    rw [spelled_cons] at noEscape ⊢
    obtain ⟨gapPlain, behind⟩ := not_or.mp (mt List.mem_append.mpr noEscape)
    obtain ⟨wordPlain, restPlain⟩ := not_or.mp (mt List.mem_append.mpr behind)
    have parts : (painted (piece :: rest)).toList ++ trailing =
        piece.gap ++ (piece.token.paint.toList ++ ((painted rest).toList ++ trailing)) := by
      simp [painted, String.join_cons]
    rw [parts, Style.shown_append gapPlain, shown_paint wordPlain, inductionHypothesis restPlain]
    rfl

/-- The text of a layout with its gaps as they are and its tokens in their styles. -/
def Layout.painted (layout : Layout) : String :=
  Token.painted layout.pieces ++ String.ofList layout.trailing

/-- The tokens of pieces are found one behind the other, each behind its gap. -/
theorem paintAll_spelled (gaps : ∀ piece ∈ pieces, IsGap piece.gap)
    (lexemes : ∀ piece ∈ pieces, IsLexeme piece.word) :
    paintAll (pieces.map Piece.token) (spelled pieces trailing) =
      painted pieces ++ String.ofList trailing := by
  induction pieces with
  | nil => simp [paintAll, painted]
  | cons piece rest inductionHypothesis =>
    obtain ⟨gap, restGaps⟩ := List.forall_mem_cons.mp gaps
    obtain ⟨lexeme, restLexemes⟩ := List.forall_mem_cons.mp lexemes
    have found : Text.splitAtFirst? piece.token.text.toList
        (piece.gap ++ (piece.word ++ spelled rest trailing)) =
          some (piece.gap, spelled rest trailing) := splitAtFirst?_gap gap lexeme _
    rw [List.map_cons, spelled_cons, paintAll, found]
    simp only [inductionHypothesis restGaps restLexemes, painted, List.map_cons, String.join_cons,
      String.append_assoc]

end Token

open Token

/-- A highlighted query is its gaps as they are and its tokens in their styles. -/
theorem highlight_of_layout {query : String} {layout : Layout} (text : layout.text = query.toList)
    (split : tokenize query = .ok layout.tokens) (gaps : ∀ piece ∈ layout.pieces, IsGap piece.gap) :
    highlight query = layout.painted := by
  have lexemes : ∀ piece ∈ layout.pieces, IsLexeme piece.word := fun piece member =>
    isLexeme_of_tokenize split piece.token (List.mem_map_of_mem member)
  rw [highlight, split]
  simp only [← text]
  exact paintAll_spelled gaps lexemes

/-- A query without the escape character is shown as it is. -/
theorem plain_highlight {query : String} (noEscape : '\x1b' ∉ query.toList) :
    Style.plain (highlight query) = query := by
  cases split : tokenize query with
  | error error =>
    have shown := Style.shown_append noEscape []
    rw [List.append_nil] at shown
    rw [highlight, split, Style.plain, shown]
    simp [Style.shown]
  | ok tokens =>
    obtain ⟨layout, spaced, text, rfl⟩ := lex_eq_ok_iff.mp (tokenize_eq_ok_iff.mp split)
    rw [← text, Layout.text] at noEscape
    rw [highlight_of_layout text split spaced.gaps, Style.plain, Layout.painted, String.toList_append,
      String.toList_ofList, shown_painted noEscape, ← Layout.text, text, String.ofList_toList]

/-- However a query is made up of its tokens and blanks around them, highlighting keeps the blanks and
puts each token in its style; a text that cannot be split is left as it is. What is shown is the query, if
it has no escape character itself.

Proof: splitting at the first occurrence of each token finds it directly behind the gap, because a token
starts with no blank. What is painted shows the token again. -/
theorem highlight_exact (query : String) :
    (∀ layout : Layout, layout.text = query.toList → tokenize query = .ok layout.tokens →
      (∀ piece ∈ layout.pieces, IsGap piece.gap) → highlight query = layout.painted) ∧
    (∀ error, tokenize query = .error error → highlight query = query) ∧
    ('\x1b' ∉ query.toList → Style.plain (highlight query) = query) := by
  refine ⟨fun layout text split gaps => highlight_of_layout text split gaps, ?_, plain_highlight⟩
  intro error failed
  rw [highlight, failed]

/-- Each of the words is found in its place, though the boolean also begins in the first word and stands
between the quotes. -/
theorem highlight_exact_repeated :
    let query := "an and  \"and\" (and"
    let layout : Layout :=
      ⟨[⟨[], ⟨"an"⟩⟩, ⟨[' '], ⟨"and"⟩⟩, ⟨[' ', ' '], ⟨"\"and\""⟩⟩, ⟨[' '], ⟨"("⟩⟩, ⟨[], ⟨"and"⟩⟩], []⟩
    layout.text = query.toList ∧ tokenize query = .ok layout.tokens ∧
      (∀ piece ∈ layout.pieces, IsGap piece.gap) ∧ highlight query = layout.painted ∧
      highlight query =
        "an \x1b[1m\x1b[36mand\x1b[0m  \x1b[32m\"and\"\x1b[0m \x1b[2m(\x1b[0m\x1b[1m\x1b[36mand\x1b[0m" ∧
      '\x1b' ∉ query.toList ∧ Style.plain (highlight query) = query := by
  intro query layout
  have text : layout.text = query.toList := by decide
  have split : tokenize query = .ok layout.tokens := by decide +kernel
  have space : Text.isBlank ' ' = true := by decide
  have gaps : ∀ piece ∈ layout.pieces, IsGap piece.gap := by simp [layout, IsGap, space]
  have noEscape : '\x1b' ∉ query.toList := by decide
  obtain ⟨paints, _, shows⟩ := highlight_exact query
  have painted := paints layout text split gaps
  refine ⟨text, split, gaps, painted, ?_, noEscape, shows noEscape⟩
  rw [painted]
  decide +kernel

end ContextualQuery
