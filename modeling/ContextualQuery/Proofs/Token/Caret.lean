import Mathlib.Control.Monad.Basic
import ContextualQuery.Proofs.Token.Splitting

/-!
# The caret below a text that cannot be split

The printed error is a heading, the text, and a line with a caret. The caret is moved to the right by
the number of bytes in front of the fragment. It stands directly below the first character of the
fragment only if that number is also the number of columns, and only if the text is one line: a
character of more than one byte moves the caret too far, and a line break anywhere in the text puts
another line between the two or starts the columns anew.
-/

namespace ContextualQuery

/-- A place in printed text, with lines and columns counted from zero in characters. -/
structure Spot where
  line : Nat
  column : Nat
deriving DecidableEq, Repr

namespace Spot

/-- The place behind a character that is printed at the place. -/
def next (spot : Spot) (c : Char) : Spot :=
  if c = '\n' then ⟨spot.line + 1, 0⟩ else ⟨spot.line, spot.column + 1⟩

/-- The place where printing starts. -/
def start : Spot := ⟨0, 0⟩

/-- The place behind characters that are printed from the place on. -/
def behind (spot : Spot) (chars : List Char) : Spot := chars.foldl next spot

/-- The place in the same column of the next line. -/
def below (spot : Spot) : Spot := ⟨spot.line + 1, spot.column⟩

/-- A line break leads to the start of the next line. -/
theorem next_break (spot : Spot) : spot.next '\n' = ⟨spot.line + 1, 0⟩ := rfl

/-- Another character leads one column on. -/
theorem next_of_ne {c : Char} (inLine : c ≠ '\n') (spot : Spot) :
    spot.next c = ⟨spot.line, spot.column + 1⟩ :=
  if_neg inLine

/-- A character leads at most one column on. -/
theorem column_next_le (spot : Spot) (c : Char) : (spot.next c).column ≤ spot.column + 1 := by
  rw [next]
  split
  · exact Nat.zero_le _
  · exact Nat.le_refl _

/-- Printing nothing leads nowhere. -/
@[simp] theorem behind_nil (spot : Spot) : spot.behind [] = spot := rfl

/-- The characters are printed from the first to the last. -/
@[simp] theorem behind_cons (spot : Spot) (c : Char) (rest : List Char) :
    spot.behind (c :: rest) = (spot.next c).behind rest :=
  rfl

/-- Characters can be printed in two parts. -/
theorem behind_append (spot : Spot) (left right : List Char) :
    spot.behind (left ++ right) = (spot.behind left).behind right :=
  List.foldl_append

/-- The line is counted on by the line breaks that are printed. -/
theorem line_behind (spot : Spot) (chars : List Char) :
    (spot.behind chars).line = spot.line + chars.count '\n' := by
  induction chars generalizing spot with
  | nil => rfl
  | cons c rest inductionHypothesis =>
    rw [behind_cons, inductionHypothesis]
    by_cases isBreak : c = '\n'
    · subst isBreak
      rw [next_break, List.count_cons_self, Nat.add_assoc, Nat.add_comm 1]
    · rw [next_of_ne isBreak, List.count_cons_of_ne isBreak]

/-- Within a line, every character takes one column. -/
theorem behind_of_unbroken {chars : List Char} (unbroken : '\n' ∉ chars) (spot : Spot) :
    spot.behind chars = ⟨spot.line, spot.column + chars.length⟩ := by
  induction chars generalizing spot with
  | nil => rfl
  | cons c rest inductionHypothesis =>
    rw [List.mem_cons, not_or] at unbroken
    rw [behind_cons, next_of_ne (Ne.symm unbroken.1), inductionHypothesis unbroken.2,
      List.length_cons, Nat.add_assoc, Nat.add_comm 1]

/-- The column is counted on by at most the characters that are printed. -/
theorem column_behind_le (spot : Spot) (chars : List Char) :
    (spot.behind chars).column ≤ spot.column + chars.length := by
  induction chars generalizing spot with
  | nil => exact Nat.le_refl _
  | cons c rest inductionHypothesis =>
    have step := column_next_le spot c
    have bounded := inductionHypothesis (spot.next c)
    rw [behind_cons, List.length_cons]
    omega

/-- Behind a line break, the column counts only characters of the last line. -/
theorem column_behind_lt {chars : List Char} (broken : '\n' ∈ chars) (spot : Spot) :
    (spot.behind chars).column < chars.length := by
  induction chars generalizing spot with
  | nil => simp at broken
  | cons c rest inductionHypothesis =>
    rw [behind_cons, List.length_cons, Nat.lt_succ_iff]
    obtain rfl | brokenRest := List.mem_cons.mp broken
    · simpa [next_break] using column_behind_le (spot.next '\n') rest
    · exact Nat.le_of_lt (inductionHypothesis brokenRest _)

end Spot

namespace TokenizerError

/-- The printed error up to the text: the message, the fragment, and the indentation of the text. -/
def heading (error : TokenizerError) : List Char :=
  (error.message ++ ": " ++ error.fragment ++ "\n  ").toList

/-- The last character of the printed error stands in the line directly below the end of a front of
the text, in the same column. -/
def CaretBelow (error : TokenizerError) (front : List Char) : Prop :=
  Spot.start.behind error.formatWithContext.toList.dropLast =
    (Spot.start.behind (error.heading ++ front)).below

/-- Whether the caret stands below the end of a front is decided by counting. -/
instance (error : TokenizerError) (front : List Char) : Decidable (error.CaretBelow front) :=
  inferInstanceAs (Decidable (_ = _))

/-- The line above the caret and the indentation of the caret. -/
theorem toList_formatWithContext (error : TokenizerError) :
    error.formatWithContext.toList =
      error.heading ++ (error.input.toList ++
        '\n' :: (List.replicate (error.position + 2) ' ' ++ ['^'])) := by
  simp [formatWithContext, heading, List.replicate_succ]

/-- Every character has at least one byte. -/
theorem length_le_byteCount (chars : List Char) : chars.length ≤ byteCount chars := by
  induction chars with
  | nil => exact Nat.le_refl _
  | cons c rest inductionHypothesis =>
    have positive := c.utf8Size_pos
    rw [List.length_cons, byteCount]
    omega

/-- As many bytes as characters: each takes one. -/
theorem byteCount_eq_length_iff {chars : List Char} :
    byteCount chars = chars.length ↔ ∀ c ∈ chars, c.utf8Size = 1 := by
  induction chars with
  | nil => simp [byteCount]
  | cons c rest inductionHypothesis =>
    have positive := c.utf8Size_pos
    have bounded := length_le_byteCount rest
    rw [List.forall_mem_cons, ← inductionHypothesis, byteCount, List.length_cons]
    omega

/-- The caret has its own line, behind the indentation of the text and one space for each byte. -/
theorem spot_of_caret (error : TokenizerError) :
    Spot.start.behind error.formatWithContext.toList.dropLast =
      ⟨(Spot.start.behind (error.heading ++ error.input.toList)).line + 1, error.position + 2⟩ := by
  have spaces : '\n' ∉ List.replicate (error.position + 2) ' ' := by simp
  rw [toList_formatWithContext, ← List.append_assoc, List.dropLast_append_of_ne_nil (by simp),
    ← List.cons_append, List.dropLast_concat, Spot.behind_append, Spot.behind_cons, Spot.next_break,
    Spot.behind_of_unbroken spaces]
  simp

/-- The heading ends with the indentation of the text. -/
theorem column_heading (error : TokenizerError) : (Spot.start.behind error.heading).column = 2 := by
  have shape : error.heading =
      (error.message ++ ": " ++ error.fragment).toList ++ ['\n', ' ', ' '] := by
    simp [heading]
  rw [shape, Spot.behind_append]
  rfl

/-- The caret stands below the end of the characters in front of the byte position exactly if the text
is one line and these characters take one byte each. Behind a line break, the columns in front are
fewer than the characters, and so fewer than the bytes. -/
theorem caretBelow_iff {error : TokenizerError} {front rest : List Char}
    (split : error.input.toList = front ++ rest) (position : error.position = byteCount front) :
    error.CaretBelow front ↔ '\n' ∉ error.input.toList ∧ ∀ c ∈ front, c.utf8Size = 1 := by
  have indent := column_heading error
  have bounded := length_le_byteCount front
  rw [CaretBelow, spot_of_caret, Spot.below, Spot.behind_append, Spot.behind_append, Spot.mk.injEq,
    Nat.add_right_cancel_iff, Spot.line_behind, Spot.line_behind (Spot.behind _ _), split, position,
    List.count_append, List.mem_append, not_or, ← byteCount_eq_length_iff]
  by_cases broken : '\n' ∈ front
  · have early := Spot.column_behind_lt broken (Spot.start.behind error.heading)
    have mismatch : byteCount front + 2 ≠
        ((Spot.start.behind error.heading).behind front).column := by omega
    simp [broken, mismatch]
  · have none : front.count '\n' = 0 := List.count_eq_zero.mpr broken
    rw [Spot.behind_of_unbroken broken, indent, none, ← List.count_eq_zero (l := rest)]
    simp only [broken, not_false_eq_true, true_and, Nat.add_zero]
    omega

/-- Below a text that cannot be split, the caret follows the indentation of the text and one space for
each byte in front of the fragment. It stands in the line directly below the first character of the
fragment and in the same column exactly if the text is one line and only characters of one byte are in
front of the fragment.

Proof: the fragment starts behind the layout, so the caret is padded by the bytes of the layout. They are
as many as its characters exactly if each of these has one byte. -/
theorem caret_exact {input : String} {error : TokenizerError}
    (failed : Token.tokenize input = .error error) :
    ∃ front rest, input.toList = front ++ rest ∧ Token.IsUnclosed rest ∧
      error.fragment = String.ofList (Text.trimBlanksEnd rest) ∧
      error.position = byteCount front ∧
      error.formatWithContext.toList =
        error.heading ++ (input.toList ++
          '\n' :: (List.replicate (byteCount front + 2) ' ' ++ ['^'])) ∧
      (error.CaretBelow front ↔ '\n' ∉ input.toList ∧ ∀ c ∈ front, c.utf8Size = 1) := by
  obtain ⟨front, rest, split, _, unclosed, rfl⟩ := Token.exists_unclosed_of_tokenize failed
  have position := (Token.byteCount_eq front).symm
  refine ⟨front, rest, split, unclosed, rfl, position, ?_, caretBelow_iff split position⟩
  rw [toList_formatWithContext, position]

/-- A quoted term over two lines, in front of a quote that is never closed. -/
theorem caret_exact_broken :
    Token.tokenize "\"é\nü\" \"x " = .error ⟨"unrecognized token", "\"x", 8, "\"é\nü\" \"x "⟩ ∧
      ∃ front rest, "\"é\nü\" \"x ".toList = front ++ rest ∧ Token.IsUnclosed rest ∧
        "\"x" = String.ofList (Text.trimBlanksEnd rest) ∧ 8 = byteCount front ∧
        (TokenizerError.mk "unrecognized token" "\"x" 8 "\"é\nü\" \"x ").formatWithContext.toList =
          (TokenizerError.mk "unrecognized token" "\"x" 8 "\"é\nü\" \"x ").heading ++
            ("\"é\nü\" \"x ".toList ++
              '\n' :: (List.replicate (byteCount front + 2) ' ' ++ ['^'])) ∧
        ((TokenizerError.mk "unrecognized token" "\"x" 8 "\"é\nü\" \"x ").CaretBelow front ↔
          '\n' ∉ "\"é\nü\" \"x ".toList ∧ ∀ c ∈ front, c.utf8Size = 1) :=
  have failed : Token.tokenize "\"é\nü\" \"x " =
      .error ⟨"unrecognized token", "\"x", 8, "\"é\nü\" \"x "⟩ := by decide +kernel
  ⟨failed, caret_exact failed⟩

/-- The letter in front takes two bytes, so the caret stands one column behind the fragment. -/
theorem caret_misplaced :
    ¬ ∀ (input : String) (error : TokenizerError) (front rest : List Char),
      Token.tokenize input = .error error → input.toList = front ++ rest →
        error.position = byteCount front → error.CaretBelow front := by
  intro always
  have below := always "é \"x" ⟨"unrecognized token", "\"x", 3, "é \"x"⟩ ['é', ' '] ['"', 'x']
    (by decide +kernel) (by decide) (by decide)
  exact absurd below (by decide +kernel)

end TokenizerError

end ContextualQuery
