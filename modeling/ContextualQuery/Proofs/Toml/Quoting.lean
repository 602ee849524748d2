import ContextualQuery.Proofs.Toml.Reader
import ContextualQuery.Toml.Text

/-!
# Strings are read as they were written

Whatever form a text is written in, reading it gives the text back and goes on behind it. Between single
delimiters each character is read by itself. Between three delimiters the text can hold delimiters too,
and they are read in runs: a run of one or two belongs to the text, and a longer one ends the string,
with up to two delimiters of the text in front of the closing ones. `Between` says how a text has to be
written for this. The writer keeps to it, since it escapes the third quote of a run and uses
apostrophes only where no run is longer than two.
-/

namespace ContextualQuery.Toml

open Reader

variable {chars written word rest : List Char} {c delimiter : Char} {lines : Bool}

/-! ### Characters -/

/-- A text that starts with another character is no line end. -/
theorem lineEnd_of_other (other : ∀ c ∈ chars.head?, c ≠ '\n' ∧ c ≠ '\r') : lineEnd chars = none := by
  cases chars with
  | nil => rfl
  | cons c chars =>
    obtain ⟨noFeed, noReturn⟩ := other c rfl
    rw [lineEnd, orElse_of_refused] <;> apply exactly_of_other <;>
      simp [noFeed.symm, noReturn.symm]

/-- The digits of an escape are hexadecimal and have the code point as their value. -/
theorem controlEscape_ascii : ∀ code < 128,
    ((controlEscape (Char.ofNat code)).drop 2).length = 4 ∧
      ((controlEscape (Char.ofNat code)).drop 2).all isHexDigit = true ∧
      hexValue ((controlEscape (Char.ofNat code)).drop 2) = code := by
  decide +kernel

/-- Only a control character has to be escaped by its code point. -/
theorem toNat_lt_of_not_isPrintable (control : isPrintable c = false) : c.toNat < 128 := by
  simp only [isPrintable, Bool.or_eq_false_iff, decide_eq_false_iff_not,
    Bool.and_eq_false_iff] at control
  omega

/-- So many hexadecimal digits of a character are read as this character. -/
theorem codePoint_append {digits : List Char} {count : Nat} (length : digits.length = count)
    (hexadecimal : digits.all isHexDigit = true) (value : hexValue digits = c.toNat)
    (rest : List Char) : codePoint count (digits ++ rest) = some (c, rest) := by
  have front : (digits ++ rest).take count = digits := List.take_left' length
  have back : (digits ++ rest).drop count = rest := List.drop_left' length
  have valid : c.toNat.isValidChar := c.valid
  rw [codePoint, front, back, if_pos ⟨length, hexadecimal⟩, value]
  dsimp only
  rw [if_pos valid, Char.ofNat_toNat]

/-- Behind a backslash and a `u` four digits are read as a code point. -/
theorem quotedChar_codePoint (rest : List Char) :
    quotedChar ('\\' :: 'u' :: rest) = codePoint 4 rest := rfl

/-- An escaped control character is read back. -/
theorem quotedChar_controlEscape (control : isPrintable c = false) (rest : List Char) :
    quotedChar (controlEscape c ++ rest) = some (c, rest) := by
  obtain ⟨length, hexadecimal, value⟩ :=
    controlEscape_ascii c.toNat (toNat_lt_of_not_isPrintable control)
  rw [Char.ofNat_toNat] at length hexadecimal value
  obtain ⟨digits, shape⟩ : ∃ digits, controlEscape c = '\\' :: 'u' :: digits := ⟨_, rfl⟩
  rw [shape] at length hexadecimal value ⊢
  exact (quotedChar_codePoint (digits ++ rest)).trans
    (codePoint_append length hexadecimal value rest)

/-- A character between quotes is read back, unless it is a line end that stands for itself. The cases are
the branches of the writer: a short escape, the character itself, or the escape of a control character. -/
theorem quotedChar_writeChar (escaped : lines = true → c ≠ '\n') (rest : List Char) :
    quotedChar (writeChar lines c ++ rest) = some (c, rest) := by
  unfold writeChar
  split
  case isTrue same => rw [same]; rfl
  case isFalse noQuote =>
  split
  case isTrue same => rw [same]; rfl
  case isFalse noBackslash =>
  split
  case isTrue same => rw [same]; rfl
  split
  case isTrue same =>
    have oneLine : lines = false := Bool.eq_false_iff.mpr fun several => escaped several same
    rw [same, oneLine]
    rfl
  split
  case isTrue same => rw [same]; rfl
  split
  case isTrue same => rw [same]; rfl
  split
  case isTrue same => rw [same]; rfl
  split
  case isTrue printable =>
    have plain : (isPrintable c && c ≠ '"' && c ≠ '\\') = true := by
      simp [printable, noQuote, noBackslash]
    exact orElse_of_read (one_of_accepted plain rest)
  case isFalse control =>
    exact quotedChar_controlEscape (Bool.eq_false_iff.mpr control) rest

/-- A quote and a line end are not read as characters of a string on one line. -/
theorem quotedChar_of_other (quote : chars.head? ≠ some '\\')
    (other : ∀ c ∈ chars.head?, (isPrintable c && c ≠ '"' && c ≠ '\\') = false) :
    quotedChar chars = none := by
  rw [quotedChar, orElse_of_refused (one_of_refused other), bind_of_refused (char_of_other quote)]

/-- A quote is no character of a quoted string. -/
theorem quotedChar_quote (rest : List Char) : quotedChar ('"' :: rest) = none :=
  quotedChar_of_other (by simp) (by simp)

/-- A written character does not start with a quote, nor with a line end unless it is one. -/
theorem exists_writeChar (lines : Bool) (c : Char) :
    ∃ first others, writeChar lines c = first :: others ∧ first ≠ '"' ∧
      (c ≠ '\n' → first ≠ '\n' ∧ first ≠ '\r') := by
  unfold writeChar
  repeat' split
  all_goals simp_all [controlEscape]

/-- Every character is written with at least one. -/
theorem writeChar_ne_nil (lines : Bool) (c : Char) : writeChar lines c ≠ [] := by
  obtain ⟨first, others, shape, _⟩ := exists_writeChar lines c
  rw [shape]
  exact List.cons_ne_nil first others

/-! ### Strings on one line -/

/-- A text between quotes is read back. -/
theorem quotedString_append (chars rest : List Char) :
    quotedString ('"' :: (chars.flatMap (writeChar false) ++ '"' :: rest)) =
      some (String.ofList chars, rest) := by
  have repeats : Repeats quotedChar (chars.flatMap (writeChar false) ++ '"' :: rest) chars
      ('"' :: rest) := by
    induction chars with
    | nil => exact .stop (quotedChar_quote rest)
    | cons c chars inductionHypothesis =>
      rw [List.flatMap_cons, List.append_assoc]
      exact .append (writeChar_ne_nil false c) (quotedChar_writeChar (by simp) _)
        inductionHypothesis
  rw [quotedString, bind_of_read (char_cons _ _), bind_of_read repeats.many,
    bind_of_read (char_cons _ _)]
  rfl

/-- A text between apostrophes is read back, if it has no controls and no apostrophes. -/
theorem literalString_append (plain : ∀ c ∈ chars, isPrintable c = true ∧ c ≠ '\'')
    (rest : List Char) :
    literalString ('\'' :: (chars ++ '\'' :: rest)) = some (String.ofList chars, rest) := by
  have content : takeWhile (fun c => isPrintable c && c ≠ '\'') (chars ++ '\'' :: rest) =
      some (chars, '\'' :: rest) := by
    refine takeWhile_append (fun c member => ?_) (by simp)
    obtain ⟨printable, other⟩ := plain c member
    simp [printable, other]
  rw [literalString, bind_of_read (char_cons _ _), bind_of_read content,
    bind_of_read (char_cons _ _)]
  rfl

/-! ### Strings on several lines -/

/-- An item of a string on several lines: a piece, few delimiters, or a line end. -/
def lineItem (delimiter : Char) (piece : Reader (List Char)) : Reader (List Char) :=
  piece <|> fewDelimiters delimiter <|> (do lineEnd; return ['\n'])

/-- The text is written so that it can be read between three delimiters: each character gives itself as
an item, and delimiters stand for themselves, at most two in a row. -/
inductive Between (delimiter : Char) (item : Reader (List Char)) : List Char → List Char → Prop
  | nil : Between delimiter item [] []
  | item {c : Char} {word chars written : List Char}
      (reads : ∀ rest, item (word ++ rest) = some ([c], rest))
      (nonempty : word ≠ []) (others : Between delimiter item chars written) :
      Between delimiter item (c :: chars) (word ++ written)
  | single {chars written : List Char} (others : Between delimiter item chars written)
      (stop : written.head? ≠ some delimiter) :
      Between delimiter item (delimiter :: chars) (delimiter :: written)
  | double {chars written : List Char} (others : Between delimiter item chars written)
      (stop : written.head? ≠ some delimiter) :
      Between delimiter item (delimiter :: delimiter :: chars) (delimiter :: delimiter :: written)

/-- Nothing is written for the empty text alone. -/
theorem Between.chars_eq_nil {item : Reader (List Char)}
    (between : Between delimiter item chars []) : chars = [] := by
  generalize nothing : ([] : List Char) = written at between
  cases between with
  | nil => rfl
  | item reads nonempty others => exact absurd (List.append_eq_nil_iff.mp nothing.symm).1 nonempty
  | single others stop => cases nothing
  | double others stop => cases nothing

/-- The delimiters at the end of a string on several lines. -/
def mark (delimiter : Char) : List Char := [delimiter, delimiter, delimiter]

/-- Delimiters in front of the closing ones make the run longer. -/
theorem replicate_mark (delimiter : Char) (count : Nat) (rest : List Char) :
    List.replicate count delimiter ++ (mark delimiter ++ rest) =
      List.replicate (count + 3) delimiter ++ rest := by
  rw [← List.append_assoc, ← List.replicate_append_replicate]
  rfl

section Delimited

variable {piece : Reader (List Char)} (declines : ∀ rest, piece (delimiter :: rest) = none)
  (noLineEnd : delimiter ≠ '\n' ∧ delimiter ≠ '\r')

/-- A run of delimiters is read up to its end. -/
theorem takeWhile_run (count : Nat) (stop : rest.head? ≠ some delimiter) :
    takeWhile (· == delimiter) (List.replicate count delimiter ++ rest) =
      some (List.replicate count delimiter, rest) := by
  refine takeWhile_append (fun c member => ?_) (fun c isHead => ?_)
  · exact beq_iff_eq.mpr (List.eq_of_mem_replicate member)
  · exact beq_false_of_ne fun same => stop (same ▸ isHead)

/-- One or two delimiters in front of something else are read as characters, and no other number
is. -/
theorem fewDelimiters_run {count : Nat} (stop : rest.head? ≠ some delimiter) :
    fewDelimiters delimiter (List.replicate count delimiter ++ rest) =
      if count = 1 ∨ count = 2 then some (List.replicate count delimiter, rest) else none := by
  rw [fewDelimiters, bind_of_read (takeWhile_run count stop), List.length_replicate]
  split <;> rfl

include declines in
/-- One or two delimiters in front of something else are an item. -/
theorem lineItem_run {count : Nat} (few : count = 1 ∨ count = 2)
    (stop : rest.head? ≠ some delimiter) :
    lineItem delimiter piece (List.replicate count delimiter ++ rest) =
      some (List.replicate count delimiter, rest) := by
  have refused : piece (List.replicate count delimiter ++ rest) = none := by
    rcases few with rfl | rfl <;> exact declines _
  rw [lineItem, orElse_of_refused refused]
  apply orElse_of_read
  rw [fewDelimiters_run stop, if_pos few]

include declines noLineEnd in
/-- The closing delimiters are no item, with or without delimiters in front. -/
theorem lineItem_mark (count : Nat) (stop : rest.head? ≠ some delimiter) :
    lineItem delimiter piece (List.replicate count delimiter ++ (mark delimiter ++ rest)) = none := by
  have many : ¬(count + 3 = 1 ∨ count + 3 = 2) := by omega
  have lineEnds : lineEnd (List.replicate (count + 3) delimiter ++ rest) = none :=
    lineEnd_of_other (by simpa [List.replicate_succ] using noLineEnd)
  rw [replicate_mark, lineItem, orElse_of_refused, orElse_of_refused, bind_of_refused lineEnds]
  · rw [fewDelimiters_run stop, if_neg many]
  · exact declines _

include declines noLineEnd in
/-- A text between three delimiters is read item by item, up to the closing delimiters and the delimiters
of the text in front of them. By induction on how the text was written. Where one or two delimiters stand
for themselves, they are an item if more text follows, and part of the closing run if none does. -/
theorem Between.repeats (between : Between delimiter (lineItem delimiter piece) chars written)
    (stop : rest.head? ≠ some delimiter) :
    ∃ contents count, count ≤ 2 ∧ contents.flatten ++ List.replicate count delimiter = chars ∧
      Repeats (lineItem delimiter piece) (written ++ (mark delimiter ++ rest)) contents
        (List.replicate count delimiter ++ (mark delimiter ++ rest)) := by
  have closed := fun count => lineItem_mark declines noLineEnd count stop
  induction between with
  | nil => exact ⟨[], 0, by omega, rfl, .stop (closed 0)⟩
  | @item c word chars written reads nonempty others inductionHypothesis =>
    obtain ⟨contents, count, few, rfl, repeats⟩ := inductionHypothesis
    refine ⟨[c] :: contents, count, few, rfl, ?_⟩
    rw [List.append_assoc]
    exact .append nonempty (reads _) repeats
  | @single chars written others behind inductionHypothesis =>
    cases written with
    | nil =>
      obtain rfl := others.chars_eq_nil
      exact ⟨[], 1, by omega, rfl, .stop (closed 1)⟩
    | cons head tail =>
      obtain ⟨contents, count, few, rfl, repeats⟩ := inductionHypothesis
      refine ⟨[delimiter] :: contents, count, few, rfl, ?_⟩
      exact .step (lineItem_run declines (.inl rfl) behind) (by simp) repeats
  | @double chars written others behind inductionHypothesis =>
    cases written with
    | nil =>
      obtain rfl := others.chars_eq_nil
      exact ⟨[], 2, by omega, rfl, .stop (closed 2)⟩
    | cons head tail =>
      obtain ⟨contents, count, few, rfl, repeats⟩ := inductionHypothesis
      refine ⟨[delimiter, delimiter] :: contents, count, few, rfl, ?_⟩
      exact .step (lineItem_run declines (.inr rfl) behind) (by simp) repeats

/-- The closing delimiters end the string, and those in front of them belong to it. -/
theorem closing_mark {count : Nat} (few : count ≤ 2) (stop : rest.head? ≠ some delimiter) :
    closing delimiter (List.replicate count delimiter ++ (mark delimiter ++ rest)) =
      some (List.replicate count delimiter, rest) := by
  have enough : 3 ≤ count + 3 ∧ count + 3 ≤ 5 := by omega
  rw [replicate_mark, closing, bind_of_read (takeWhile_run _ stop), List.length_replicate, if_pos enough,
    List.drop_replicate, Nat.add_sub_cancel]
  rfl

include declines noLineEnd in
/-- A text between three delimiters is read back. If it has no line end, it must not be written with one
in front, which would be dropped. -/
theorem severalLines_append (between : Between delimiter (lineItem delimiter piece) chars written)
    (oneLine : '\n' ∉ chars → ∀ c ∈ written.head?, c ≠ '\n' ∧ c ≠ '\r')
    (stop : rest.head? ≠ some delimiter) :
    severalLines delimiter piece (betweenLines delimiter chars written ++ rest) =
      some (String.ofList chars, rest) := by
  obtain ⟨contents, count, few, content, repeats⟩ := between.repeats declines noLineEnd stop
  have opened : ∃ found, Reader.optional lineEnd ((if chars.contains '\n' then ['\n'] else []) ++
      (written ++ (mark delimiter ++ rest))) = some (found, written ++ (mark delimiter ++ rest)) := by
    by_cases lineEnds : '\n' ∈ chars
    · rw [if_pos (List.contains_iff_mem.mpr lineEnds)]
      exact ⟨some (), rfl⟩
    · rw [if_neg (mt List.contains_iff_mem.mp lineEnds), List.nil_append]
      refine ⟨none, optional_of_refused (lineEnd_of_other ?_)⟩
      cases written with
      | nil => simpa [mark] using noLineEnd
      | cons head tail => exact oneLine lineEnds
  obtain ⟨found, opened⟩ := opened
  have shape : betweenLines delimiter chars written ++ rest = [delimiter, delimiter, delimiter] ++
      ((if chars.contains '\n' then ['\n'] else []) ++ (written ++ (mark delimiter ++ rest))) := by
    simp [betweenLines, mark]
  have items := repeats.many
  rw [lineItem] at items
  rw [shape, severalLines, bind_of_read (exactly_append _ _), bind_of_read opened,
    bind_of_read items, bind_of_read (closing_mark few stop), content]
  rfl

end Delimited

/-- The pieces of a string between three quotes: characters, and continued lines, which are none. -/
def quotedPiece : Reader (List Char) :=
  (do return [← quotedChar]) <|> (do lineContinuation; return [])

/-- The pieces of a string between three apostrophes. -/
def literalPiece : Reader (List Char) :=
  do return [← one fun c => isPrintable c && c ≠ '\'']

/-- A quote starts no piece of a string between three quotes. -/
theorem quotedPiece_declines (rest : List Char) : quotedPiece ('"' :: rest) = none := by
  rw [quotedPiece, orElse_of_refused (bind_of_refused (quotedChar_quote rest))]
  rfl

/-- An apostrophe starts no piece of a string between three apostrophes. -/
theorem literalPiece_declines (rest : List Char) : literalPiece ('\'' :: rest) = none := rfl

/-- Every character can be written between three quotes as an item. -/
theorem lineItem_writeChar (c : Char) (rest : List Char) :
    lineItem '"' quotedPiece (writeChar true c ++ rest) = some ([c], rest) := by
  by_cases isLineEnd : c = '\n'
  · rw [isLineEnd]
    rfl
  · have read : (do return [← quotedChar] : Reader (List Char)) (writeChar true c ++ rest) =
        some ([c], rest) := bind_of_read (quotedChar_writeChar (fun _ => isLineEnd) rest)
    exact orElse_of_read (orElse_of_read read)

/-- Behind another character the count of quotes starts again. -/
theorem writeLines_of_other (other : c ≠ '"') (run : Nat) (chars : List Char) :
    writeLines run (c :: chars) = writeChar true c ++ writeLines 0 chars := by
  rw [writeLines, if_neg other]

/-- A text that starts with a character other than a quote is not written with a quote in front. -/
theorem head?_writeLines (other : chars.head? ≠ some '"') (run : Nat) :
    (writeLines run chars).head? ≠ some '"' := by
  cases chars with
  | nil => simp [writeLines]
  | cons c chars =>
    have isOther : c ≠ '"' := fun same => other (same ▸ rfl)
    obtain ⟨first, others, shape, noQuote, _⟩ := exists_writeChar true c
    rw [writeLines_of_other isOther, shape]
    simpa using noQuote

/-- The count of quotes matters only in front of a quote. -/
theorem writeLines_congr (other : chars.head? ≠ some '"') (run : Nat) :
    writeLines run chars = writeLines 0 chars := by
  cases chars with
  | nil => rfl
  | cons c chars =>
    have isOther : c ≠ '"' := fun same => other (same ▸ rfl)
    rw [writeLines_of_other isOther, writeLines_of_other isOther]

/-- Along the runs of a character: a text starts with another one, with a run of one or two of them, or
with three. -/
theorem runs_induction {motive : List Char → Prop} (delimiter : Char) (nil : motive [])
    (other : ∀ c chars, c ≠ delimiter → motive chars → motive (c :: chars))
    (single : ∀ chars, chars.head? ≠ some delimiter → motive chars → motive (delimiter :: chars))
    (double : ∀ chars, chars.head? ≠ some delimiter → motive chars →
      motive (delimiter :: delimiter :: chars))
    (triple : ∀ chars, motive chars → motive (delimiter :: delimiter :: delimiter :: chars))
    (chars : List Char) : motive chars := by
  match chars with
  | [] => exact nil
  | c :: chars =>
    have before := runs_induction delimiter nil other single double triple chars
    by_cases first : c = delimiter
    case neg => exact other c chars first before
    subst first
    match chars with
    | [] => exact single [] (by simp) before
    | d :: chars =>
      have before' := runs_induction c nil other single double triple chars
      by_cases second : d = c
      case neg => exact single (d :: chars) (by simpa using second) before
      subst second
      match chars with
      | [] => exact double [] (by simp) before'
      | e :: chars =>
        by_cases third : e = d
        case neg => exact double (e :: chars) (by simpa using third) before'
        subst third
        exact triple chars (runs_induction e nil other single double triple chars)

/-- Every text can be written between three quotes: the third quote of a run is escaped. -/
theorem between_writeLines (chars : List Char) :
    Between '"' (lineItem '"' quotedPiece) chars (writeLines 0 chars) := by
  induction chars using runs_induction '"' with
  | nil => exact .nil
  | other c chars isOther inductionHypothesis =>
    rw [writeLines_of_other isOther]
    exact .item (lineItem_writeChar c) (writeChar_ne_nil true c) inductionHypothesis
  | single chars stop inductionHypothesis =>
    have behind := head?_writeLines stop 1
    rw [← writeLines_congr stop 1] at inductionHypothesis
    exact .single inductionHypothesis behind
  | double chars stop inductionHypothesis =>
    have behind := head?_writeLines stop 2
    rw [← writeLines_congr stop 2] at inductionHypothesis
    exact .double inductionHypothesis behind
  | triple chars inductionHypothesis =>
    have escaped : Between '"' (lineItem '"' quotedPiece) ('"' :: chars)
        (['\\', '"'] ++ writeLines 0 chars) :=
      .item (lineItem_writeChar '"') (writeChar_ne_nil true '"') inductionHypothesis
    have third : writeLines 2 ('"' :: chars) = ['\\', '"'] ++ writeLines 0 chars := by
      simp [writeLines]
    rw [← third] at escaped
    exact .double escaped (by simp [third])

/-- What is written does not start with a line end, unless the text does. -/
theorem writeLines_oneLine (oneLine : '\n' ∉ chars) :
    ∀ c ∈ (writeLines 0 chars).head?, c ≠ '\n' ∧ c ≠ '\r' := by
  cases chars with
  | nil => simp [writeLines]
  | cons c chars =>
    have other : c ≠ '\n' := fun same => oneLine (same ▸ List.mem_cons_self)
    by_cases isQuote : c = '"'
    · simp [writeLines, isQuote]
    · obtain ⟨first, others, shape, _, noLineEnd⟩ := exists_writeChar true c
      rw [writeLines_of_other isQuote, shape]
      simpa using noLineEnd other

/-- Every text is read back from between three quotes. -/
theorem quotedLines_append (chars : List Char) (stop : rest.head? ≠ some '"') :
    quotedLines (betweenLines '"' chars (writeLines 0 chars) ++ rest) =
      some (String.ofList chars, rest) :=
  severalLines_append quotedPiece_declines (by decide) (between_writeLines chars) writeLines_oneLine
    stop

/-! ### Runs -/

/-- The run so far and the longest one, with one more character. -/
def countRun (delimiter : Char) (counts : Nat × Nat) (c : Char) : Nat × Nat :=
  if c = delimiter then (counts.1 + 1, max counts.2 (counts.1 + 1)) else (0, counts.2)

/-- The longest run is counted from the first character to the last. -/
theorem longestRun_eq (delimiter : Char) (chars : List Char) :
    longestRun delimiter chars = (chars.foldl (countRun delimiter) (0, 0)).2 := rfl

/-- Counting from less gives no longer runs. -/
theorem foldl_countRun_mono {counts counts' : Nat × Nat} (run : counts.1 ≤ counts'.1)
    (longest : counts.2 ≤ counts'.2) (chars : List Char) :
    (chars.foldl (countRun delimiter) counts).2 ≤ (chars.foldl (countRun delimiter) counts').2 := by
  induction chars generalizing counts counts' with
  | nil => exact longest
  | cons c chars inductionHypothesis =>
    by_cases same : c = delimiter
    · simp only [List.foldl_cons, countRun, if_pos same]
      apply inductionHypothesis <;> dsimp only <;> omega
    · simp only [List.foldl_cons, countRun, if_neg same]
      exact inductionHypothesis (Nat.le_refl 0) longest

/-- A run that was counted is not forgotten. -/
theorem le_foldl_countRun (counts : Nat × Nat) (chars : List Char) :
    counts.2 ≤ (chars.foldl (countRun delimiter) counts).2 := by
  induction chars generalizing counts with
  | nil => exact Nat.le_refl _
  | cons c chars inductionHypothesis =>
    have kept : counts.2 ≤ (countRun delimiter counts c).2 := by
      unfold countRun
      split
      · exact Nat.le_max_left _ _
      · exact Nat.le_refl _
    exact Nat.le_trans kept (inductionHypothesis _)

/-- The longest run does not shrink when a character is put in front. -/
theorem longestRun_le_cons (delimiter c : Char) (chars : List Char) :
    longestRun delimiter chars ≤ longestRun delimiter (c :: chars) :=
  foldl_countRun_mono (Nat.zero_le _) (Nat.zero_le _) chars

/-- The longest run is at least as long as one at the front. -/
theorem le_longestRun (delimiter : Char) (count : Nat) (chars : List Char) :
    count ≤ longestRun delimiter (List.replicate count delimiter ++ chars) := by
  have counted : (List.replicate count delimiter).foldl (countRun delimiter) (0, 0) =
      (count, count) := by
    induction count with
    | zero => rfl
    | succ count inductionHypothesis =>
      rw [List.replicate_succ', List.foldl_append, inductionHypothesis]
      simp [countRun]
  rw [longestRun_eq, List.foldl_append, counted]
  exact le_foldl_countRun (count, count) chars

/-- A text without a run of a character does not contain it. -/
theorem not_mem_of_longestRun (none : longestRun delimiter chars = 0) : delimiter ∉ chars := by
  induction chars with
  | nil => simp
  | cons c chars inductionHypothesis =>
    have others := longestRun_le_cons delimiter c chars
    intro member
    cases member with
    | head =>
      have front : 1 ≤ longestRun delimiter (delimiter :: chars) := le_longestRun delimiter 1 chars
      omega
    | tail _ member => exact inductionHypothesis (by omega) member

/-- A character that needs no escape stands for itself between three apostrophes. -/
theorem lineItem_literal (plain : needsEscape c = false) (other : c ≠ '\'') (rest : List Char) :
    lineItem '\'' literalPiece ([c] ++ rest) = some ([c], rest) := by
  by_cases isLineEnd : c = '\n'
  · rw [isLineEnd]
    rfl
  · have accepted : (isPrintable c && c ≠ '\'') = true := by
      simpa [needsEscape, isLineEnd, other] using plain
    exact orElse_of_read (bind_of_read (one_of_accepted accepted rest))

/-- A text without controls and with few apostrophes in a row can stand between three of them. -/
theorem between_self (plain : ∀ c ∈ chars, needsEscape c = false)
    (few : longestRun '\'' chars ≤ 2) :
    Between '\'' (lineItem '\'' literalPiece) chars chars := by
  induction chars using runs_induction '\'' with
  | nil => exact .nil
  | other c chars isOther inductionHypothesis =>
    have fewer := longestRun_le_cons '\'' c chars
    have others := inductionHypothesis (fun c member => plain c (.tail _ member)) (by omega)
    exact .item (lineItem_literal (plain c List.mem_cons_self) isOther) (by simp) others
  | single chars stop inductionHypothesis =>
    have fewer := longestRun_le_cons '\'' '\'' chars
    exact .single (inductionHypothesis (fun c member => plain c (.tail _ member)) (by omega)) stop
  | double chars stop inductionHypothesis =>
    have fewer := longestRun_le_cons '\'' '\'' ('\'' :: chars)
    have fewest := longestRun_le_cons '\'' '\'' chars
    have others := inductionHypothesis (fun c member => plain c (.tail _ (.tail _ member))) (by omega)
    exact .double others stop
  | triple chars _ =>
    have three : 3 ≤ longestRun '\'' ('\'' :: '\'' :: '\'' :: chars) := le_longestRun '\'' 3 chars
    omega

/-- A text without controls and with few apostrophes in a row is read back from between three of them. -/
theorem literalLines_append (plain : ∀ c ∈ chars, needsEscape c = false)
    (few : longestRun '\'' chars ≤ 2) (stop : rest.head? ≠ some '\'') :
    literalLines (betweenLines '\'' chars chars ++ rest) = some (String.ofList chars, rest) := by
  refine severalLines_append literalPiece_declines (by decide) (between_self plain few) ?_ stop
  intro oneLine c isHead
  have member := List.mem_of_head? isHead
  refine ⟨fun same => oneLine (same ▸ member), fun same => ?_⟩
  have escape := plain c member
  rw [same] at escape
  exact absurd escape (by decide)

/-! ### Strings in any form -/

/-- A text that does not start with three delimiters is no string on several lines. -/
theorem severalLines_of_other {piece : Reader (List Char)}
    (other : ¬ [delimiter, delimiter, delimiter] <+: chars) :
    severalLines delimiter piece chars = none := by
  rw [severalLines, bind_of_refused (exactly_of_other other)]

/-- Without three quotes in front there is no string between three quotes. -/
theorem quotedLines_of_other (other : ¬ ['"', '"', '"'] <+: chars) : quotedLines chars = none :=
  severalLines_of_other other

/-- Without three apostrophes in front there is no string between three apostrophes. -/
theorem literalLines_of_other (other : ¬ ['\'', '\'', '\''] <+: chars) : literalLines chars = none :=
  severalLines_of_other other

/-- A delimiter, a content without delimiter in front and a delimiter are not three delimiters. -/
theorem not_mark_isPrefix {content : List Char} (front : content.head? ≠ some delimiter)
    (stop : rest.head? ≠ some delimiter) :
    ¬ [delimiter, delimiter, delimiter] <+: delimiter :: (content ++ delimiter :: rest) := by
  rintro ⟨behind, same⟩
  cases content with
  | nil =>
    have follows : delimiter :: behind = rest := by simpa using same
    exact stop (follows ▸ rfl)
  | cons c content =>
    have first : delimiter = c := by
      have heads := congrArg (·[1]?) same
      simpa using heads
    exact front (first ▸ rfl)

/-- A string written between quotes is read back, if no quote follows. -/
theorem string_quotedString (chars : List Char) (stop : rest.head? ≠ some '"') :
    string ('"' :: (chars.flatMap (writeChar false) ++ '"' :: rest)) =
      some (String.ofList chars, rest) := by
  have front : (chars.flatMap (writeChar false)).head? ≠ some '"' := by
    cases chars with
    | nil => simp
    | cons c chars =>
      obtain ⟨first, others, shape, noQuote, _⟩ := exists_writeChar false c
      rw [List.flatMap_cons, shape]
      simpa using noQuote
  rw [string, orElse_of_refused (quotedLines_of_other (not_mark_isPrefix front stop)),
    orElse_of_refused (literalLines_of_other (by simp))]
  exact orElse_of_read (quotedString_append chars rest)

/-- A string written between apostrophes is read back, if no apostrophe follows. -/
theorem string_literalString (plain : ∀ c ∈ chars, isPrintable c = true ∧ c ≠ '\'')
    (stop : rest.head? ≠ some '\'') :
    string ('\'' :: (chars ++ '\'' :: rest)) = some (String.ofList chars, rest) := by
  have front : chars.head? ≠ some '\'' := fun isHead =>
    (plain '\'' (List.mem_of_head? isHead)).2 rfl
  have quoted : quotedString ('\'' :: (chars ++ '\'' :: rest)) = none :=
    bind_of_refused (char_of_other (by simp))
  rw [string, orElse_of_refused (quotedLines_of_other (by simp)),
    orElse_of_refused (literalLines_of_other (not_mark_isPrefix front stop)),
    orElse_of_refused quoted]
  exact literalString_append plain rest

/-- A string written between three quotes is read back, if no quote follows. -/
theorem string_quotedLines (chars : List Char) (stop : rest.head? ≠ some '"') :
    string (betweenLines '"' chars (writeLines 0 chars) ++ rest) =
      some (String.ofList chars, rest) :=
  orElse_of_read (quotedLines_append chars stop)

/-- A string written between three apostrophes is read back, if no apostrophe follows. -/
theorem string_literalLines (plain : ∀ c ∈ chars, needsEscape c = false)
    (few : longestRun '\'' chars ≤ 2) (stop : rest.head? ≠ some '\'') :
    string (betweenLines '\'' chars chars ++ rest) = some (String.ofList chars, rest) := by
  have quoted : quotedLines (betweenLines '\'' chars chars ++ rest) = none :=
    quotedLines_of_other (by simp [betweenLines])
  rw [string, orElse_of_refused quoted]
  exact orElse_of_read (literalLines_append plain few stop)

/-- A text written in any form is read back, if neither a quote nor an apostrophe follows. The forms are
told apart as the writer does, and each is chosen for texts that its own reader reads back. -/
theorem string_writeString (text : String) (noQuote : rest.head? ≠ some '"')
    (noApostrophe : rest.head? ≠ some '\'') :
    string ((writeString text).toList ++ rest) = some (text, rest) := by
  have uncontrolled : text.toList.any needsEscape = false →
      ∀ c ∈ text.toList, needsEscape c = false := by
    intro none c member
    exact Bool.eq_false_iff.mpr (List.any_eq_false.mp none c member)
  unfold writeString
  simp only [String.toList_ofList]
  split
  case isTrue =>
    simpa using string_quotedString text.toList noQuote
  split
  case isTrue simple =>
    simp only [Bool.and_eq_true, Bool.not_eq_true', beq_iff_eq] at simple
    obtain ⟨⟨controls, apostrophes⟩, oneLine⟩ := simple
    have plain : ∀ c ∈ text.toList, isPrintable c = true ∧ c ≠ '\'' := by
      intro c member
      have noLineEnd : c ≠ '\n' := fun same => by
        have isMember := List.contains_iff_mem.mpr (same ▸ member)
        rw [oneLine] at isMember
        cases isMember
      have noEscape := uncontrolled controls c member
      refine ⟨by simpa [needsEscape, noLineEnd] using noEscape, fun same => ?_⟩
      exact not_mem_of_longestRun apostrophes (same ▸ member)
    simpa using string_literalString plain noApostrophe
  split
  case isTrue =>
    simpa using string_quotedLines text.toList noQuote
  split
  case isTrue simple =>
    simp only [Bool.and_eq_true, Bool.not_eq_true', decide_eq_true_eq] at simple
    obtain ⟨controls, few⟩ := simple
    simpa using string_literalLines (uncontrolled controls) few noApostrophe
  split
  case isTrue =>
    simpa using string_quotedLines text.toList noQuote
  case isFalse =>
    simpa using string_quotedString text.toList noQuote

end ContextualQuery.Toml
