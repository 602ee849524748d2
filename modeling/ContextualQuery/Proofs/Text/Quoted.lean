import Mathlib.Tactic.SplitIfs
import ContextualQuery.Text.Quoted

/-!
# Reading quoted texts

A quoted text determines the text between its quotes, and whatever stands behind it, it also determines
where it ends. An escape starts with a backslash and goes on with a letter of its own or with the code
point between braces, which no digit can be taken for; a character that is written as it stands is
neither a quote nor a backslash. So the escapes can be read one by one, and the first quote between them
is the one that closes the text.
-/

namespace ContextualQuery.Text

/-- Where a mark stands for the first time in a text, there is only one way to split the text at it. -/
theorem append_cons_inj_of_first {mark : Char} {front back front' back' : List Char}
    (first : mark ∉ front) (first' : mark ∉ front')
    (same : front ++ mark :: back = front' ++ mark :: back') : front = front' ∧ back = back' := by
  rcases List.append_eq_append_iff.mp same with ⟨middle, rfl, cut⟩ | ⟨middle, rfl, cut⟩
  · cases middle with
    | nil => simpa using cut
    | cons c rest =>
      obtain ⟨rfl, _⟩ := List.cons.inj cut
      simp at first'
  · cases middle with
    | nil => simpa [eq_comm] using cut
    | cons c rest =>
      obtain ⟨rfl, _⟩ := List.cons.inj cut
      simp at first

/-! ### Hexadecimal digits -/

/-- Different digits have different characters. -/
theorem digitChar_inj {left right : Nat} (small : left < 16) (small' : right < 16)
    (same : Nat.digitChar left = Nat.digitChar right) : left = right := by
  have each : ∀ left < 16, ∀ right < 16, Nat.digitChar left = Nat.digitChar right → left = right := by
    decide
  exact each left small right small' same

/-- A number is determined by its hexadecimal digits. -/
theorem toDigits_inj {left right : Nat} (same : Nat.toDigits 16 left = Nat.toDigits 16 right) :
    left = right := by
  induction left using Nat.strongRecOn generalizing right with
  | ind left inductionHypothesis =>
    rcases Nat.lt_or_ge left 16 with small | large <;> rcases Nat.lt_or_ge right 16 with small' | large'
    · rw [Nat.toDigits_of_lt_base small, Nat.toDigits_of_lt_base small'] at same
      exact digitChar_inj small small' (List.singleton_inj.mp same)
    · rw [Nat.toDigits_of_lt_base small, Nat.toDigits_of_base_le (by decide) large'] at same
      exact absurd (List.append_eq_singleton_iff.mp same.symm) (by simp [Nat.toDigits_ne_nil])
    · rw [Nat.toDigits_of_base_le (by decide) large, Nat.toDigits_of_lt_base small'] at same
      exact absurd (List.append_eq_singleton_iff.mp same) (by simp [Nat.toDigits_ne_nil])
    · rw [Nat.toDigits_of_base_le (by decide) large, Nat.toDigits_of_base_le (by decide) large'] at same
      obtain ⟨higher, last⟩ := List.append_inj' same rfl
      have quotients : left / 16 = right / 16 := inductionHypothesis (left / 16) (by omega) higher
      have remainders : left % 16 = right % 16 :=
        digitChar_inj (Nat.mod_lt _ (by decide)) (Nat.mod_lt _ (by decide)) (List.singleton_inj.mp last)
      omega

/-- The characters of a hexadecimal number are digits. -/
theorem exists_digit_of_mem_toDigits {number : Nat} {c : Char} (member : c ∈ Nat.toDigits 16 number) :
    ∃ digit < 16, c = Nat.digitChar digit := by
  induction number using Nat.strongRecOn with
  | ind number inductionHypothesis =>
    rcases Nat.lt_or_ge number 16 with small | large
    · rw [Nat.toDigits_of_lt_base small, List.mem_singleton] at member
      exact ⟨number, small, member⟩
    · rw [Nat.toDigits_of_base_le (by decide) large, List.mem_append, List.mem_singleton] at member
      rcases member with higher | last
      · exact inductionHypothesis (number / 16) (by omega) higher
      · exact ⟨number % 16, Nat.mod_lt _ (by decide), last⟩

/-- A character that no digit has is no character of a number. -/
theorem not_mem_toDigits {c : Char} (noDigit : ∀ digit < 16, Nat.digitChar digit ≠ c) (number : Nat) :
    c ∉ Nat.toDigits 16 number := by
  intro member
  obtain ⟨digit, small, rfl⟩ := exists_digit_of_mem_toDigits member
  exact noDigit digit small rfl

/-! ### Escapes -/

/-- The characters with a letter of their own behind the backslash. -/
def escapeLetters : List (Char × Char) :=
  [('"', '"'), ('\\', '\\'), ('\n', 'n'), ('\r', 'r'), ('\t', 't'), ('\x00', '0')]

/-- The forms in which a character stands in a quoted text. -/
inductive Escapes (c : Char) : List Char → Prop
  | letter {letter : Char} (listed : (c, letter) ∈ escapeLetters) : Escapes c ['\\', letter]
  | codePoint : Escapes c (hexEscape c)
  | plain (noQuote : c ≠ '"') (noSlash : c ≠ '\\') (noBreak : c ≠ '\n') : Escapes c [c]

/-- Each character is escaped in one of the documented ways. -/
theorem escapes_escape (c : Char) : Escapes c (escape c) := by
  unfold escape
  split_ifs with quote slash newline carriage tab zero
  · exact .letter (by simp [quote, escapeLetters])
  · exact .letter (by simp [slash, escapeLetters])
  · exact .letter (by simp [newline, escapeLetters])
  · exact .letter (by simp [carriage, escapeLetters])
  · exact .letter (by simp [tab, escapeLetters])
  · exact .letter (by simp [zero, escapeLetters])
  · exact .codePoint
  · exact .plain quote slash newline

/-- A letter stands for one character only, and never for a code point. -/
theorem escapeLetters_inj {c c' letter : Char} (listed : (c, letter) ∈ escapeLetters)
    (listed' : (c', letter) ∈ escapeLetters) : c = c' := by
  have distinct : ∀ entry ∈ escapeLetters, ∀ entry' ∈ escapeLetters,
      entry.2 = entry'.2 → entry.1 = entry'.1 := by decide
  exact distinct _ listed _ listed' rfl

/-- No short escape has the letter `u`, which starts the escape of a code point. -/
theorem ne_u_of_mem_escapeLetters {c letter : Char} (listed : (c, letter) ∈ escapeLetters) :
    letter ≠ 'u' := by
  have others : ∀ entry ∈ escapeLetters, entry.2 ≠ 'u' := by decide
  exact others _ listed

/-- The braces around a code point show where it ends. -/
theorem hexEscape_append_inj {c c' : Char} {rest rest' : List Char}
    (same : hexEscape c ++ rest = hexEscape c' ++ rest') : c = c' ∧ rest = rest' := by
  have noBrace : ∀ number, '\x7d' ∉ Nat.toDigits 16 number := not_mem_toDigits (by decide)
  simp only [hexEscape, List.cons_append, List.append_assoc, List.cons.injEq, true_and,
    List.nil_append] at same
  obtain ⟨digits, rests⟩ := append_cons_inj_of_first (noBrace _) (noBrace _) same
  exact ⟨Char.toNat_inj.mp (toDigits_inj digits), rests⟩

/-- The first escape of a text is known, whatever follows it. A character that stands for itself is no
backslash, and behind a backslash the letter `u` is no short escape. -/
theorem escape_append_inj {c c' : Char} {rest rest' : List Char}
    (same : escape c ++ rest = escape c' ++ rest') : c = c' ∧ rest = rest' := by
  have form := escapes_escape c
  have form' := escapes_escape c'
  generalize escape c = chars at form same
  generalize escape c' = chars' at form' same
  cases form with
  | letter listed =>
    cases form' with
    | letter listed' =>
      simp only [List.cons_append, List.nil_append, List.cons.injEq, true_and] at same
      obtain ⟨rfl, rests⟩ := same
      exact ⟨escapeLetters_inj listed listed', rests⟩
    | codePoint =>
      simp only [hexEscape, List.cons_append, List.cons.injEq, true_and] at same
      exact absurd same.1 (ne_u_of_mem_escapeLetters listed)
    | plain _ noSlash => exact absurd (List.cons.inj same).1.symm noSlash
  | codePoint =>
    cases form' with
    | letter listed =>
      simp only [hexEscape, List.cons_append, List.cons.injEq, true_and] at same
      exact absurd same.1.symm (ne_u_of_mem_escapeLetters listed)
    | codePoint => exact hexEscape_append_inj same
    | plain _ noSlash => exact absurd (List.cons.inj same).1.symm noSlash
  | plain _ noSlash =>
    cases form' with
    | letter | codePoint => exact absurd (List.cons.inj same).1 noSlash
    | plain => exact List.cons.inj same

/-- No escape starts with a quote. -/
theorem escape_append_ne_quote (c : Char) (rest rest' : List Char) :
    escape c ++ rest ≠ '"' :: rest' := by
  intro same
  have form := escapes_escape c
  generalize escape c = chars at form same
  cases form with
  | letter | codePoint => exact absurd (List.cons.inj same).1 (by decide)
  | plain noQuote => exact noQuote (List.cons.inj same).1

/-- No escape holds a line break. -/
theorem break_not_mem_escape (c : Char) : '\n' ∉ escape c := by
  have form := escapes_escape c
  generalize escape c = chars at form
  cases form with
  | letter listed =>
    have others : ∀ entry ∈ escapeLetters, entry.2 ≠ '\n' := by decide
    simp [(others _ listed).symm]
  | codePoint =>
    have noDigit : '\n' ∉ Nat.toDigits 16 c.toNat := not_mem_toDigits (by decide) _
    simp [hexEscape, noDigit]
  | plain _ _ noBreak => simpa using noBreak.symm

/-! ### Quoted texts -/

/-- A quoted text stands between quotes, with each of its characters escaped. -/
theorem toList_quoted (text : String) :
    (quoted text).toList = '"' :: (text.toList.flatMap escape ++ ['"']) := by
  simp [quoted]

/-- The escapes up to the quote behind them are determined, one after another. -/
theorem flatMap_escape_append_inj {chars chars' rest rest' : List Char}
    (same : chars.flatMap escape ++ '"' :: rest = chars'.flatMap escape ++ '"' :: rest') :
    chars = chars' ∧ rest = rest' := by
  induction chars generalizing chars' with
  | nil =>
    cases chars' with
    | nil => simpa using same
    | cons c' tail' =>
      rw [List.flatMap_cons, List.append_assoc] at same
      exact absurd same.symm (escape_append_ne_quote c' _ _)
  | cons c tail inductionHypothesis =>
    rw [List.flatMap_cons, List.append_assoc] at same
    cases chars' with
    | nil => exact absurd same (escape_append_ne_quote c _ _)
    | cons c' tail' =>
      rw [List.flatMap_cons, List.append_assoc] at same
      obtain ⟨rfl, later⟩ := escape_append_inj same
      obtain ⟨rfl, rests⟩ := inductionHypothesis later
      exact ⟨rfl, rests⟩

/-- A quoted text determines its text, and where it ends in front of another one. -/
theorem quoted_append_inj {left right : String} {rest rest' : List Char}
    (same : (quoted left).toList ++ rest = (quoted right).toList ++ rest') :
    left = right ∧ rest = rest' := by
  simp only [toList_quoted, List.cons_append, List.append_assoc, List.nil_append, List.cons.injEq,
    true_and] at same
  obtain ⟨characters, rests⟩ := flatMap_escape_append_inj same
  exact ⟨String.toList_inj.mp characters, rests⟩

/-- A quoted text stands on one line, whatever characters it quotes. -/
theorem break_not_mem_quoted (text : String) : '\n' ∉ (quoted text).toList := by
  simp [toList_quoted, break_not_mem_escape]

end ContextualQuery.Text
