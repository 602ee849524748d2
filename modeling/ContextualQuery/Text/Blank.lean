/-!
# Blank characters

Blank characters are the twenty-five code points with the property `White_Space`. They separate
tokens and never belong to a bare one. The class is wider than `Char.isWhitespace`, which knows the
ASCII ones only, and leaves out the zero-width characters.
-/

namespace ContextualQuery.Text

/-- A blank character: a tab, a line or page break, or a space of some width. -/
def isBlank (c : Char) : Bool :=
  let point := c.toNat
  (9 ≤ point && point ≤ 13) || point == 0x20 || point == 0x85 || point == 0xa0 ||
    point == 0x1680 || (0x2000 ≤ point && point ≤ 0x200a) || point == 0x2028 || point == 0x2029 ||
    point == 0x202f || point == 0x205f || point == 0x3000

/-- The characters without the blanks at their front. -/
def skipBlanks (chars : List Char) : List Char := chars.dropWhile isBlank

/-- The characters without the blanks at their end. -/
def trimBlanksEnd (chars : List Char) : List Char := (chars.reverse.dropWhile isBlank).reverse

/-- A character that is no blank stays in front. -/
theorem trimBlanksEnd_cons {c : Char} (solid : isBlank c = false) (rest : List Char) :
    trimBlanksEnd (c :: rest) = c :: trimBlanksEnd rest := by
  by_cases blanks : rest.reverse.dropWhile isBlank = [] <;>
    simp [trimBlanksEnd, List.dropWhile_append, solid, blanks]

/-- What stands behind the blanks is an end of the text. -/
theorem skipBlanks_suffix (chars : List Char) : skipBlanks chars <:+ chars :=
  List.dropWhile_suffix isBlank

/-- Skipping blanks makes a text no longer. -/
theorem skipBlanks_length_le (chars : List Char) : (skipBlanks chars).length ≤ chars.length :=
  (skipBlanks_suffix chars).length_le

/-- What is left after the blanks does not start with one. -/
theorem isBlank_head_skipBlanks {chars rest : List Char} {c : Char}
    (shape : skipBlanks chars = c :: rest) : isBlank c = false := by
  have head : (skipBlanks chars).head? = some c := by simp [shape]
  have stop := List.head?_dropWhile_not isBlank chars
  unfold skipBlanks at head
  rw [head] at stop
  simpa using stop

end ContextualQuery.Text
