import ContextualQuery.Proofs.Number.Sign
import ContextualQuery.Proofs.Token.Lexeme

/-!
# The characters of boosts

The value of a boost is read as a decimal number, since the names of the values without digits are not
finite or do not start with a digit or a point. So it consists of digits and of the characters around
them, and it is a bare word, which is written without quotes.
-/

namespace ContextualQuery

namespace Decimal

/-- The characters in a decimal number that are not digits. -/
def marks : List Char := ['.', 'e', 'E', '+', '-']

/-- A digit, or another character of a decimal number. -/
def IsPart (c : Char) : Prop := c.isDigit = true ∨ c ∈ marks

/-- An exponent has digits behind a sign at most. -/
theorem isPart_of_readExponent? {chars : List Char} {exponent : Int}
    (read : readExponent? chars = some exponent) : ∀ c ∈ chars, IsPart c := by
  have digitsOnly : ∀ (digits : List Char) (magnitude : Int),
      (if digits = [] ∨ digits.any (!·.isDigit) then none else some (digitsValue digits : Int)) =
        some magnitude → ∀ c ∈ digits, IsPart c := by
    intro digits magnitude found
    have isDigit : ∀ c ∈ digits, c.isDigit = true := by
      have some := (Option.ite_none_left_eq_some.mp found).1
      simpa using (not_or.mp some).2
    exact fun c member => .inl (isDigit c member)
  unfold readExponent? at read
  split at read
  case h_1 digits =>
    obtain ⟨magnitude, found, _⟩ := Option.map_eq_some_iff.mp read
    exact List.forall_mem_cons.mpr ⟨.inr (by decide), digitsOnly digits magnitude found⟩
  case h_2 digits =>
    exact List.forall_mem_cons.mpr ⟨.inr (by decide), digitsOnly digits exponent read⟩
  case h_3 => exact digitsOnly chars exponent read

/-- Digits in front of characters of a decimal number. -/
theorem isPart_of_dropWhile {chars : List Char}
    (behind : ∀ c ∈ chars.dropWhile Char.isDigit, IsPart c) : ∀ c ∈ chars, IsPart c := by
  have front : ∀ c ∈ chars.takeWhile Char.isDigit, IsPart c := fun c member =>
    .inl (List.all_eq_true.mp List.all_takeWhile c member)
  rw [← List.takeWhile_append_dropWhile (p := Char.isDigit) (l := chars)]
  exact List.forall_mem_append.mpr ⟨front, behind⟩

/-- A decimal number is read from characters of decimal numbers only. -/
theorem isPart_of_read? {chars : List Char} {value : Decimal} (read : read? chars = some value) :
    ∀ c ∈ chars, IsPart c := by
  unfold read? at read
  obtain ⟨_, readRest⟩ := Option.ite_none_left_eq_some.mp read
  obtain ⟨exponent, found, _⟩ := Option.map_eq_some_iff.mp readRest
  -- What stands behind all digits is empty or an exponent.
  have behind : ∀ c ∈ (if (chars.dropWhile Char.isDigit).head? = some '.'
      then (chars.dropWhile Char.isDigit).tail.dropWhile Char.isDigit
      else chars.dropWhile Char.isDigit), IsPart c := by
    generalize (if (chars.dropWhile Char.isDigit).head? = some '.'
      then (chars.dropWhile Char.isDigit).tail.dropWhile Char.isDigit
      else chars.dropWhile Char.isDigit) = rest at found ⊢
    cases rest with
    | nil => simp
    | cons mark digits =>
      obtain ⟨isMark, readDigits⟩ := Option.ite_none_right_eq_some.mp found
      have markPart : IsPart mark := by
        rcases isMark with rfl | rfl <;> exact .inr (by decide)
      exact List.forall_mem_cons.mpr ⟨markPart, isPart_of_readExponent? readDigits⟩
  apply isPart_of_dropWhile
  by_cases pointed : (chars.dropWhile Char.isDigit).head? = some '.'
  · obtain ⟨tail, shape⟩ := List.head?_eq_some_iff.mp pointed
    rw [if_pos pointed, shape] at behind
    rw [shape]
    exact List.forall_mem_cons.mpr ⟨.inr (by decide), isPart_of_dropWhile behind⟩
  · rwa [if_neg pointed] at behind

/-- The characters of decimal numbers stand in bare words, and no colon and no caret is one of them. -/
theorem IsPart.plain {c : Char} (isPart : IsPart c) :
    Token.isBare c = true ∧ c ≠ ':' ∧ c ≠ '^' := by
  have others : (marks.all fun c => Token.isBare c && c != ':' && c != '^') = true := by decide
  rcases isPart with isDigit | isMark
  · have digits : ∀ code : Fin 10, Token.isBare (Char.ofNat (48 + code)) = true ∧
        Char.ofNat (48 + code) ≠ ':' ∧ Char.ofNat (48 + code) ≠ '^' := by decide
    have bounds : 48 ≤ c.toNat ∧ c.toNat ≤ 57 := by
      simpa [Char.isDigit, UInt32.le_iff_toNat_le] using isDigit
    have same : Char.ofNat (48 + (c.toNat - 48)) = c := by
      rw [Nat.add_sub_cancel' bounds.1, Char.ofNat_toNat]
    rw [← same]
    exact digits ⟨c.toNat - 48, by omega⟩
  · simpa [and_assoc] using List.all_eq_true.mp others c isMark

end Decimal

/-- The value of a boost is written as a decimal number. -/
theorem Grammar.isPart_of_isBoostValue {text : String} (isBoost : isBoostValue text = true) :
    ∀ c ∈ text.toList, Decimal.IsPart c := by
  obtain ⟨unsigned, isNumber⟩ := Bool.and_eq_true_iff.mp isBoost
  rw [Binary64.read?_of_unsigned unsigned, Binary64.readUnsigned?] at isNumber
  split at isNumber
  case isTrue => simp [Binary64.isFinite] at isNumber
  case isFalse =>
    split at isNumber
    case isTrue => simp [Binary64.isFinite] at isNumber
    case isFalse =>
      cases read : Decimal.read? text.toList with
      | none => simp [read] at isNumber
      | some value => exact Decimal.isPart_of_read? read

/-- The value of a boost is a bare word. -/
theorem Grammar.isBareWord_of_isBoostValue {text : String} (isBoost : isBoostValue text = true) :
    Token.IsBareWord text.toList := by
  constructor
  · intro nothing
    simp [isBoostValue, nothing] at isBoost
  · exact fun c member => (isPart_of_isBoostValue isBoost c member).plain.1

end ContextualQuery
