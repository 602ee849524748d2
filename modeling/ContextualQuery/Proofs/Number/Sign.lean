import ContextualQuery.Parser.Grammar

/-!
# Signs

Only the sign in front of a text makes its number negative: rounding keeps the sign it is given, and
a text that starts with a digit or a point is read without one. So the value of a boost is a finite
number that is not negative.
-/

namespace ContextualQuery

namespace Binary64

variable {negative sign : Bool} {magnitude : Magnitude}

/-- A rounded significand keeps the sign it is given, at every exponent. -/
theorem sign_ofRounded {significand : Nat} {exponent : Int}
    {rounded : significand ≤ Nat.pow 2 53} {lowest : minExponent ≤ exponent}
    {leading : Nat.pow 2 52 ≤ significand ∨ exponent = minExponent}
    (bounded : ofRounded negative significand exponent rounded lowest leading =
      finite sign magnitude) : sign = negative := by
  unfold ofRounded at bounded
  split at bounded <;> split at bounded <;> cases bounded <;> rfl

/-- A quotient is rounded to a number of the given sign. -/
theorem sign_ofQuotient {numerator denominator : Nat} {positive : 0 < denominator}
    (rounded : ofQuotient negative numerator denominator positive = .finite sign magnitude) :
    sign = negative := by
  unfold ofQuotient at rounded
  split at rounded
  case isTrue => exact sign_ofRounded rounded
  case isFalse =>
    rw [zero] at rounded
    cases rounded
    rfl

/-- A decimal is converted to a number of the given sign. -/
theorem sign_toBinary64 {value : Decimal}
    (rounded : value.toBinary64 negative = .finite sign magnitude) :
    sign = negative := by
  unfold Decimal.toBinary64 at rounded
  dsimp only at rounded
  split at rounded
  case isTrue =>
    rw [zero] at rounded
    cases rounded
    rfl
  case isFalse =>
    split at rounded
    case isTrue => cases rounded
    case isFalse =>
      split at rounded
      case isTrue => exact sign_ofQuotient rounded
      case isFalse => exact sign_ofQuotient rounded

/-- A number that is read without a sign has the given one. -/
theorem sign_readUnsigned? {chars : List Char}
    (read : readUnsigned? negative chars = some (.finite sign magnitude)) :
    sign = negative := by
  unfold readUnsigned? at read
  dsimp only at read
  split at read
  case isTrue => simp at read
  case isFalse =>
    split at read
    case isTrue => simp at read
    case isFalse =>
      obtain ⟨value, _, rounded⟩ := Option.map_eq_some_iff.mp read
      exact sign_toBinary64 rounded

/-- A text that starts with a digit or a point has no sign in front. -/
theorem read?_of_unsigned {text : String}
    (unsigned : (text.toList.head?.any fun c => c.isDigit || c == '.') = true) :
    read? text = readUnsigned? false text.toList := by
  rw [read?]
  split
  case h_1 shape => simp [shape] at unsigned
  case h_2 shape => simp [shape] at unsigned
  case h_3 => rfl

end Binary64

/-- The value of a boost is finite and not negative. -/
theorem Grammar.read?_of_isBoostValue {text : String} (isBoost : isBoostValue text = true) :
    ∃ magnitude, Binary64.read? text = some (.finite false magnitude) := by
  obtain ⟨unsigned, isNumber⟩ := Bool.and_eq_true_iff.mp isBoost
  obtain ⟨number, read, finite⟩ :
      ∃ number, Binary64.read? text = some number ∧ number.isFinite = true := by
    simpa [Option.any_eq_true] using isNumber
  cases number with
  | finite sign magnitude =>
    have readHere := read
    rw [Binary64.read?_of_unsigned unsigned] at readHere
    obtain rfl := Binary64.sign_readUnsigned? readHere
    exact ⟨magnitude, read⟩
  | nan => simp [Binary64.isFinite] at finite
  | infinite negative => simp [Binary64.isFinite] at finite

end ContextualQuery
