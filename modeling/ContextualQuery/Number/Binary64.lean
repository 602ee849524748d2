import ContextualQuery.Number.Rounding

/-!
# Binary floating-point numbers of 64 bits

A number is not a number, an infinity with a sign, or a finite value with a sign and a magnitude
`significand * 2 ^ exponent`. A magnitude has one form: the significand is below `2 ^ 53`, the exponent
is between `-1074` and `971`, and a significand below `2 ^ 52` occurs with the smallest exponent only.
Quotients of natural numbers are rounded to the nearest value of this form.
-/

namespace ContextualQuery

namespace Binary64

/-- The smallest exponent of a finite value. -/
def minExponent : Int := -1074

/-- The largest exponent of a finite value. -/
def maxExponent : Int := 971

/-- The magnitude `significand * 2 ^ exponent` of a finite value, in its one form. -/
structure Magnitude where
  significand : Nat
  exponent : Int
  bounded : significand < Nat.pow 2 53
  lowest : minExponent ≤ exponent
  highest : exponent ≤ maxExponent
  leading : Nat.pow 2 52 ≤ significand ∨ exponent = minExponent
deriving DecidableEq, Repr

end Binary64

/-- A floating-point number with a significand of 53 bits. -/
inductive Binary64 where
  | nan
  | infinite (negative : Bool)
  | finite (negative : Bool) (magnitude : Binary64.Magnitude)
deriving DecidableEq, Repr

namespace Binary64

/-- How many of the smallest positive values the magnitude amounts to. -/
def Magnitude.units (magnitude : Magnitude) : Nat :=
  magnitude.significand * Nat.pow 2 (magnitude.exponent - minExponent).toNat

/-- Of two magnitudes with different exponents the one with the larger exponent is larger. -/
theorem Magnitude.units_lt_units {magnitude larger : Magnitude}
    (ordered : magnitude.exponent < larger.exponent) : magnitude.units < larger.units := by
  have lowest := magnitude.lowest
  -- The larger one is not at the smallest exponent, so its significand has all 53 bits.
  have leading : Nat.pow 2 52 ≤ larger.significand := larger.leading.resolve_right (by omega)
  have next : (magnitude.exponent - minExponent).toNat + 1 ≤
      (larger.exponent - minExponent).toNat := by omega
  calc magnitude.units
      < Nat.pow 2 53 * Nat.pow 2 (magnitude.exponent - minExponent).toNat :=
        Nat.mul_lt_mul_of_pos_right magnitude.bounded (Nat.two_pow_pos _)
    _ = Nat.pow 2 52 * Nat.pow 2 ((magnitude.exponent - minExponent).toNat + 1) := by
        rw [Number.mul_pow_add]
        exact Nat.mul_assoc (Nat.pow 2 1) (Nat.pow 2 52) _
    _ ≤ Nat.pow 2 52 * Nat.pow 2 (larger.exponent - minExponent).toNat :=
        Nat.mul_le_mul_left _ (Nat.pow_le_pow_right Nat.two_pos next)
    _ ≤ larger.units := Nat.mul_le_mul_right _ leading

/-- Magnitudes of equal value are the same magnitude. -/
theorem Magnitude.eq_of_units_eq {magnitude other : Magnitude}
    (same : magnitude.units = other.units) : magnitude = other := by
  have exponents : magnitude.exponent = other.exponent := by
    rcases Int.lt_trichotomy magnitude.exponent other.exponent with less | equal | greater
    · exact absurd same (Nat.ne_of_lt (units_lt_units less))
    · exact equal
    · exact absurd same.symm (Nat.ne_of_lt (units_lt_units greater))
  have significands : magnitude.significand = other.significand := by
    rw [units, units, exponents] at same
    exact Nat.eq_of_mul_eq_mul_right (Nat.two_pow_pos _) same
  cases magnitude
  cases other
  cases exponents
  cases significands
  rfl

/-- Zero as a magnitude. -/
def Magnitude.zero : Magnitude :=
  ⟨0, minExponent, by decide, by decide, by decide, .inr rfl⟩

/-- Zero with a sign. -/
def zero (negative : Bool) : Binary64 := .finite negative .zero

/-- A finite number: neither an infinity nor the value that is not a number. -/
def isFinite : Binary64 → Bool
  | .finite .. => true
  | _ => false

/-- Numeric equality: the two zeros are equal, and the value that is not a number differs from every
number, itself included. -/
def eq : Binary64 → Binary64 → Bool
  | .infinite left, .infinite right => left == right
  | .finite left magnitude, .finite right other =>
    magnitude == other && (left == right || magnitude == .zero)
  | _, _ => false

/-- The exponent at which a positive quotient has a significand of 53 bits, or the smallest one. -/
def exponentOf (numerator denominator : Nat) : Int :=
  max minExponent (Number.order numerator denominator - 52)

/-- A significand that was rounded to 53 bits or carried into one more, at an exponent that may be too
large for a finite value. -/
def ofRounded (negative : Bool) (significand : Nat) (exponent : Int)
    (rounded : significand ≤ Nat.pow 2 53) (lowest : minExponent ≤ exponent)
    (leading : Nat.pow 2 52 ≤ significand ∨ exponent = minExponent) : Binary64 :=
  if carries : significand = Nat.pow 2 53 then
    if highest : exponent + 1 ≤ maxExponent then
      .finite negative ⟨Nat.pow 2 52, exponent + 1, by decide, by omega, highest, .inl (by decide)⟩
    else .infinite negative
  else
    if highest : exponent ≤ maxExponent then
      .finite negative
        ⟨significand, exponent, Nat.lt_of_le_of_ne rounded carries, lowest, highest, leading⟩
    else .infinite negative

section Quotient

variable {numerator denominator : Nat}

/-- At its exponent a quotient has at most 53 bits, or carries into one more. -/
theorem roundAt_exponentOf_le (positive : 0 < denominator) :
    Number.roundAt numerator denominator (exponentOf numerator denominator) ≤ Nat.pow 2 53 := by
  refine Number.roundAt_le positive (Number.isBelow_mono ?_
    (Number.isBelow_order_add_one (Nat.ne_of_gt positive)))
  unfold exponentOf
  omega

/-- At its exponent a positive quotient has 53 bits, unless the exponent is the smallest one. -/
theorem le_roundAt_exponentOf (nonzero : numerator ≠ 0) (positive : 0 < denominator) :
    Nat.pow 2 52 ≤ Number.roundAt numerator denominator (exponentOf numerator denominator) ∨
      exponentOf numerator denominator = minExponent := by
  by_cases smallest : exponentOf numerator denominator = minExponent
  · exact .inr smallest
  · have sameOrder : exponentOf numerator denominator + (52 : Nat) =
        Number.order numerator denominator := by
      unfold exponentOf at smallest ⊢
      omega
    exact .inl (Number.le_roundAt positive (sameOrder ▸ Number.isBelow_order nonzero))

end Quotient

/-- The number nearest to a quotient, the one with the even significand when two are equally near. A
quotient beyond the largest finite value becomes an infinity. -/
def ofQuotient (negative : Bool) (numerator denominator : Nat) (positive : 0 < denominator) :
    Binary64 :=
  if nonzero : numerator ≠ 0 then
    ofRounded negative
      (Number.roundAt numerator denominator (exponentOf numerator denominator))
      (exponentOf numerator denominator) (roundAt_exponentOf_le positive)
      (Int.le_max_left _ _) (le_roundAt_exponentOf nonzero positive)
  else zero negative

/-- Finite values are equal exactly if their magnitudes are and their signs, of which a zero has none
that matters. -/
theorem eq_finite_iff {left right : Bool} {magnitude other : Magnitude} :
    (finite left magnitude).eq (finite right other) = true ↔
      magnitude.units = other.units ∧ (left = right ∨ magnitude.units = 0) := by
  have sameUnits : magnitude = other ↔ magnitude.units = other.units :=
    ⟨congrArg Magnitude.units, Magnitude.eq_of_units_eq⟩
  have isZero : magnitude = .zero ↔ magnitude.units = 0 :=
    ⟨congrArg Magnitude.units, fun none => Magnitude.eq_of_units_eq none⟩
  simp [eq, sameUnits, isZero]

/-- A number is equal to itself. -/
theorem eq_self_of_ne_nan {value : Binary64} (number : value ≠ .nan) : value.eq value = true := by
  cases value with
  | nan => exact absurd rfl number
  | infinite negative => simp [eq]
  | finite negative magnitude => simp [eq]

/-- Nothing is equal to the value that is not a number. -/
theorem eq_nan (value : Binary64) : value.eq .nan = false := by
  cases value <;> rfl

end Binary64

end ContextualQuery
