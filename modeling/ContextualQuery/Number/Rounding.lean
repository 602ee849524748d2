/-!
# Rounding a quotient

A quotient of natural numbers is rounded to the nearest natural number, and to the even one of two
that are equally near. The rounded value is never more than half a unit away, so it does not leave
bounds that are natural numbers themselves.

Floating-point numbers round a quotient in units of a power of two. The order of the quotient, the
exponent of its leading binary digit, says which power leaves how many digits.
-/

namespace ContextualQuery.Number

/-- The natural number nearest to a quotient, the even one when two are equally near. -/
def nearestEven (numerator denominator : Nat) : Nat :=
  let whole := numerator / denominator
  let rest := numerator % denominator
  if 2 * rest < denominator then whole
  else if denominator < 2 * rest then whole + 1
  else if whole % 2 = 0 then whole
  else whole + 1

/-- The rounded value is at most half a unit away from the quotient, above it and below it. -/
theorem nearestEven_bounds (numerator denominator : Nat) (positive : 0 < denominator) :
    2 * (nearestEven numerator denominator * denominator) ≤ 2 * numerator + denominator ∧
      2 * numerator ≤ 2 * (nearestEven numerator denominator * denominator) + denominator := by
  have split := Nat.div_add_mod' numerator denominator
  have small := Nat.mod_lt numerator positive
  have next : (numerator / denominator + 1) * denominator =
      numerator / denominator * denominator + denominator := Nat.succ_mul _ _
  unfold nearestEven
  dsimp only
  split
  · omega
  · split
    · omega
    · split <;> omega

/-- A quotient that is at most a natural number is not rounded above it. -/
theorem nearestEven_le {numerator denominator bound : Nat} (positive : 0 < denominator)
    (below : numerator ≤ bound * denominator) : nearestEven numerator denominator ≤ bound := by
  have upper := (nearestEven_bounds numerator denominator positive).1
  -- One unit more would be a whole unit above the quotient.
  refine Nat.le_of_not_lt fun (beyond : bound + 1 ≤ nearestEven numerator denominator) => ?_
  have spread : (bound + 1) * denominator ≤ nearestEven numerator denominator * denominator :=
    Nat.mul_le_mul_right denominator beyond
  rw [Nat.succ_mul] at spread
  omega

/-- A quotient that is at least a natural number is not rounded below it. -/
theorem le_nearestEven {numerator denominator bound : Nat} (positive : 0 < denominator)
    (above : bound * denominator ≤ numerator) : bound ≤ nearestEven numerator denominator := by
  have lower := (nearestEven_bounds numerator denominator positive).2
  refine Nat.le_of_not_lt fun (beyond : nearestEven numerator denominator + 1 ≤ bound) => ?_
  have spread : (nearestEven numerator denominator + 1) * denominator ≤ bound * denominator :=
    Nat.mul_le_mul_right denominator beyond
  rw [Nat.succ_mul] at spread
  omega

/-! ### Quotients and powers of two -/

/-- A quotient is below a power of two. The power stands on the side on which its exponent is not
negative. -/
def isBelow (numerator denominator : Nat) (exponent : Int) : Bool :=
  decide (numerator * Nat.pow 2 (-exponent).toNat < denominator * Nat.pow 2 exponent.toNat)

variable {numerator denominator : Nat} {exponent : Int}

/-- Only the difference of the exponents on the two sides matters. -/
theorem isBelow_iff (up down : Nat) (same : exponent = up - down) :
    isBelow numerator denominator exponent = true ↔
      numerator * Nat.pow 2 down < denominator * Nat.pow 2 up := by
  obtain ⟨common, upSame, downSame⟩ :
      ∃ common, up = exponent.toNat + common ∧ down = (-exponent).toNat + common :=
    ⟨min up down, by omega, by omega⟩
  have splits (power : Nat) : Nat.pow 2 (power + common) = Nat.pow 2 power * Nat.pow 2 common :=
    Nat.pow_add 2 power common
  have cancel : 0 < Nat.pow 2 common := Nat.two_pow_pos common
  rw [upSame, downSame, splits, splits, ← Nat.mul_assoc, ← Nat.mul_assoc,
    Nat.mul_lt_mul_right cancel, isBelow, decide_eq_true_iff]

/-- What is below a power of two is below the larger ones. -/
theorem isBelow_mono {larger : Int} (ordered : exponent ≤ larger)
    (below : isBelow numerator denominator exponent = true) :
    isBelow numerator denominator larger = true := by
  have here := (isBelow_iff exponent.toNat (-exponent).toNat (by omega)).mp below
  refine (isBelow_iff (exponent.toNat + (larger - exponent).toNat) (-exponent).toNat
    (by omega)).mpr (Nat.lt_of_lt_of_le here (Nat.mul_le_mul_left denominator ?_))
  exact Nat.pow_le_pow_right Nat.two_pos (Nat.le_add_right _ _)

/-- The exponent of the leading binary digit of a positive quotient. The two binary logarithms
determine it up to one. -/
def order (numerator denominator : Nat) : Int :=
  let guess : Int := (numerator.log2 : Int) - (denominator.log2 : Int)
  if isBelow numerator denominator guess then guess - 1 else guess

/-- The quotient is below the power of two behind its order. -/
theorem isBelow_order_add_one (positive : denominator ≠ 0) :
    isBelow numerator denominator (order numerator denominator + 1) = true := by
  unfold order
  dsimp only
  split
  case isTrue below => simpa using below
  case isFalse =>
    refine (isBelow_iff (numerator.log2 + 1) denominator.log2 (by omega)).mpr ?_
    calc numerator * Nat.pow 2 denominator.log2
        < Nat.pow 2 (numerator.log2 + 1) * Nat.pow 2 denominator.log2 :=
          Nat.mul_lt_mul_of_pos_right Nat.lt_log2_self (Nat.two_pow_pos _)
      _ ≤ Nat.pow 2 (numerator.log2 + 1) * denominator :=
          Nat.mul_le_mul_left _ (Nat.log2_self_le positive)
      _ = denominator * Nat.pow 2 (numerator.log2 + 1) := Nat.mul_comm _ _

/-- The quotient is not below the power of two at its order. -/
theorem isBelow_order (nonzero : numerator ≠ 0) :
    isBelow numerator denominator (order numerator denominator) = false := by
  unfold order
  dsimp only
  split
  case isTrue =>
    refine Bool.eq_false_iff.mpr fun below => ?_
    have here := (isBelow_iff numerator.log2 (denominator.log2 + 1) (by omega)).mp below
    refine Nat.lt_irrefl _ (Nat.lt_of_lt_of_le here ?_)
    calc denominator * Nat.pow 2 numerator.log2
        ≤ Nat.pow 2 (denominator.log2 + 1) * Nat.pow 2 numerator.log2 :=
          Nat.mul_le_mul_right _ (Nat.le_of_lt Nat.lt_log2_self)
      _ ≤ Nat.pow 2 (denominator.log2 + 1) * numerator :=
          Nat.mul_le_mul_left _ (Nat.log2_self_le nonzero)
      _ = numerator * Nat.pow 2 (denominator.log2 + 1) := Nat.mul_comm _ _
  case isFalse notBelow => simpa using notBelow

/-- A quotient in units of a power of two, rounded to the nearest natural number. -/
def roundAt (numerator denominator : Nat) (exponent : Int) : Nat :=
  nearestEven (numerator * Nat.pow 2 (-exponent).toNat) (denominator * Nat.pow 2 exponent.toNat)

/-- A larger power of two is so many of the smaller units. -/
theorem mul_pow_add (denominator power digits : Nat) :
    denominator * Nat.pow 2 (power + digits) =
      Nat.pow 2 digits * (denominator * Nat.pow 2 power) := by
  have splits : Nat.pow 2 (power + digits) = Nat.pow 2 power * Nat.pow 2 digits :=
    Nat.pow_add 2 power digits
  rw [splits, ← Nat.mul_assoc, Nat.mul_comm]

/-- A quotient with so many binary digits above the unit is rounded to these digits, or carries into
one more. -/
theorem roundAt_le {digits : Nat} (positive : 0 < denominator)
    (below : isBelow numerator denominator (exponent + digits) = true) :
    roundAt numerator denominator exponent ≤ Nat.pow 2 digits := by
  have here := (isBelow_iff (exponent.toNat + digits) (-exponent).toNat (by omega)).mp below
  rw [mul_pow_add] at here
  exact nearestEven_le (Nat.mul_pos positive (Nat.two_pow_pos _)) (Nat.le_of_lt here)

/-- A quotient that reaches a power of two above the unit still does so when it is rounded. -/
theorem le_roundAt {digits : Nat} (positive : 0 < denominator)
    (reaches : isBelow numerator denominator (exponent + digits) = false) :
    Nat.pow 2 digits ≤ roundAt numerator denominator exponent := by
  have here := mt (isBelow_iff (exponent.toNat + digits) (-exponent).toNat (by omega)).mpr
    (Bool.eq_false_iff.mp reaches)
  rw [mul_pow_add] at here
  exact le_nearestEven (Nat.mul_pos positive (Nat.two_pow_pos _)) (Nat.le_of_not_lt here)

end ContextualQuery.Number
