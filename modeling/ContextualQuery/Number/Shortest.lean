import ContextualQuery.Number.Decimal

/-!
# Shortest decimals

The shortest decimal of a floating-point number is the one with the fewest digits that reads back as
the number, and of several the nearest to it. The reals that round to a number `m * 2 ^ e` form an
interval around it, which includes its ends exactly if `m` is even. A decimal grid has a point in the
interval if and only if one of the two grid points around the number lies in it, so on each grid these
two points are tried, from one digit to seventeen.
-/

namespace ContextualQuery.Number

/-- The interval of the reals that round to a finite number, and the number itself. All four are
given in units of `numerator / denominator`. -/
structure Neighbourhood where
  low : Nat
  middle : Nat
  high : Nat
  closed : Bool
  numerator : Nat
  denominator : Nat

/-- The neighbourhood of a magnitude, in quarters of its last place. Below a power of two the numbers
are twice as dense, so the lower end is half as far away there. -/
def neighbourhood (magnitude : Binary64.Magnitude) : Neighbourhood :=
  let significand := magnitude.significand
  let exponent := magnitude.exponent
  let denseBelow := significand == Nat.pow 2 52 && decide (Binary64.minExponent < exponent)
  { low := 4 * significand - (if denseBelow then 1 else 2)
    middle := 4 * significand
    high := 4 * significand + 2
    closed := significand % 2 == 0
    numerator := if exponent < 2 then 1 else Nat.pow 2 (exponent - 2).natAbs
    denominator := if exponent < 2 then Nat.pow 2 (2 - exponent).natAbs else 1 }

/-- The number of decimal digits of a natural number. -/
def digitCount (value : Nat) : Nat := (Nat.toDigits 10 value).length

/-- The exponent of the leading decimal digit of a positive quotient. -/
def leadingExponent (numerator denominator : Nat) : Int :=
  if denominator ≤ numerator then (digitCount (numerator / denominator) : Int) - 1
  else -(digitCount ((denominator - 1) / numerator) : Int)

/-- The grid point in the neighbourhood that is nearest to its middle, on the grid of the multiples of
`10 ^ grid`. -/
def Neighbourhood.onGrid? (around : Neighbourhood) (grid : Int) : Option Decimal :=
  let unit := around.numerator * (if grid < 0 then Nat.pow 10 grid.natAbs else 1)
  let step := around.denominator * (if grid < 0 then 1 else Nat.pow 10 grid.natAbs)
  let below := around.middle * unit / step
  let inside (point : Nat) : Bool :=
    if around.closed then
      decide (around.low * unit ≤ point * step ∧ point * step ≤ around.high * unit)
    else
      decide (around.low * unit < point * step ∧ point * step < around.high * unit)
  let missBelow := around.middle * unit - below * step
  let missAbove := (below + 1) * step - around.middle * unit
  let lowerWins := decide (missBelow < missAbove) || (missBelow == missAbove && below % 2 == 0)
  if inside below && (lowerWins || !inside (below + 1)) then some ⟨below, grid⟩
  else if inside (below + 1) then some ⟨below + 1, grid⟩
  else none

/-- The shortest decimal that reads back as a magnitude. -/
def shortest (magnitude : Binary64.Magnitude) : Decimal :=
  if magnitude.significand = 0 then ⟨0, 0⟩
  else
    let around := neighbourhood magnitude
    let leading := leadingExponent (around.middle * around.numerator) around.denominator
    ((List.range 17).findSome? fun (extra : Nat) => around.onGrid? (leading - extra)).getD ⟨0, 0⟩

/-- Which decimal exponents are written with the point in place: those from `plainFrom` up to, but
without, `plainBelow`. -/
structure Layout where
  plainFrom : Int
  plainBelow : Int

/-- Digits with the point in place, at least one digit on each side of it. -/
def plainText (digits : List Char) (exponent : Int) : List Char :=
  if exponent < 0 then
    '0' :: '.' :: (List.replicate (exponent.natAbs - 1) '0' ++ digits)
  else
    let whole := exponent.natAbs + 1
    let padded := digits ++ List.replicate (whole - digits.length) '0'
    let fraction := padded.drop whole
    padded.take whole ++ '.' :: (if fraction = [] then ['0'] else fraction)

/-- Digits with the point after the first one, and the exponent with its sign. -/
def scientificText (digits : List Char) (exponent : Int) : List Char :=
  let fraction := digits.drop 1
  digits.take 1 ++ (if fraction = [] then [] else '.' :: fraction) ++
    'e' :: (if exponent < 0 then '-' else '+') :: Nat.toDigits 10 exponent.natAbs

/-- A decimal with a sign in a layout. Zeros at the end of the digits are left out first. -/
def Layout.text (layout : Layout) (negative : Bool) (value : Decimal) : String :=
  let allDigits := Nat.toDigits 10 value.significand
  let exponent : Int := if value.significand = 0 then 0 else value.exponent + allDigits.length - 1
  let trimmed := (allDigits.reverse.dropWhile (· == '0')).reverse
  let digits := if trimmed = [] then ['0'] else trimmed
  let body :=
    if layout.plainFrom ≤ exponent ∧ exponent < layout.plainBelow then plainText digits exponent
    else scientificText digits exponent
  String.ofList (if negative then '-' :: body else body)

end ContextualQuery.Number
