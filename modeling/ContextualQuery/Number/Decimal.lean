import ContextualQuery.Number.Binary64

/-!
# Decimal numbers

A decimal number is a natural number times a power of ten. It is read from digits with an optional
point and an optional exponent, and converted to the nearest floating-point number by exact
arithmetic. Texts of floating-point numbers may also carry a sign and may name the values that have no
digits.
-/

namespace ContextualQuery

/-- The magnitude `significand * 10 ^ exponent`. -/
structure Decimal where
  significand : Nat
  exponent : Int
deriving DecidableEq, Repr

namespace Decimal

/-- The value of digits read from left to right. -/
def digitsValue (digits : List Char) : Nat :=
  digits.foldl (fun value digit => 10 * value + (digit.toNat - '0'.toNat)) 0

/-- An exponent: an optional sign and at least one digit. -/
def readExponent? (chars : List Char) : Option Int :=
  let unsigned (digits : List Char) : Option Int :=
    if digits = [] ∨ digits.any (!·.isDigit) then none else some (digitsValue digits)
  match chars with
  | '-' :: digits => (unsigned digits).map (- ·)
  | '+' :: digits => unsigned digits
  | digits => unsigned digits

/-- A decimal number: digits around an optional point, at least one of them, and an optional
exponent after `e` or `E`. -/
def read? (chars : List Char) : Option Decimal :=
  let whole := chars.takeWhile Char.isDigit
  let afterWhole := chars.dropWhile Char.isDigit
  let fraction := if afterWhole.head? = some '.' then afterWhole.tail.takeWhile Char.isDigit else []
  let rest := if afterWhole.head? = some '.' then afterWhole.tail.dropWhile Char.isDigit else afterWhole
  let exponent? : Option Int :=
    match rest with
    | [] => some 0
    | mark :: digits => if mark = 'e' ∨ mark = 'E' then readExponent? digits else none
  if whole = [] ∧ fraction = [] then none
  else exponent?.map fun exponent =>
    { significand := digitsValue (whole ++ fraction), exponent := exponent - fraction.length }

/-- The floating-point number nearest to a decimal with a sign. A magnitude far outside the range of
finite values is decided by its number of digits alone. -/
def toBinary64 (negative : Bool) (value : Decimal) : Binary64 :=
  let size : Int := (Nat.toDigits 10 value.significand).length + value.exponent
  if value.significand = 0 ∨ size < -330 then Binary64.zero negative
  else if 310 < size then .infinite negative
  else if value.exponent < 0 then
    Binary64.ofQuotient negative value.significand (Nat.pow 10 value.exponent.natAbs)
      (Nat.pow_pos (by decide))
  else
    Binary64.ofQuotient negative (value.significand * Nat.pow 10 value.exponent.natAbs) 1 Nat.one_pos

end Decimal

namespace Binary64

/-- A number without a sign: `inf`, `infinity` or `nan` in any mixture of cases, or a decimal. -/
def readUnsigned? (negative : Bool) (chars : List Char) : Option Binary64 :=
  let name := String.ofList (chars.map Char.toLower)
  if name = "inf" ∨ name = "infinity" then some (.infinite negative)
  else if name = "nan" then some .nan
  else (Decimal.read? chars).map (Decimal.toBinary64 negative)

/-- The number that a text writes, with an optional sign in front. -/
def read? (text : String) : Option Binary64 :=
  match text.toList with
  | '-' :: chars => readUnsigned? true chars
  | '+' :: chars => readUnsigned? false chars
  | chars => readUnsigned? false chars

end Binary64

end ContextualQuery
