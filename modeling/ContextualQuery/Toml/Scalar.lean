import ContextualQuery.Number.Decimal
import ContextualQuery.Toml.Text
import ContextualQuery.Toml.Value

/-!
# TOML scalars without quotes

Truth values, integers, floating-point numbers, dates and times are words without quotes. A word is
read whole and then has to be one of them. Integers must fit into 128 bits and floating-point numbers
must be finite unless they are written as an infinity; dates and times must exist.
-/

namespace ContextualQuery.Toml

/-- A character of a word without quotes. -/
def isWordChar (c : Char) : Bool :=
  c.isAlphanum || c == '+' || c == '-' || c == '.' || c == '_' || c == ':'

/-- Digits with single underscores between them, without the underscores. -/
def ungroup? (isDigit : Char → Bool) : List Char → Option (List Char)
  | [] => none
  | [c] => if isDigit c then some [c] else none
  | c :: '_' :: rest => if isDigit c then (ungroup? isDigit rest).map (c :: ·) else none
  | c :: rest => if isDigit c then (ungroup? isDigit rest).map (c :: ·) else none

/-- Decimal digits that do not start with a zero, unless it is the only digit. -/
def wholeDigits? (chars : List Char) : Option (List Char) :=
  (ungroup? Char.isDigit chars).filter fun digits => digits.length == 1 || digits.head? != some '0'

/-- The sign at the front of a word, and the word without it. -/
def splitSign : List Char → Bool × List Char
  | '-' :: rest => (true, rest)
  | '+' :: rest => (false, rest)
  | chars => (false, chars)

/-- The value of digits in a base up to sixteen. -/
def digitsIn (base : Nat) (digits : List Char) : Nat :=
  digits.foldl (fun value c => value * base + Reader.hexValue [c]) 0

/-- An integer that fits into 128 bits, with a sign or without. -/
def integer? (value : Int) : Option Value :=
  if -(Nat.pow 2 127 : Int) ≤ value ∧ value < Nat.pow 2 128 then some (.integer value) else none

/-- An integer: decimal with an optional sign, or with a mark for its base. -/
def readInteger? (word : List Char) : Option Value :=
  match word with
  | '0' :: 'x' :: digits =>
    (ungroup? Reader.isHexDigit digits).bind fun digits => integer? (digitsIn 16 digits)
  | '0' :: 'o' :: digits =>
    (ungroup? (fun c => '0' ≤ c && c ≤ '7') digits).bind fun digits => integer? (digitsIn 8 digits)
  | '0' :: 'b' :: digits =>
    (ungroup? (fun c => c == '0' || c == '1') digits).bind fun digits =>
      integer? (digitsIn 2 digits)
  | word =>
    let (negative, digits) := splitSign word
    (wholeDigits? digits).bind fun digits =>
      let value : Int := digitsIn 10 digits
      integer? (if negative then -value else value)

/-- The exponent of a floating-point number, with its mark, sign and digits. -/
def exponentDigits? : List Char → Option (List Char)
  | [] => some []
  | mark :: rest =>
    let (negative, digits) := splitSign rest
    if mark = 'e' ∨ mark = 'E' then
      (ungroup? Char.isDigit digits).map fun digits =>
        'e' :: (if negative then '-' :: digits else digits)
    else none

/-- The digits behind the point, with the point, and the exponent. One of the two must be there. -/
def fractionDigits? : List Char → Option (List Char)
  | '.' :: rest => do
    let isFraction (c : Char) : Bool := c.isDigit || c == '_'
    let fraction ← ungroup? Char.isDigit (rest.takeWhile isFraction)
    let exponent ← exponentDigits? (rest.dropWhile isFraction)
    return '.' :: (fraction ++ exponent)
  | [] => none
  | rest => exponentDigits? rest

/-- A floating-point number. -/
def readFloat? (word : List Char) : Option Value := do
  let (negative, unsigned) := splitSign word
  if unsigned = ['i', 'n', 'f'] then return .float (.infinite negative)
  if unsigned = ['n', 'a', 'n'] then return .float .nan
  let isWhole (c : Char) : Bool := c.isDigit || c == '_'
  let whole ← wholeDigits? (unsigned.takeWhile isWhole)
  let fraction ← fractionDigits? (unsigned.dropWhile isWhole)
  let value ← Binary64.readUnsigned? negative (whole ++ fraction)
  if value.isFinite then return .float value else none

/-! ### Dates and times -/

/-- A number in exactly two digits. -/
def twoDigits? (chars : List Char) : Option (Nat × List Char) :=
  match chars with
  | a :: b :: rest => if a.isDigit && b.isDigit then some (digitsIn 10 [a, b], rest) else none
  | _ => none

/-- The number of days of a month. -/
def daysOf (year month : Nat) : Nat :=
  if month = 2 then
    if year % 4 = 0 ∧ (year % 100 ≠ 0 ∨ year % 400 = 0) then 29 else 28
  else if month = 4 ∨ month = 6 ∨ month = 9 ∨ month = 11 then 30
  else 31

/-- What is left behind a given character. -/
def behind? (expected : Char) : List Char → Option (List Char)
  | [] => none
  | c :: rest => if c = expected then some rest else none

/-- What is left behind a date. -/
def behindDate? (chars : List Char) : Option (List Char) := do
  let (century, rest) ← twoDigits? chars
  let (decade, rest) ← twoDigits? rest
  let (month, rest) ← twoDigits? (← behind? '-' rest)
  let (day, rest) ← twoDigits? (← behind? '-' rest)
  let year := century * 100 + decade
  if 1 ≤ month ∧ month ≤ 12 ∧ 1 ≤ day ∧ day ≤ daysOf year month then return rest else none

/-- What is left behind the seconds of a time, which may be missing. -/
def behindSeconds? (chars : List Char) : Option (List Char) :=
  match chars with
  | ':' :: rest => do
    let (second, rest) ← twoDigits? rest
    if 60 < second then none
    match rest with
    | '.' :: rest =>
      if (rest.takeWhile Char.isDigit).isEmpty then none else some (rest.dropWhile Char.isDigit)
    | rest => return rest
  | chars => some chars

/-- What is left behind a time. -/
def behindTime? (chars : List Char) : Option (List Char) := do
  let (hour, rest) ← twoDigits? chars
  let (minute, rest) ← twoDigits? (← behind? ':' rest)
  if 23 < hour ∨ 59 < minute then none
  behindSeconds? rest

/-- The text is the offset of a time from universal time, or empty. -/
def isOffset (chars : List Char) : Bool :=
  match chars with
  | [] => true
  | ['Z'] | ['z'] => true
  | sign :: rest =>
    (sign == '+' || sign == '-') &&
      (((twoDigits? rest).bind fun (hour, rest) => do
        let (minute, rest) ← twoDigits? (← behind? ':' rest)
        return decide (hour ≤ 23 ∧ minute ≤ 59) && rest.isEmpty).getD false)

/-- The text is a date, a time, or a date and a time with an optional offset. -/
def isDateTime (chars : List Char) : Bool :=
  match behindDate? chars with
  | some [] => true
  | some (mark :: time) =>
    (mark == 'T' || mark == 't' || mark == ' ') && ((behindTime? time).map isOffset).getD false
  | none => behindTime? chars == some []

/-- The value of a word. -/
def readWord? (word : List Char) : Option Value :=
  if word = ['t', 'r', 'u', 'e'] then some (.boolean true)
  else if word = ['f', 'a', 'l', 's', 'e'] then some (.boolean false)
  else if isDateTime word then some (.dateTime (String.ofList word))
  else readInteger? word <|> readFloat? word

namespace Reader

/-- A word. A date may be followed by a space and a time. -/
def word : Reader (List Char) := do
  let first ← takeWhile isWordChar
  if behindDate? first = some [] then
    let time? ← optional do
      char ' '
      let digit ← one Char.isDigit
      return ' ' :: digit :: (← takeWhile isWordChar)
    return first ++ time?.getD []
  else return first

/-- A scalar. -/
def scalar : Reader Value :=
  (do return .string (← string)) <|> (do require (readWord? (← word)))

end Reader

end ContextualQuery.Toml
