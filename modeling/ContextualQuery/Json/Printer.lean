import ContextualQuery.Json.Basic
import ContextualQuery.Number.Shortest

/-!
# JSON text

A JSON value on several lines: every item and field stands on a line of its own, two spaces deeper
than the brackets around it, and an array or object without members stands on one line. Texts keep
their characters except quotes, backslashes and the ASCII controls.
-/

namespace ContextualQuery.Json

/-- Numbers have the point in place from a hundred-thousandth up to, but without, `10 ^ 16`. -/
def numberLayout : Number.Layout := ⟨-5, 16⟩

/-- A number as JSON text: the shortest digits that read back, and `null` where JSON has no form. -/
def numberText : Binary64 → String
  | .finite negative magnitude => numberLayout.text negative (Number.shortest magnitude)
  | _ => "null"

/-- The escape of a control character by its code point, in four hexadecimal digits. -/
def controlEscape (c : Char) : List Char :=
  let digits := Nat.toDigits 16 c.toNat
  '\\' :: 'u' :: (List.replicate (4 - digits.length) '0' ++ digits)

/-- One character as it stands in a JSON string. -/
def escape (c : Char) : List Char :=
  if c = '"' then ['\\', '"']
  else if c = '\\' then ['\\', '\\']
  else if c = '\n' then ['\\', 'n']
  else if c = '\r' then ['\\', 'r']
  else if c = '\t' then ['\\', 't']
  else if c = '\x08' then ['\\', 'b']
  else if c = '\x0c' then ['\\', 'f']
  else if c.toNat < 0x20 then controlEscape c
  else [c]

/-- A text as a JSON string. -/
def stringText (text : String) : String :=
  String.ofList ('"' :: (text.toList.flatMap escape ++ ['"']))

/-- The start of a line at a depth. -/
def lineStart (depth : Nat) : String := "\n" ++ String.ofList (List.replicate (2 * depth) ' ')

/-- Written members between brackets, each on a line of its own one level deeper than `depth`. -/
def enclose (opening closing : String) (depth : Nat) (members : List String) : String :=
  if members = [] then opening ++ closing
  else
    let separator := "," ++ lineStart (depth + 1)
    opening ++ lineStart (depth + 1) ++ separator.intercalate members ++ lineStart depth ++ closing

mutual

/-- A value whose brackets close at a depth. -/
def prettyAt (depth : Nat) : Json → String
  | .null => "null"
  | .bool value => if value then "true" else "false"
  | .number value => numberText value
  | .string value => stringText value
  | .array items => enclose "[" "]" depth (itemTexts (depth + 1) items)
  | .object fields => enclose "\x7b" "\x7d" depth (fieldTexts (depth + 1) fields)

/-- The items of an array. -/
def itemTexts (depth : Nat) : List Json → List String
  | [] => []
  | item :: rest => prettyAt depth item :: itemTexts depth rest

/-- The fields of an object with their names. -/
def fieldTexts (depth : Nat) : List (String × Json) → List String
  | [] => []
  | (name, value) :: rest =>
    (stringText name ++ ": " ++ prettyAt depth value) :: fieldTexts depth rest

end

/-- A value as indented JSON text. -/
def pretty (value : Json) : String := prettyAt 0 value

end ContextualQuery.Json
