import ContextualQuery.Text.Interval
import ContextualQuery.Text.Quoted.Table

/-!
# Quoted texts

A text is shown between double quotes with the quote and the backslash escaped by a backslash, the
null character, tabs and line breaks by their letters, and every other character without a visible
form of its own by its code point in hexadecimal. Each character is escaped on its own, so a quoted
text can be read back one character at a time.
-/

namespace ContextualQuery.Text

/-- A character that a quoted text writes by its code point. -/
def isHidden (c : Char) : Bool := covers hiddenBounds c.toNat

/-- The escape by code point: lower-case hexadecimal digits without padding. -/
def hexEscape (c : Char) : List Char :=
  '\\' :: 'u' :: '\x7b' :: (Nat.toDigits 16 c.toNat ++ ['\x7d'])

/-- One character as it stands in a quoted text. -/
def escape (c : Char) : List Char :=
  if c = '"' then ['\\', '"']
  else if c = '\\' then ['\\', '\\']
  else if c = '\n' then ['\\', 'n']
  else if c = '\r' then ['\\', 'r']
  else if c = '\t' then ['\\', 't']
  else if c = '\x00' then ['\\', '0']
  else if isHidden c then hexEscape c
  else [c]

/-- A text between double quotes with its characters escaped. -/
def quoted (text : String) : String :=
  String.ofList ('"' :: (text.toList.flatMap escape ++ ['"']))

end ContextualQuery.Text
