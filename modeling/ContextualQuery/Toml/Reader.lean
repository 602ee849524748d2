/-!
# Readers

A reader takes characters from the front of a text and gives what they write, or refuses the text. Two
readers can be tried one after the other at the same place. The readers of scalars, texts and documents
are put together from these. They follow TOML 1.1.0, as the `toml` reader does from release 0.9.10 on.
-/

namespace ContextualQuery.Toml

/-- A reader of some value. -/
abbrev Reader := StateT (List Char) Option

namespace Reader

/-- Reads one character that has a property. -/
def one (accepts : Char → Bool) : Reader Char
  | [] => none
  | c :: rest => if accepts c then some (c, rest) else none

/-- Reads a given character. -/
def char (c : Char) : Reader Unit := fun chars => (one (· == c) chars).map fun (_, rest) => ((), rest)

/-- Reads given characters. -/
def exactly (expected : List Char) : Reader Unit := fun text =>
  if expected.isPrefixOf text then some ((), text.drop expected.length) else none

/-- Reads as many characters with a property as there are. -/
def takeWhile (accepts : Char → Bool) : Reader (List Char) := fun chars =>
  some (chars.takeWhile accepts, chars.dropWhile accepts)

/-- The next character, which stays where it is. -/
def next? : Reader (Option Char) := fun chars => some (chars.head?, chars)

/-- Refuses the text. -/
def refuse {α : Type} : Reader α := fun _ => none

/-- A value that may be missing, in which case the text is refused. -/
def require {α : Type} (value? : Option α) : Reader α := fun chars =>
  value?.map fun value => (value, chars)

/-- Reads an item if there is one. -/
def optional {α : Type} (item : Reader α) : Reader (Option α) := fun chars =>
  match item chars with
  | none => some (none, chars)
  | some (value, rest) => some (some value, rest)

/-- Reads items as long as there are some, up to a number of them. -/
def manyUpTo {α : Type} (item : Reader α) : Nat → Reader (List α)
  | 0, chars => some ([], chars)
  | count + 1, chars =>
    match item chars with
    | none => some ([], chars)
    | some (value, rest) =>
      (manyUpTo item count rest).map fun (values, last) => (value :: values, last)

/-- Reads items as long as there are some. An item has at least one character, so that there cannot be
more items than characters. -/
def many {α : Type} (item : Reader α) : Reader (List α) := fun chars =>
  manyUpTo item chars.length chars

/-- Reads items with a separator between them, at least one. -/
def separated {α : Type} (separator : Reader Unit) (item : Reader α) : Reader (List α) := do
  let first ← item
  let others ← many (do separator; item)
  return first :: others

end Reader

end ContextualQuery.Toml
