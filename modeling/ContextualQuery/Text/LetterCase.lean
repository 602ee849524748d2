import ContextualQuery.Text.Interval
import ContextualQuery.Text.LetterCase.Table

/-!
# Letter case

Lower and upper case of whole texts. A letter may have a form of several characters (`ß` becomes
`SS`), and the lower case of the capital sigma depends on its place: at the end of a word it takes its
final form. Every other character is mapped on its own.
-/

namespace ContextualQuery.Text

/-- The image of a point that lies on the run. -/
def CaseRun.image? (run : CaseRun) (point : Nat) : Option Nat :=
  if run.first ≤ point ∧ point ≤ run.last ∧ (point - run.first) % run.stride = 0 then
    some (run.image + (point - run.first))
  else
    none

/-- A character under a case mapping: its expansion if it has one, else its image on a run, else
itself. -/
def mapCase (runs : List CaseRun) (expansions : List (Nat × List Nat)) (c : Char) : List Char :=
  match expansions.lookup c.toNat with
  | some points => points.map Char.ofNat
  | none =>
    match runs.findSome? (·.image? c.toNat) with
    | some point => [Char.ofNat point]
    | none => [c]

/-- The lower-case form of a character outside any context. -/
def lowerChar (c : Char) : List Char := mapCase lowerRuns lowerExpansions c

/-- The upper-case form of a character. -/
def upperChar (c : Char) : List Char := mapCase upperRuns upperExpansions c

/-- The characters start, after those that are passed over, with a letter that has a case. -/
def meetsCased (chars : List Char) : Bool :=
  match chars.dropWhile (fun c => covers caseIgnorableBounds c.toNat) with
  | [] => false
  | c :: _ => covers casedBounds c.toNat

/-- A capital sigma between `before`, read backwards, and `after` ends a word: a letter comes before
it and none follows. -/
def endsWord (before after : List Char) : Bool := meetsCased before && !meetsCased after

/-- The lower-case form of a character between `before`, read backwards, and `after`. -/
def lowerBetween (before : List Char) (c : Char) (after : List Char) : List Char :=
  if c = 'Σ' then [if endsWord before after then 'ς' else 'σ'] else lowerChar c

/-- The lower case of the characters that follow `before`, read backwards. -/
def lowerAfter (before : List Char) : List Char → List Char
  | [] => []
  | c :: rest => lowerBetween before c rest ++ lowerAfter (c :: before) rest

/-- A text in lower case. -/
def lower (text : String) : String := String.ofList (lowerAfter [] text.toList)

/-- A text in upper case. -/
def upper (text : String) : String := String.ofList (text.toList.flatMap upperChar)

end ContextualQuery.Text
