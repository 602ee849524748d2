import ContextualQuery.Toml.Scalar

/-!
# TOML documents

A document is a sequence of lines. A line assigns a value to a key, or it is a header that names the
table, or the new element of an array of tables, to which the assignments after it belong. Reading a
document gives its table, or nothing if a line is not well formed or if the lines contradict each
other.

The forms are those of TOML 1.1.0, which the `toml` reader of release 0.9 follows from 0.9.10 on: inline
tables may be broken over several lines and end in a comma, texts may hold the escapes `\e` and `\x`, and
times may leave out the seconds. Earlier releases follow TOML 1.0.0 and refuse these forms.
-/

namespace ContextualQuery.Toml

/-- A line of a document that says something. The last key of a path stands apart. -/
inductive Statement where
  | header (path : List String) (key : String)
  | element (path : List String) (key : String)
  | assign (path : List String) (key : String) (value : Value)

/-- Arrays and inline tables can be nested to this depth. -/
def maxDepth : Nat := 80

namespace Reader

/-- A character of a key without quotes. -/
def isKeyChar (c : Char) : Bool := c.isAlphanum || c == '_' || c == '-'

/-- A key: a word, or a string on one line. -/
def key : Reader String :=
  quotedString <|> literalString <|> do
    let word ← takeWhile isKeyChar
    if word.isEmpty then refuse else return String.ofList word

/-- Keys with points between them. The last one stands apart. -/
def path : Reader (List String × String) := do
  let keys ← separated (do blanks; char '.'; blanks) key
  return (keys.dropLast, ← require keys.getLast?)

/-- A comment up to the end of its line. -/
def comment : Reader Unit := do
  char '#'
  let _ ← takeWhile isPrintable

/-- Blanks, line ends and comments between the items of a value. -/
def gaps : Reader Unit := do
  let _ ← many ((do let _ ← one isBlank) <|> lineEnd <|> comment)

/-- Items with commas between them and possibly behind the last one, in brackets. -/
def enclosed {α : Type} (opening closing : Char) (item : Reader α) : Reader (List α) := do
  char opening
  gaps
  let items ← optional (separated (do gaps; char ','; gaps) item)
  gaps
  if items.isSome then
    let _ ← optional (char ',')
  gaps
  char closing
  return items.getD []

/-- A dotted key and its value. -/
def assignment (value : Reader Value) : Reader (List String × String × Value) := do
  let (path, key) ← path
  blanks
  char '='
  blanks
  return (path, key, ← value)

/-- An array of values. -/
def array (value : Reader Value) : Reader Value := do
  return .array false (← enclosed '[' ']' value)

/-- An inline table of values. -/
def inlineTable (value : Reader Value) : Reader Value := do
  let assignments ← enclosed '\x7b' '\x7d' (assignment value)
  let table ← require <| assignments.foldlM (fun table (path, key, value) =>
    Table.assign? path key value table) (Table.empty .inline)
  return table.toValue

/-- A value with arrays and inline tables nested down to a depth. -/
def value : Nat → Reader Value
  | 0 => scalar
  | depth + 1 => do
    match ← next? with
    | some '[' => array (value depth)
    | some '\x7b' => inlineTable (value depth)
    | _ => scalar

/-- What a line says, if it says anything. -/
def statement : Reader (Option Statement) := do
  match ← next? with
  | some '[' =>
    char '['
    let double ← optional (char '[')
    blanks
    let (path, key) ← path
    blanks
    char ']'
    if double.isSome then
      char ']'
      return some (.element path key)
    else return some (.header path key)
  | none | some '#' | some '\n' | some '\r' => return none
  | _ =>
    let (path, key, value) ← assignment (value maxDepth)
    return some (.assign path key value)

/-- The end of a line or of the text. -/
def endOfLine : Reader Unit := do
  match ← next? with
  | none => return
  | some _ => lineEnd

/-- A line with what it says. -/
def line : Reader (Option Statement) := do
  blanks
  let found? ← statement
  blanks
  let _ ← optional comment
  endOfLine
  return found?

end Reader

/-- The statements of a text of at most so many lines. -/
def readLines? : Nat → List Char → Option (List Statement)
  | _, [] => some []
  | 0, _ :: _ => none
  | count + 1, chars =>
    match Reader.line chars with
    | none => none
    | some (found?, rest) => (readLines? count rest).map (found?.toList ++ ·)

/-- The statements of a text. A mark for the order of bytes at its start is skipped. -/
def readStatements? (text : String) : Option (List Statement) :=
  let chars := match text.toList with
    | '\ufeff' :: rest => rest
    | chars => chars
  readLines? chars.length chars

/-- A document read so far: its table, and the path of the table that assignments belong to. -/
structure Draft where
  table : Table
  current : List String

namespace Draft

/-- The empty document. -/
def start : Draft := ⟨Table.empty .header, []⟩

/-- The document with one more statement. -/
def add? (draft : Draft) : Statement → Option Draft
  | .header path key => do
    let table ← Table.changeAt? false (Table.openTable? key) path draft.table
    return ⟨table, path ++ [key]⟩
  | .element path key => do
    let table ← Table.changeAt? false (Table.openElement? key) path draft.table
    return ⟨table, path ++ [key]⟩
  | .assign path key value => do
    let table ← Table.changeAt? false (Table.assign? path key value) draft.current draft.table
    return ⟨table, draft.current⟩

end Draft

/-- The entries of a document. -/
def read? (text : String) : Option Entries := do
  let statements ← readStatements? text
  let draft ← statements.foldlM Draft.add? Draft.start
  return draft.table.entries

end ContextualQuery.Toml
