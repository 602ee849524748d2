import ContextualQuery.Toml.Reader

/-!
# TOML strings

A string stands between quotes, between apostrophes, or between three of either. Between quotes a
backslash starts an escape; between apostrophes every character stands for itself. Three delimiters
allow line ends, and a line end directly behind the opening ones is dropped. Strings are written
between quotes if nothing has to be escaped, otherwise in the first of the other forms that needs no
escape.
-/

namespace ContextualQuery.Toml

/-- Spaces and tabs. -/
def isBlank (c : Char) : Bool := c == ' ' || c == '\t'

/-- Characters that may stand in a text: all but the controls other than the tab. -/
def isPrintable (c : Char) : Bool := c == '\t' || (0x20 ≤ c.toNat && c.toNat ≠ 0x7f)

namespace Reader

/-- A line end: a line feed, with or without a carriage return before it. -/
def lineEnd : Reader Unit := exactly ['\n'] <|> exactly ['\r', '\n']

/-- Spaces and tabs. -/
def blanks : Reader Unit := do
  let _ ← takeWhile isBlank

/-- The value of hexadecimal digits. -/
def hexValue (digits : List Char) : Nat :=
  digits.foldl (fun value c =>
    value * 16 + (if c.isDigit then c.toNat - '0'.toNat else (c.toLower.toNat - 'a'.toNat) + 10)) 0

/-- A hexadecimal digit. -/
def isHexDigit (c : Char) : Bool := c.isDigit || ('a' ≤ c && c ≤ 'f') || ('A' ≤ c && c ≤ 'F')

/-- The character whose code point is written in a number of hexadecimal digits. -/
def codePoint (count : Nat) : Reader Char := fun chars =>
  let digits := chars.take count
  if digits.length = count ∧ digits.all isHexDigit then
    let value := hexValue digits
    if value.isValidChar then some (Char.ofNat value, chars.drop count) else none
  else none

/-- A character behind a backslash. -/
def escaped : Reader Char := do
  match ← one fun _ => true with
  | 'b' => return '\x08'
  | 't' => return '\t'
  | 'n' => return '\n'
  | 'f' => return '\x0c'
  | 'r' => return '\r'
  | 'e' => return '\x1b'
  | '"' => return '"'
  | '\\' => return '\\'
  | 'x' => codePoint 2
  | 'u' => codePoint 4
  | 'U' => codePoint 8
  | _ => refuse

/-- A character of a string between quotes. -/
def quotedChar : Reader Char :=
  one (fun c => isPrintable c && c ≠ '"' && c ≠ '\\') <|> (do char '\\'; escaped)

/-- A string between quotes. -/
def quotedString : Reader String := do
  char '"'
  let content ← many quotedChar
  char '"'
  return String.ofList content

/-- A string between apostrophes. -/
def literalString : Reader String := do
  char '\''
  let content ← takeWhile fun c => isPrintable c && c ≠ '\''
  char '\''
  return String.ofList content

/-- A backslash at the end of a line. It takes away the line end and all blanks and line ends after
it. -/
def lineContinuation : Reader Unit := do
  char '\\'
  blanks
  lineEnd
  let _ ← many ((do let _ ← one isBlank) <|> lineEnd)

/-- Delimiters that are too few to end a string of several lines. -/
def fewDelimiters (delimiter : Char) : Reader (List Char) := do
  let run ← takeWhile (· == delimiter)
  if run.length = 1 ∨ run.length = 2 then return run else refuse

/-- The end of a string of several lines: three delimiters, with up to two before them that belong to
the string. -/
def closing (delimiter : Char) : Reader (List Char) := do
  let run ← takeWhile (· == delimiter)
  if 3 ≤ run.length ∧ run.length ≤ 5 then return run.drop 3 else refuse

/-- A string of several lines, from pieces of its content. -/
def severalLines (delimiter : Char) (piece : Reader (List Char)) : Reader String := do
  exactly [delimiter, delimiter, delimiter]
  let _ ← optional lineEnd
  let content ← many (piece <|> fewDelimiters delimiter <|> (do lineEnd; return ['\n']))
  let last ← closing delimiter
  return String.ofList (content.flatten ++ last)

/-- A string of several lines between quotes. -/
def quotedLines : Reader String :=
  severalLines '"' ((do return [← quotedChar]) <|> (do lineContinuation; return []))

/-- A string of several lines between apostrophes. -/
def literalLines : Reader String :=
  severalLines '\'' (do return [← one fun c => isPrintable c && c ≠ '\''])

/-- A string in any form. -/
def string : Reader String := quotedLines <|> literalLines <|> quotedString <|> literalString

end Reader

/-! ### Writing -/

/-- The length of the longest run of a character. -/
def longestRun (c : Char) (chars : List Char) : Nat :=
  (chars.foldl (fun (run, longest) other =>
    if other = c then (run + 1, max longest (run + 1)) else (0, longest)) (0, 0)).2

/-- A control character that only an escape can write. -/
def needsEscape (c : Char) : Bool := !(c == '\n' || isPrintable c)

/-- The escape of a control character by its code point. -/
def controlEscape (c : Char) : List Char :=
  let digits := (Nat.toDigits 16 c.toNat).map Char.toUpper
  '\\' :: 'u' :: (List.replicate (4 - digits.length) '0' ++ digits)

/-- A character between quotes. A line end stands for itself where several lines are allowed. -/
def writeChar (lines : Bool) (c : Char) : List Char :=
  if c = '"' then ['\\', '"']
  else if c = '\\' then ['\\', '\\']
  else if c = '\t' then ['\\', 't']
  else if c = '\n' then (if lines then ['\n'] else ['\\', 'n'])
  else if c = '\r' then ['\\', 'r']
  else if c = '\x08' then ['\\', 'b']
  else if c = '\x0c' then ['\\', 'f']
  else if isPrintable c then [c]
  else controlEscape c

/-- A text between three quotes: the first two quotes of a run stand for themselves. -/
def writeLines (run : Nat) : List Char → List Char
  | [] => []
  | c :: rest =>
    if c = '"' then
      if run < 2 then '"' :: writeLines (run + 1) rest else '\\' :: '"' :: writeLines 0 rest
    else writeChar true c ++ writeLines 0 rest

/-- Characters between three delimiters. If there is a line end in them, they start on a new line. -/
def betweenLines (delimiter : Char) (chars content : List Char) : List Char :=
  let mark := [delimiter, delimiter, delimiter]
  mark ++ (if chars.contains '\n' then ['\n'] else []) ++ content ++ mark

/-- A text as a TOML string: between quotes if it has no line end and nothing to escape, else between
apostrophes, between three quotes or between three apostrophes if that needs no escape, else with
escapes. -/
def writeString (text : String) : String :=
  let chars := text.toList
  let controls := chars.any needsEscape
  let backslash := chars.contains '\\'
  let lines := chars.contains '\n'
  let quotes := longestRun '"' chars
  let apostrophes := longestRun '\'' chars
  String.ofList <|
    if !controls && !backslash && quotes == 0 && !lines then
      '"' :: (chars.flatMap (writeChar false) ++ ['"'])
    else if !controls && apostrophes == 0 && !lines then '\'' :: (chars ++ ['\''])
    else if !controls && !backslash && quotes ≤ 2 then betweenLines '"' chars (writeLines 0 chars)
    else if !controls && apostrophes ≤ 2 then betweenLines '\'' chars chars
    else if lines then betweenLines '"' chars (writeLines 0 chars)
    else '"' :: (chars.flatMap (writeChar false) ++ ['"'])

/-- Texts as a TOML array: on one line if there is at most one, else each on a line of its own. -/
def writeArray (texts : List String) : String :=
  match texts with
  | [] => "[]"
  | [text] => "[" ++ writeString text ++ "]"
  | texts => "[\n" ++ String.join (texts.map fun text => "    " ++ writeString text ++ ",\n") ++ "]"

end ContextualQuery.Toml
