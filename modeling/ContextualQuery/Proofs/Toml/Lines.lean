import ContextualQuery.Proofs.Toml.Quoting
import ContextualQuery.Toml.Document

/-!
# Lines are read as they were written

A document is read line by line, and reading a line starts where the one before it ended. So it is
enough to say what single lines give: a header its table, an assignment its key and value, and an empty
line nothing. Values are texts and arrays of texts. An array may stand on one line or on several, where
gaps separate its items and a comma follows the last one.
-/

namespace ContextualQuery.Toml

open Reader

variable {chars written word front rest : List Char} {c : Char} {depth : Nat}

/-! ### Blanks and gaps -/

/-- Blanks are read up to the first character that is none. -/
theorem blanks_append (blank : ∀ c ∈ front, isBlank c = true)
    (stop : ∀ c ∈ rest.head?, isBlank c = false) : blanks (front ++ rest) = some ((), rest) := by
  rw [blanks, bind_of_read (takeWhile_append blank stop)]
  rfl

/-- Nothing is read where no blank is. -/
theorem blanks_none (stop : ∀ c ∈ rest.head?, isBlank c = false) : blanks rest = some ((), rest) :=
  @blanks_append [] rest (List.forall_mem_nil _) stop

/-- A character that starts or ends no item of a gap. -/
def isSolid (c : Char) : Bool := !isBlank c && c ≠ '\n' && c ≠ '\r' && c ≠ '#'

/-- An item of a gap: a blank, a line end or a comment. -/
def gapItem : Reader Unit := (do let _ ← one isBlank) <|> lineEnd <|> comment

/-- A blank is an item of a gap. -/
theorem gapItem_blank (blank : isBlank c = true) (rest : List Char) :
    gapItem (c :: rest) = some ((), rest) := by
  have read : (do let _ ← one isBlank : Reader Unit) (c :: rest) = some ((), rest) :=
    bind_of_read (one_of_accepted blank rest)
  exact orElse_of_read read

/-- A line end is an item of a gap. -/
theorem gapItem_lineEnd (rest : List Char) : gapItem ('\n' :: rest) = some ((), rest) := rfl

/-- A solid character is no gap. -/
theorem gapItem_solid (solid : ∀ c ∈ rest.head?, isSolid c = true) : gapItem rest = none := by
  cases rest with
  | nil => rfl
  | cons c rest =>
    have isSolid := solid c rfl
    simp only [Toml.isSolid, Bool.and_eq_true, Bool.not_eq_true', decide_eq_true_eq] at isSolid
    obtain ⟨⟨⟨noBlank, noFeed⟩, noReturn⟩, noComment⟩ := isSolid
    have blanks : (do let _ ← one isBlank : Reader Unit) (c :: rest) = none :=
      bind_of_refused (one_of_refused (by simpa using noBlank))
    have lineEnds : lineEnd (c :: rest) = none := lineEnd_of_other (by simpa using ⟨noFeed, noReturn⟩)
    rw [gapItem, orElse_of_refused blanks, orElse_of_refused lineEnds]
    exact bind_of_refused (char_of_other (by simpa using noComment))

/-- Blanks and line ends are read up to a solid character. -/
theorem gaps_append (gap : ∀ c ∈ front, isBlank c = true ∨ c = '\n')
    (solid : ∀ c ∈ rest.head?, isSolid c = true) : gaps (front ++ rest) = some ((), rest) := by
  have repeats : Repeats gapItem (front ++ rest) (front.map fun _ => ()) rest := by
    induction front with
    | nil => exact .stop (gapItem_solid solid)
    | cons c front inductionHypothesis =>
      have others := inductionHypothesis fun c member => gap c (.tail _ member)
      have read : gapItem (c :: (front ++ rest)) = some ((), front ++ rest) := by
        rcases gap c List.mem_cons_self with blank | rfl
        · exact gapItem_blank blank _
        · exact gapItem_lineEnd _
      exact .step read (by simp) others
  have items := repeats.many
  rw [gapItem] at items
  rw [gaps, bind_of_read items]
  rfl

/-- Nothing is read where no gap is. -/
theorem gaps_solid (solid : ∀ c ∈ rest.head?, isSolid c = true) : gaps rest = some ((), rest) :=
  @gaps_append [] rest (List.forall_mem_nil _) solid

/-! ### Texts -/

/-- A written text starts with a quote or an apostrophe. -/
theorem head?_writeString (text : String) (rest : List Char) :
    ((writeString text).toList ++ rest).head? = some '"' ∨
      ((writeString text).toList ++ rest).head? = some '\'' := by
  simp only [writeString, String.toList_ofList, betweenLines]
  repeat' split
  all_goals simp

/-- A written text starts with a quote or an apostrophe, and so with no item of a gap. -/
theorem solid_writeString (text : String) (rest : List Char) :
    ∀ c ∈ ((writeString text).toList ++ rest).head?, isSolid c = true := by
  rcases head?_writeString text rest with isHead | isHead <;> rw [isHead] <;> simp [isSolid, isBlank]

/-- Neither a quote nor an apostrophe follows. -/
def NoMark (rest : List Char) : Prop := rest.head? ≠ some '"' ∧ rest.head? ≠ some '\''

/-- A written text is read back as a value at every depth, if no quote follows. -/
theorem value_writeString (depth : Nat) (text : String) (follows : NoMark rest) :
    value depth ((writeString text).toList ++ rest) = some (.string text, rest) := by
  have read : scalar ((writeString text).toList ++ rest) = some (.string text, rest) := by
    apply orElse_of_read
    rw [bind_of_read (string_writeString text follows.1 follows.2)]
    rfl
  cases depth with
  | zero => exact read
  | succ depth =>
    have next : next? ((writeString text).toList ++ rest) =
        some (((writeString text).toList ++ rest).head?, (writeString text).toList ++ rest) := rfl
    rw [value, bind_of_read next]
    rcases head?_writeString text rest with isHead | isHead <;> rw [isHead] <;> exact read

/-- A closing bracket is no value. -/
theorem value_bracket (depth : Nat) (rest : List Char) : value depth (']' :: rest) = none := by
  have refused : scalar (']' :: rest) = none := rfl
  cases depth with
  | zero => exact refused
  | succ depth => exact refused

/-! ### Arrays -/

/-- The items of an array behind the first one, each on a line of its own. -/
def writeOthers (texts : List String) : List Char :=
  texts.flatMap fun text => [',', '\n', ' ', ' ', ' ', ' '] ++ (writeString text).toList

/-- A separator with the item behind it. -/
def separatedItem (depth : Nat) : Reader Value := do
  (do gaps; char ','; gaps)
  value depth

/-- The next item is read up to its end. -/
theorem separatedItem_writeString (text : String) (follows : NoMark rest) :
    separatedItem depth ([',', '\n', ' ', ' ', ' ', ' '] ++ ((writeString text).toList ++ rest)) =
      some (.string text, rest) := by
  have gap : gaps ('\n' :: ' ' :: ' ' :: ' ' :: ' ' :: ((writeString text).toList ++ rest)) =
      some ((), (writeString text).toList ++ rest) :=
    @gaps_append ['\n', ' ', ' ', ' ', ' '] _ (by simp [isBlank]) (solid_writeString text rest)
  have separator : (do gaps; char ','; gaps : Reader Unit)
      ([',', '\n', ' ', ' ', ' ', ' '] ++ ((writeString text).toList ++ rest)) =
        some ((), (writeString text).toList ++ rest) := by
    rw [bind_of_read (gaps_solid (by simp [isSolid, isBlank])), List.cons_append,
      bind_of_read (char_cons _ _)]
    exact gap
  rw [separatedItem, bind_of_read separator]
  exact value_writeString depth text follows

/-- Further items of an array start with a comma, so no quote follows directly. -/
theorem noMark_writeOthers (texts : List String) (follows : NoMark rest) :
    NoMark (writeOthers texts ++ rest) := by
  cases texts with
  | nil => exact follows
  | cons text texts => constructor <;> simp [writeOthers]

/-- All items behind the first one are read. -/
theorem repeats_writeOthers (texts : List String) (follows : NoMark rest)
    (last : separatedItem depth rest = none) :
    Repeats (separatedItem depth) (writeOthers texts ++ rest) (texts.map .string) rest := by
  induction texts with
  | nil => exact .stop last
  | cons text texts inductionHypothesis =>
    have read := @separatedItem_writeString _ depth text (noMark_writeOthers texts follows)
    have shape : writeOthers (text :: texts) ++ rest = [',', '\n', ' ', ' ', ' ', ' '] ++
        ((writeString text).toList ++ (writeOthers texts ++ rest)) := by
      simp [writeOthers]
    rw [shape]
    refine .step read ?_ inductionHypothesis
    simp only [List.length_append, List.length_cons]
    omega

/-- What ends an array: a bracket, possibly with a comma in front. -/
def arrayEnd (comma : Bool) : List Char := if comma then [',', '\n', ']'] else [']']

/-- At the end of an array no item follows. -/
theorem separatedItem_arrayEnd (comma : Bool) (rest : List Char) :
    separatedItem depth (arrayEnd comma ++ rest) = none := by
  cases comma with
  | false =>
    have separator : (do gaps; char ','; gaps : Reader Unit) (']' :: rest) = none := by
      rw [bind_of_read (gaps_solid (by simp [isSolid, isBlank])),
        bind_of_refused (char_of_other (by simp))]
    exact bind_of_refused separator
  | true =>
    have separator : (do gaps; char ','; gaps : Reader Unit) (',' :: '\n' :: ']' :: rest) =
        some ((), ']' :: rest) := by
      rw [bind_of_read (gaps_solid (by simp [isSolid, isBlank])), bind_of_read (char_cons _ _)]
      exact @gaps_append ['\n'] _ (by simp) (by simp [isSolid, isBlank])
    exact (bind_of_read separator).trans (value_bracket depth rest)

/-- Items in brackets are read with the gaps around them and a comma behind the last one. -/
theorem enclosed_of_read {α : Type} {opening closing : Char} {item : Reader α} {values : List α}
    {inner last tail behind : List Char} {comma? : Option Unit}
    (before : gaps chars = some ((), inner))
    (items : separated (do gaps; char ','; gaps) item inner = some (values, last))
    (after : gaps last = some ((), tail))
    (comma : Reader.optional (char ',') tail = some (comma?, behind))
    (ending : gaps behind = some ((), closing :: rest)) :
    enclosed opening closing item (opening :: chars) = some (values, rest) := by
  rw [enclosed, bind_of_read (char_cons _ _), bind_of_read before,
    bind_of_read (optional_of_read items)]
  simp only [Option.isSome_some, if_true]
  rw [bind_of_read after]
  rw [bind_of_read comma, bind_of_read ending, bind_of_read (char_cons _ _)]
  rfl

/-- An array of texts is read back, on one line or on several. -/
theorem array_append (gap : ∀ c ∈ front, isBlank c = true ∨ c = '\n') (text : String)
    (texts : List String) (comma : Bool) (rest : List Char) :
    array (value depth) ('[' :: (front ++ ((writeString text).toList ++
      (writeOthers texts ++ (arrayEnd comma ++ rest))))) =
        some (.array false ((text :: texts).map .string), rest) := by
  have noMark : NoMark (arrayEnd comma ++ rest) := by
    cases comma <;> constructor <;> simp [arrayEnd]
  have solid : ∀ c ∈ (arrayEnd comma ++ rest).head?, isSolid c = true := by
    cases comma <;> simp [arrayEnd, isSolid, isBlank]
  have first := value_writeString depth text (noMark_writeOthers texts noMark)
  have others := repeats_writeOthers texts noMark (@separatedItem_arrayEnd depth comma rest)
  have before := gaps_append gap (solid_writeString text (writeOthers texts ++ (arrayEnd comma ++ rest)))
  have items : enclosed '[' ']' (value depth) ('[' :: (front ++ ((writeString text).toList ++
      (writeOthers texts ++ (arrayEnd comma ++ rest))))) =
        some ((text :: texts).map .string, rest) := by
    cases comma with
    | false =>
      exact enclosed_of_read before (separated_of_read first others) (gaps_solid solid)
        (optional_of_refused (char_of_other (by simp [arrayEnd])))
        (gaps_solid (by simp [arrayEnd, isSolid, isBlank]))
    | true =>
      have ending : gaps ('\n' :: ']' :: rest) = some ((), ']' :: rest) :=
        @gaps_append ['\n'] _ (by simp) (by simp [isSolid, isBlank])
      exact enclosed_of_read before (separated_of_read first others) (gaps_solid solid)
        (optional_of_read (char_cons ',' _)) ending
  rw [array, bind_of_read items]
  rfl

/-- An array without items is read. -/
theorem array_nil (rest : List Char) :
    array (value depth) ('[' :: ']' :: rest) = some (.array false [], rest) := by
  have solid : ∀ c ∈ (']' :: rest).head?, isSolid c = true := by simp [isSolid, isBlank]
  have refused : separated (do gaps; char ','; gaps) (value depth) (']' :: rest) = none :=
    separated_of_refused (value_bracket depth rest)
  have items : enclosed '[' ']' (value depth) ('[' :: ']' :: rest) = some ([], rest) := by
    rw [enclosed, bind_of_read (char_cons _ _), bind_of_read (gaps_solid solid),
      bind_of_read (optional_of_refused refused), bind_of_read (gaps_solid solid)]
    simp only [Option.isSome_none, Bool.false_eq_true, if_false]
    rw [bind_of_read (gaps_solid solid), bind_of_read (char_cons _ _)]
    rfl
  rw [array, bind_of_read items]
  rfl

/-- Texts each on a line of its own, with a comma behind each. -/
theorem flatMap_itemLines (text : String) (texts : List String) (rest : List Char) :
    (text :: texts).flatMap
          (fun text => [' ', ' ', ' ', ' '] ++ (writeString text).toList ++ [',', '\n']) ++
        ']' :: rest =
      [' ', ' ', ' ', ' '] ++ ((writeString text).toList ++
        (writeOthers texts ++ (arrayEnd true ++ rest))) := by
  induction texts generalizing text with
  | nil => simp [writeOthers, arrayEnd]
  | cons next texts inductionHypothesis =>
    rw [List.flatMap_cons, List.append_assoc, inductionHypothesis next]
    simp [writeOthers]

/-- A written array of texts is read back. -/
theorem value_writeArray (depth : Nat) (texts : List String) (rest : List Char) :
    value (depth + 1) ((writeArray texts).toList ++ rest) =
      some (.array false (texts.map .string), rest) := by
  have isArray : ∀ chars, value (depth + 1) ('[' :: chars) = array (value depth) ('[' :: chars) :=
    fun chars => rfl
  match texts with
  | [] => exact (isArray _).trans (array_nil rest)
  | [text] =>
    have shape : (writeArray [text]).toList ++ rest = '[' :: ([] ++ ((writeString text).toList ++
        (writeOthers [] ++ (arrayEnd false ++ rest)))) := by
      simp [writeArray, writeOthers, arrayEnd]
    rw [shape, isArray]
    exact array_append (List.forall_mem_nil _) text [] false rest
  | text :: second :: texts =>
    have shape : (writeArray (text :: second :: texts)).toList ++ rest =
        '[' :: (['\n', ' ', ' ', ' ', ' '] ++ ((writeString text).toList ++
          (writeOthers (second :: texts) ++ (arrayEnd true ++ rest)))) := by
      have lines := flatMap_itemLines text (second :: texts) rest
      simpa [writeArray, List.flatMap_map] using lines
    rw [shape, isArray]
    exact array_append (by simp [isBlank]) text (second :: texts) true rest

/-- A written array starts with a bracket, and so with no item of a gap. -/
theorem solid_writeArray (texts : List String) (rest : List Char) :
    ∀ c ∈ ((writeArray texts).toList ++ rest).head?, isSolid c = true := by
  match texts with
  | [] => simp [writeArray, isSolid, isBlank]
  | [text] => simp [writeArray, isSolid, isBlank]
  | text :: second :: texts => simp [writeArray, isSolid, isBlank]

/-! ### Keys -/

/-- A blank is no character of a key. -/
theorem isKeyChar_of_blank (blank : isBlank c = true) : isKeyChar c = false := by
  simp only [isBlank, Bool.or_eq_true, beq_iff_eq] at blank
  rcases blank with rfl | rfl <;> decide

/-- A character of a bare key does not start a string, a header, a comment or an empty line. -/
theorem isKeyChar_other (isKey : isKeyChar c = true) :
    isBlank c = false ∧ c ≠ '"' ∧ c ≠ '\'' ∧ c ≠ '[' ∧ c ≠ '#' ∧ c ≠ '\n' ∧ c ≠ '\r' := by
  refine ⟨Bool.eq_false_iff.mpr fun blank => ?_, ?_, ?_, ?_, ?_, ?_, ?_⟩
  · rw [isKeyChar_of_blank blank] at isKey
    cases isKey
  all_goals
    rintro rfl
    exact absurd isKey (by decide)

/-- A bare key is read up to the first character that does not belong to it. -/
theorem key_append (isWord : ∀ c ∈ word, isKeyChar c = true) (nonempty : word ≠ [])
    (stop : ∀ c ∈ rest.head?, isKeyChar c = false) :
    key (word ++ rest) = some (String.ofList word, rest) := by
  have other : (word ++ rest).head? ≠ some '"' ∧ (word ++ rest).head? ≠ some '\'' := by
    cases word with
    | nil => exact absurd rfl nonempty
    | cons c word =>
      obtain ⟨_, noQuote, noApostrophe, _⟩ := isKeyChar_other (isWord c List.mem_cons_self)
      exact ⟨by simpa using noQuote, by simpa using noApostrophe⟩
  have quoted : quotedString (word ++ rest) = none := bind_of_refused (char_of_other other.1)
  have literal : literalString (word ++ rest) = none := bind_of_refused (char_of_other other.2)
  rw [key, orElse_of_refused quoted, orElse_of_refused literal,
    bind_of_read (takeWhile_append isWord stop), if_neg (by simpa using nonempty)]
  rfl

/-- A bare key alone is a path, if no point follows. -/
theorem path_append (isWord : ∀ c ∈ word, isKeyChar c = true) (nonempty : word ≠ [])
    (blank : ∀ c ∈ front, isBlank c = true) (c : Char)
    (stop : isBlank c = false ∧ c ≠ '.' ∧ isKeyChar c = false) (rest : List Char) :
    path (word ++ (front ++ c :: rest)) = some (([], String.ofList word), front ++ c :: rest) := by
  have separator : (do blanks; char '.'; blanks : Reader Unit) (front ++ c :: rest) = none := by
    rw [bind_of_read (blanks_append blank (by simpa using stop.1)),
      bind_of_refused (char_of_other (by simpa using stop.2.1))]
  have head : ∀ head ∈ (front ++ c :: rest).head?, isKeyChar head = false := by
    cases front with
    | nil => simpa using stop.2.2
    | cons first front => simpa using isKeyChar_of_blank (blank first List.mem_cons_self)
  have keys := separated_of_read (key_append isWord nonempty head) (.stop (bind_of_refused separator))
  rw [path, bind_of_read keys]
  rfl

/-! ### Lines -/

/-- What is left of a line is read up to its end. -/
theorem line_of_statement {found? : Option Statement} (solid : ∀ c ∈ chars.head?, isBlank c = false)
    (read : statement chars = some (found?, '\n' :: rest)) :
    line chars = some (found?, rest) := by
  have behind : blanks ('\n' :: rest) = some ((), '\n' :: rest) := blanks_none (by simp [isBlank])
  have noComment : Reader.optional comment ('\n' :: rest) = some (none, '\n' :: rest) := rfl
  rw [line, bind_of_read (blanks_none solid), bind_of_read read, bind_of_read behind,
    bind_of_read noComment]
  rfl

/-- What stands behind a bracket at the start of a line is a header. -/
theorem statement_bracket (chars : List Char) :
    statement ('[' :: chars) = (do
      let double ← Reader.optional (char '[')
      blanks
      let (path, key) ← path
      blanks
      char ']'
      if double.isSome then
        char ']'
        return some (.element path key)
      else return some (.header path key) : Reader (Option Statement)) chars := rfl

/-- What starts with a key is an assignment. -/
theorem statement_key (isKey : isKeyChar c = true) (chars : List Char) :
    statement (c :: chars) = (do
      let (path, key, value) ← assignment (value maxDepth)
      return some (.assign path key value) : Reader (Option Statement)) (c :: chars) := by
  obtain ⟨_, _, _, noBracket, noComment, noFeed, noReturn⟩ := isKeyChar_other isKey
  have next : next? (c :: chars) = some (some c, c :: chars) := rfl
  rw [statement, bind_of_read next]
  apply congrFun
  split <;> simp_all

/-- A header names its table. -/
theorem line_header (isWord : ∀ c ∈ word, isKeyChar c = true) (nonempty : word ≠ [])
    (rest : List Char) :
    line ('[' :: (word ++ ']' :: '\n' :: rest)) =
      some (some (.header [] (String.ofList word)), rest) := by
  have head : ∀ c ∈ (word ++ ']' :: '\n' :: rest).head?, isKeyChar c = true := by
    cases word with
    | nil => exact absurd rfl nonempty
    | cons c word => simpa using isWord c List.mem_cons_self
  have single : Reader.optional (char '[') (word ++ ']' :: '\n' :: rest) =
      some (none, word ++ ']' :: '\n' :: rest) := by
    refine optional_of_refused (char_of_other fun isHead => ?_)
    exact (isKeyChar_other (head '[' isHead)).2.2.2.1 rfl
  have noBlank : blanks (word ++ ']' :: '\n' :: rest) = some ((), word ++ ']' :: '\n' :: rest) :=
    blanks_none fun c isHead => (isKeyChar_other (head c isHead)).1
  have name : path (word ++ ']' :: '\n' :: rest) =
      some (([], String.ofList word), ']' :: '\n' :: rest) :=
    @path_append word [] isWord nonempty (List.forall_mem_nil _) ']' (by decide) ('\n' :: rest)
  have behind : blanks (']' :: '\n' :: rest) = some ((), ']' :: '\n' :: rest) :=
    blanks_none (by simp [isBlank])
  apply line_of_statement (by simp [isBlank])
  rw [statement_bracket, bind_of_read single, bind_of_read noBlank, bind_of_read name]
  dsimp only
  rw [bind_of_read behind, bind_of_read (char_cons _ _)]
  rfl

/-- An assignment gives its key and value. The key, the blanks around the sign, the sign and the value are
read one after another. -/
theorem line_assign (isWord : ∀ c ∈ word, isKeyChar c = true) (nonempty : word ≠ [])
    {value : Value} (solid : ∀ c ∈ (written ++ '\n' :: rest).head?, isSolid c = true)
    (read : Reader.value maxDepth (written ++ '\n' :: rest) = some (value, '\n' :: rest)) :
    line (word ++ (' ' :: '=' :: ' ' :: (written ++ '\n' :: rest))) =
      some (some (.assign [] (String.ofList word) value), rest) := by
  obtain ⟨c, others, rfl⟩ := List.exists_cons_of_ne_nil nonempty
  have isKey := isWord c List.mem_cons_self
  have name : path (c :: others ++ (' ' :: '=' :: ' ' :: (written ++ '\n' :: rest))) =
      some (([], String.ofList (c :: others)), ' ' :: '=' :: ' ' :: (written ++ '\n' :: rest)) :=
    @path_append _ [' '] isWord nonempty (by simp [isBlank]) '=' (by decide)
      (' ' :: (written ++ '\n' :: rest))
  have before : blanks (' ' :: '=' :: ' ' :: (written ++ '\n' :: rest)) =
      some ((), '=' :: ' ' :: (written ++ '\n' :: rest)) :=
    @blanks_append [' '] _ (by simp [isBlank]) (by simp [isBlank])
  have behind : blanks (' ' :: (written ++ '\n' :: rest)) = some ((), written ++ '\n' :: rest) := by
    refine @blanks_append [' '] _ (by simp [isBlank]) fun c isHead => ?_
    have isSolid := solid c isHead
    simp only [Toml.isSolid, Bool.and_eq_true, Bool.not_eq_true'] at isSolid
    exact isSolid.1.1.1
  have assigned : assignment (Reader.value maxDepth)
      (c :: others ++ (' ' :: '=' :: ' ' :: (written ++ '\n' :: rest))) =
        some (([], String.ofList (c :: others), value), '\n' :: rest) := by
    rw [assignment, bind_of_read name]
    dsimp only
    rw [bind_of_read before, bind_of_read (char_cons _ _), bind_of_read behind, bind_of_read read]
    rfl
  apply line_of_statement
  · simpa using (isKeyChar_other isKey).1
  · rw [List.cons_append, statement_key isKey]
    rw [List.cons_append] at assigned
    rw [bind_of_read assigned]
    rfl

/-- An empty line says nothing. -/
theorem line_empty (rest : List Char) : line ('\n' :: rest) = some (none, rest) := rfl

/-- A comment says nothing. -/
theorem line_comment (printable : ∀ c ∈ chars, isPrintable c = true) (rest : List Char) :
    line ('#' :: (chars ++ '\n' :: rest)) = some (none, rest) := by
  have solid : ∀ c ∈ ('#' :: (chars ++ '\n' :: rest)).head?, isBlank c = false := by simp [isBlank]
  have text : takeWhile isPrintable (chars ++ '\n' :: rest) = some (chars, '\n' :: rest) :=
    takeWhile_append printable (by simp [isPrintable])
  have found : Reader.optional comment ('#' :: (chars ++ '\n' :: rest)) =
      some (some (), '\n' :: rest) := by
    apply optional_of_read
    rw [comment, bind_of_read (char_cons _ _), bind_of_read text]
    rfl
  have nothing : statement ('#' :: (chars ++ '\n' :: rest)) =
      some (none, '#' :: (chars ++ '\n' :: rest)) := rfl
  rw [line, bind_of_read (blanks_none solid), bind_of_read nothing, bind_of_read (blanks_none solid),
    bind_of_read found]
  rfl

/-- The lines of a text with what they say. -/
inductive Lines : List Char → List Statement → Prop
  | stop : Lines [] []
  | line {chars rest : List Char} {found? : Option Statement} {statements : List Statement}
      (read : line chars = some (found?, rest)) (shorter : rest.length < chars.length)
      (others : Lines rest statements) : Lines chars (found?.toList ++ statements)

/-- All lines are read, if as many are allowed as there are characters. -/
theorem Lines.readLines? {statements : List Statement} (lines : Lines chars statements) {count : Nat}
    (enough : chars.length ≤ count) : readLines? count chars = some statements := by
  induction lines generalizing count with
  | stop => cases count <;> rfl
  | @line chars rest found? statements read shorter others inductionHypothesis =>
    cases count with
    | zero => omega
    | succ count =>
      cases chars with
      | nil => cases shorter
      | cons c chars =>
        rw [Toml.readLines?, read]
        · dsimp only
          rw [inductionHypothesis (by omega)]
          rfl
        · exact List.cons_ne_nil c chars

/-- The name can stand as a key without quotes. -/
def isBareKey (name : String) : Bool := !name.toList.isEmpty && name.toList.all isKeyChar

/-- A key without quotes is a word of characters of keys. -/
theorem isBareKey_iff {name : String} :
    isBareKey name = true ↔ name.toList ≠ [] ∧ ∀ c ∈ name.toList, isKeyChar c = true := by
  simp [isBareKey]

variable {name : String} {statements : List Statement}

/-- A header on its line, in front of other lines. -/
def headerLine (name : String) (rest : List Char) : List Char :=
  '[' :: (name.toList ++ ']' :: '\n' :: rest)

/-- A key with what is written as its value, in front of other lines. -/
def assignLine (name written : String) (rest : List Char) : List Char :=
  name.toList ++ (' ' :: '=' :: ' ' :: (written.toList ++ '\n' :: rest))

/-- A header is read before the other lines. -/
theorem Lines.header (isKey : isBareKey name = true) (others : Lines rest statements) :
    Lines (headerLine name rest) (.header [] name :: statements) := by
  obtain ⟨nonempty, isWord⟩ := isBareKey_iff.mp isKey
  have read := line_header isWord nonempty rest
  rw [String.ofList_toList] at read
  refine .line read ?_ others
  simp only [List.length_cons, List.length_append]
  omega

/-- An assignment is read before the other lines. -/
theorem Lines.assign (isKey : isBareKey name = true) {written : String} {value : Value}
    (solid : ∀ c ∈ (written.toList ++ '\n' :: rest).head?, isSolid c = true)
    (read : Reader.value maxDepth (written.toList ++ '\n' :: rest) = some (value, '\n' :: rest))
    (others : Lines rest statements) :
    Lines (assignLine name written rest) (.assign [] name value :: statements) := by
  obtain ⟨nonempty, isWord⟩ := isBareKey_iff.mp isKey
  have read := line_assign isWord nonempty solid read
  rw [String.ofList_toList] at read
  refine .line read ?_ others
  simp only [List.length_cons, List.length_append]
  omega

/-- A line that assigns a text stands in front of other lines. -/
theorem Lines.assign_text (isKey : isBareKey name = true) (text : String)
    (others : Lines rest statements) :
    Lines (assignLine name (writeString text) rest) (.assign [] name (.string text) :: statements) := by
  have follows : NoMark ('\n' :: rest) := by simp [NoMark]
  exact .assign isKey (solid_writeString text _) (value_writeString maxDepth text follows) others

/-- A line that assigns an array of texts stands in front of other lines. -/
theorem Lines.assign_texts (isKey : isBareKey name = true) (texts : List String)
    (others : Lines rest statements) :
    Lines (assignLine name (writeArray texts) rest)
      (.assign [] name (.array false (texts.map .string)) :: statements) :=
  .assign isKey (solid_writeArray texts _) (value_writeArray 79 texts _) others

/-- An empty line is passed over. -/
theorem Lines.empty (others : Lines rest statements) : Lines ('\n' :: rest) statements :=
  .line (line_empty rest) (by simp) others

/-- A comment is passed over. -/
theorem Lines.comment (printable : ∀ c ∈ chars, isPrintable c = true)
    (others : Lines rest statements) : Lines ('#' :: (chars ++ '\n' :: rest)) statements := by
  refine .line (line_comment printable rest) ?_ others
  simp only [List.length_cons, List.length_append]
  omega

/-- The statements of a text without a mark in front are those of its lines. -/
theorem Lines.readStatements? {text : String} (lines : Lines text.toList statements)
    (unmarked : text.toList.head? ≠ some '\ufeff') : readStatements? text = some statements := by
  rw [Toml.readStatements?]
  split
  case h_1 rest marked => exact absurd (congrArg List.head? marked) unmarked
  case h_2 => exact lines.readLines? (Nat.le_refl _)

end ContextualQuery.Toml
