import ContextualQuery.Proofs.Text.Quoted
import ContextualQuery.Proofs.Tree.Clausal
import ContextualQuery.Tree.Printer
import ContextualQuery.Tree.Traversal

/-!
# The two printed forms of a tree

On one line, a tree is printed so that it can be told from every other tree, whatever characters its
texts hold. The name of a kind ends at the first parenthesis, a quoted text at the quote that closes
it, and the children at the comma or the parenthesis behind them; so a printed tree shows where it
ends, and its parts can be taken off from the front.

On several lines, a tree is printed like the tree without the texts that stand beside other children.
Where the lines are joined again, with a space only behind a comma, they are that tree on one line, at
whatever depth they were indented. Since one line determines its tree, the two forms agree exactly for
the trees of which no text is left out.
-/

namespace ContextualQuery

namespace Text

/-- The characters without line breaks and the spaces that follow them. Behind a comma, one space stays
in the place of the break. -/
def joinLines : List Char → List Char
  | [] => []
  | ',' :: '\n' :: rest => ',' :: ' ' :: joinLines (rest.dropWhile (· == ' '))
  | '\n' :: rest => joinLines (rest.dropWhile (· == ' '))
  | c :: rest => c :: joinLines rest
termination_by chars => chars.length
decreasing_by
  · have shorter := (List.dropWhile_suffix (· == ' ') (l := rest)).length_le
    simp only [List.length_cons]
    omega
  · have shorter := (List.dropWhile_suffix (· == ' ') (l := rest)).length_le
    simp only [List.length_cons]
    omega
  · simp

/-- A line break is taken out with the spaces behind it. -/
theorem joinLines_break (rest : List Char) :
    joinLines ('\n' :: rest) = joinLines (rest.dropWhile (· == ' ')) := by
  rw [joinLines]

/-- Behind a comma, a break leaves a space. -/
theorem joinLines_comma_break (rest : List Char) :
    joinLines (',' :: '\n' :: rest) = ',' :: ' ' :: joinLines ('\n' :: rest) := by
  rw [joinLines, joinLines_break]

/-- Spaces at the front of a line are left out. -/
theorem joinLines_break_spaces (count : Nat) (rest : List Char) :
    joinLines ('\n' :: (List.replicate count ' ' ++ rest)) = joinLines ('\n' :: rest) := by
  have passed : (List.replicate count ' ' ++ rest).dropWhile (· == ' ') = rest.dropWhile (· == ' ') :=
    List.dropWhile_append_of_pos (by simp)
  rw [joinLines_break, joinLines_break, passed]

/-- Where no space follows it, a break is all that is left out. -/
theorem joinLines_break_solid {rest : List Char} (solid : ∀ c ∈ rest.head?, c ≠ ' ') :
    joinLines ('\n' :: rest) = joinLines rest := by
  rw [joinLines_break]
  cases rest with
  | nil => rfl
  | cons c tail => rw [List.dropWhile_cons_of_neg (by simpa using solid)]

/-- A character is kept if it is no break, and no comma before a break. -/
theorem joinLines_cons {c : Char} {rest : List Char} (solid : c ≠ '\n')
    (apart : c = ',' → ∀ tail, rest ≠ '\n' :: tail) :
    joinLines (c :: rest) = c :: joinLines rest := by
  rw [joinLines]
  · exact fun tail comma break' => apart comma tail break'
  · exact solid

/-- A text without breaks, and without a comma at its end, is kept. -/
theorem joinLines_append {plain : List Char} (noBreak : '\n' ∉ plain)
    (noComma : plain.getLast? ≠ some ',') (rest : List Char) :
    joinLines (plain ++ rest) = plain ++ joinLines rest := by
  induction plain with
  | nil => rfl
  | cons c tail inductionHypothesis =>
    obtain ⟨solid, solidTail⟩ : '\n' ≠ c ∧ '\n' ∉ tail := by simpa using noBreak
    cases tail with
    | nil =>
      have other : c ≠ ',' := by simpa using noComma
      exact joinLines_cons solid.symm fun comma => absurd comma other
    | cons d tail =>
      have sameEnd : (d :: tail).getLast? ≠ some ',' := by simpa using noComma
      rw [List.cons_append, joinLines_cons solid.symm, inductionHypothesis solidTail sameEnd]
      · rfl
      · intro _ others starts
        exact solidTail ((List.cons.inj starts).1 ▸ List.mem_cons_self)

end Text

/-! ### Names of kinds -/

/-- The names of the kinds consist of letters. -/
theorem Kind.isAlpha_of_mem_name {kind : Kind} {c : Char} (member : c ∈ kind.name.toList) :
    c.isAlpha = true := by
  have letters : kind.name.toList.all Char.isAlpha = true := by cases kind <;> decide
  exact List.all_eq_true.mp letters c member

/-- A name does not hold a character that is no letter. -/
theorem Kind.not_mem_name {c : Char} (noLetter : c.isAlpha = false) (kind : Kind) :
    c ∉ kind.name.toList := by
  intro member
  rw [isAlpha_of_mem_name member] at noLetter
  simp at noLetter

/-- Where a name stands at the front of a text, the first character is a letter. -/
theorem Kind.isAlpha_head_name {kind : Kind} {rest : List Char} {c : Char}
    (first : (kind.name.toList ++ rest).head? = some c) : c.isAlpha = true := by
  have someLetter : kind.name.toList ≠ [] := by cases kind <;> decide
  obtain ⟨letter, others, shape⟩ := List.exists_cons_of_ne_nil someLetter
  obtain rfl : letter = c := by simpa [shape] using first
  exact isAlpha_of_mem_name (shape ▸ List.mem_cons_self)

namespace Tree

/-! ### Trees on one line -/

/-- The characters of a tree on one line. -/
def line (tree : Tree) : List Char := tree.display.toList

/-- The characters of trees on one line, between commas. -/
def lineAll (children : List Tree) : List Char := [',', ' '].intercalate (children.map line)

/-- A text is printed in quotes. -/
theorem line_text (value : String) : (text value).line = (Text.quoted value).toList := rfl

/-- A node is printed as the name of its kind with its children in parentheses. -/
theorem line_node (kind : Kind) (children : List Tree) :
    (node kind children).line = kind.name.toList ++ '(' :: (lineAll children ++ [')']) := by
  have lines : children.map line = (children.map display).map String.toList := by
    simp [line, Function.comp_def]
  simp [lineAll, lines, line, display, displayAll_eq_map]

/-- A single child is printed without a comma. -/
theorem lineAll_singleton (child : Tree) : lineAll [child] = child.line := by
  simp [lineAll]

/-- Several children are printed with a comma and a space between them. -/
theorem lineAll_cons_cons (child next : Tree) (rest : List Tree) :
    lineAll (child :: next :: rest) = child.line ++ ',' :: ' ' :: lineAll (next :: rest) := by
  simp [lineAll, List.intercalate_cons_cons]

/-- Where a printed tree stands at the front of a text, the first character is a quote or a letter. -/
theorem head_line {tree : Tree} {rest : List Char} {c : Char}
    (first : (tree.line ++ rest).head? = some c) : c = '"' ∨ c.isAlpha = true := by
  cases tree with
  | text value =>
    rw [line_text, Text.toList_quoted, List.cons_append, List.head?_cons, Option.some.injEq] at first
    exact .inl first.symm
  | node kind children =>
    rw [line_node, List.append_assoc] at first
    exact .inr (Kind.isAlpha_head_name first)

/-- A printed tree ends with a quote or with a parenthesis. -/
theorem getLast?_line_ne_comma (tree : Tree) : tree.line.getLast? ≠ some ',' := by
  cases tree with
  | text value =>
    rw [line_text, Text.toList_quoted, ← List.cons_append, List.getLast?_concat]
    decide
  | node kind children =>
    rw [line_node, ← List.cons_append, ← List.append_assoc, List.getLast?_concat]
    decide

/-- Children without line breaks are printed on one line without a line break. -/
theorem break_not_mem_lineAll {children : List Tree} (each : ∀ child ∈ children, '\n' ∉ child.line) :
    '\n' ∉ lineAll children := by
  induction children with
  | nil => simp [lineAll]
  | cons child tail inductionHypothesis =>
    obtain ⟨first, later⟩ := List.forall_mem_cons.mp each
    cases tail with
    | nil => rwa [lineAll_singleton]
    | cons next tail => simp [lineAll_cons_cons, first, inductionHypothesis later]

/-- What is printed on one line holds no line break. -/
theorem break_not_mem_line (tree : Tree) : '\n' ∉ tree.line := by
  induction tree with
  | text value =>
    rw [line_text]
    exact Text.break_not_mem_quoted value
  | node kind children below =>
    have inName : '\n' ∉ kind.name.toList := kind.not_mem_name (by decide)
    simp [line_node, inName, break_not_mem_lineAll below]

/-- No printed child starts with the parenthesis that closes the children. -/
theorem lineAll_cons_ne (child : Tree) (tail : List Tree) (rest rest' : List Char) :
    lineAll (child :: tail) ++ rest ≠ ')' :: rest' := by
  obtain ⟨behind, split⟩ : ∃ behind, lineAll (child :: tail) = child.line ++ behind := by
    cases tail with
    | nil => exact ⟨[], by simp [lineAll_singleton]⟩
    | cons next tail => exact ⟨_, lineAll_cons_cons child next tail⟩
  intro same
  rw [split, List.append_assoc] at same
  have first := head_line (congrArg List.head? same)
  exact absurd first (by decide)

/-- A printed tree determines the tree, and it shows where it ends in front of any text. -/
def IsSelfDelimiting (tree : Tree) : Prop :=
  ∀ {other : Tree} {rest rest' : List Char}, tree.line ++ rest = other.line ++ rest' →
    tree = other ∧ rest = rest'

/-- Children that show where they end are determined one after another, up to the parenthesis behind them.
By induction on the children. A list that ends where the other one goes on has a parenthesis at the place
of a comma. -/
theorem lineAll_append_inj {children children' : List Tree} {rest rest' : List Char}
    (each : ∀ child ∈ children, child.IsSelfDelimiting)
    (same : lineAll children ++ ')' :: rest = lineAll children' ++ ')' :: rest') :
    children = children' ∧ rest = rest' := by
  induction children generalizing children' with
  | nil =>
    cases children' with
    | nil => simpa [lineAll] using same
    | cons child' tail' => exact absurd same.symm (lineAll_cons_ne child' tail' _ _)
  | cons child tail inductionHypothesis =>
    obtain ⟨first, later⟩ := List.forall_mem_cons.mp each
    cases children' with
    | nil => exact absurd same (lineAll_cons_ne child tail _ _)
    | cons child' tail' =>
      cases tail with
      | nil =>
        cases tail' with
        | nil =>
          rw [lineAll_singleton, lineAll_singleton] at same
          obtain ⟨rfl, ends⟩ := first same
          exact ⟨rfl, (List.cons.inj ends).2⟩
        | cons next' tail' =>
          rw [lineAll_singleton, lineAll_cons_cons, List.append_assoc] at same
          exact absurd (List.cons.inj (first same).2).1 (by decide)
      | cons next tail =>
        cases tail' with
        | nil =>
          rw [lineAll_cons_cons, lineAll_singleton, List.append_assoc] at same
          exact absurd (List.cons.inj (first same).2).1 (by decide)
        | cons next' tail' =>
          rw [lineAll_cons_cons, lineAll_cons_cons, List.append_assoc, List.append_assoc] at same
          obtain ⟨rfl, behind⟩ := first same
          have others : lineAll (next :: tail) ++ ')' :: rest =
              lineAll (next' :: tail') ++ ')' :: rest' := by simpa using behind
          obtain ⟨same, rests⟩ := inductionHypothesis later others
          exact ⟨congrArg (child :: ·) same, rests⟩

/-- Every printed tree determines the tree, whatever is printed behind it. A text starts with a quote and
a node with a letter. A text ends with its closing quote, the name of a node at the first parenthesis, and
its children where they are determined one after another. -/
theorem isSelfDelimiting (tree : Tree) : tree.IsSelfDelimiting := by
  induction tree with
  | text value =>
    intro other rest rest' same
    cases other with
    | text value' =>
      obtain ⟨rfl, rests⟩ := Text.quoted_append_inj same
      exact ⟨rfl, rests⟩
    | node kind' children' =>
      rw [line_text, Text.toList_quoted, line_node, List.append_assoc] at same
      have letter := Kind.isAlpha_head_name (congrArg List.head? same.symm)
      exact absurd letter (by decide)
  | node kind children below =>
    intro other rest rest' same
    cases other with
    | text value' =>
      rw [line_text, Text.toList_quoted, line_node, List.append_assoc] at same
      have letter := Kind.isAlpha_head_name (congrArg List.head? same)
      exact absurd letter (by decide)
    | node kind' children' =>
      have noParenthesis : ∀ kind : Kind, '(' ∉ kind.name.toList := Kind.not_mem_name (by decide)
      rw [line_node, line_node, List.append_assoc, List.append_assoc] at same
      obtain ⟨names, behind⟩ :=
        Text.append_cons_inj_of_first (noParenthesis kind) (noParenthesis kind') same
      have inside : lineAll children ++ ')' :: rest = lineAll children' ++ ')' :: rest' := by
        simpa using behind
      obtain ⟨rfl, rests⟩ := lineAll_append_inj below inside
      obtain rfl := Kind.name_injective (String.toList_inj.mp names)
      exact ⟨rfl, rests⟩

/-- Different trees are printed differently. -/
theorem display_inj {left right : Tree} : left.display = right.display ↔ left = right := by
  constructor
  · intro same
    have lines : left.line ++ [] = right.line ++ [] := by simp [line, same]
    exact (isSelfDelimiting left lines).1
  · exact congrArg display

/-! ### Trees on several lines -/

/-- The traversal that leaves out texts that stand beside other children. -/
def soleTextTraversal : Traversal Tree where
  text := .text
  combine := fun kind children =>
    .node kind ((children.filter fun child => child.1.isNode || children.length == 1).map Prod.snd)

/-- The tree without the texts that stand beside other children. -/
def withSoleTexts (tree : Tree) : Tree := tree.accept soleTextTraversal

/-- The children that are left: all nodes, and a text that stands alone. -/
def linedChildren (children : List Tree) : List Tree :=
  children.filter fun child => child.isNode || children.length == 1

/-- A text stays as it is. -/
theorem withSoleTexts_text (value : String) : (text value).withSoleTexts = text value := rfl

/-- A node keeps its nodes, and a text that stands alone. -/
theorem withSoleTexts_node (kind : Kind) (children : List Tree) :
    (node kind children).withSoleTexts = node kind ((linedChildren children).map withSoleTexts) := by
  rw [withSoleTexts, accept_node]
  simp [soleTextTraversal, linedChildren, List.filter_map, Function.comp_def, withSoleTexts]

/-- A text alone is printed on the line of its node. -/
theorem prettyAt_sole (depth : Nat) (kind : Kind) (value : String) :
    (prettyAt depth (node kind [text value])).toList =
      (indentation depth).toList ++ (node kind [text value]).line := by
  simp [prettyAt, line_node, lineAll_singleton, line_text]

/-- Otherwise the nodes among the children stand on lines of their own, a level deeper. -/
theorem prettyAt_nodes (depth : Nat) {kind : Kind} {children : List Tree}
    (notSole : ∀ value, children ≠ [text value]) :
    (prettyAt depth (node kind children)).toList =
      (indentation depth).toList ++ (kind.name.toList ++ ['(']) ++ '\n' ::
        ([',', '\n'].intercalate
            ((children.filter isNode).map fun child => (prettyAt (depth + 1) child).toList) ++
          '\n' :: ((indentation depth).toList ++ [')'])) := by
  rw [prettyAt]
  · simp [prettyNodes_eq_map, Function.comp_def]
  · exact notSole

/-- Where no text stands alone, the nodes are kept. -/
theorem linedChildren_of_not_sole {children : List Tree}
    (notSole : ∀ value, children ≠ [text value]) :
    linedChildren children = children.filter isNode := by
  unfold linedChildren
  by_cases single : children.length = 1
  · obtain ⟨child, rfl⟩ := List.length_eq_one_iff.mp single
    cases child with
    | text value => exact absurd rfl (notSole value)
    | node kind children => rfl
  · have several : (children.length == 1) = false := by simpa using single
    simp only [several, Bool.or_false]

/-- Where a tree starts a line at some depth, its lines are joined to the line of the tree that they
show. -/
def Rejoins (depth : Nat) (tree : Tree) : Prop :=
  ∀ rest, Text.joinLines ('\n' :: ((prettyAt depth tree).toList ++ rest)) =
    tree.withSoleTexts.line ++ Text.joinLines rest

/-- Behind its indentation, a text on one line is kept. -/
theorem joinLines_indented {plain : List Char} (depth : Nat) (rest : List Char)
    (solid : ∀ c ∈ (plain ++ rest).head?, c ≠ ' ') (noBreak : '\n' ∉ plain)
    (noComma : plain.getLast? ≠ some ',') :
    Text.joinLines ('\n' :: ((indentation depth).toList ++ (plain ++ rest))) =
      plain ++ Text.joinLines rest := by
  rw [indentation, String.toList_ofList, Text.joinLines_break_spaces, Text.joinLines_break_solid solid,
    Text.joinLines_append noBreak noComma]

/-- An indented line is joined to the line before it. -/
theorem joinLines_indented_line (tree : Tree) (depth : Nat) (rest : List Char) :
    Text.joinLines ('\n' :: ((indentation depth).toList ++ (tree.line ++ rest))) =
      tree.line ++ Text.joinLines rest := by
  refine joinLines_indented depth rest ?_ (break_not_mem_line tree) (getLast?_line_ne_comma tree)
  rintro c first rfl
  exact absurd (head_line first) (by decide)

/-- The first line of a node is its name with the opening parenthesis. -/
theorem joinLines_indented_name (kind : Kind) (depth : Nat) (rest : List Char) :
    Text.joinLines ('\n' :: ((indentation depth).toList ++ ((kind.name.toList ++ ['(']) ++ rest))) =
      (kind.name.toList ++ ['(']) ++ Text.joinLines rest := by
  have noBreak : '\n' ∉ kind.name.toList := kind.not_mem_name (by decide)
  refine joinLines_indented depth rest ?_ (by simp [noBreak]) (by simp)
  rintro c first rfl
  rw [List.append_assoc] at first
  exact absurd (Kind.isAlpha_head_name first) (by decide)

/-- The lines of several nodes are joined to their lines with commas between them. -/
theorem joinLines_lines {depth : Nat} {nodes : List Tree}
    (each : ∀ child ∈ nodes, child.Rejoins depth) (rest : List Char) :
    Text.joinLines ('\n' ::
        ([',', '\n'].intercalate (nodes.map fun child => (prettyAt depth child).toList) ++
          '\n' :: rest)) =
      lineAll (nodes.map withSoleTexts) ++ Text.joinLines ('\n' :: rest) := by
  induction nodes with
  | nil => exact Text.joinLines_break_solid (by simp)
  | cons child tail inductionHypothesis =>
    obtain ⟨first, later⟩ := List.forall_mem_cons.mp each
    cases tail with
    | nil =>
      rw [List.map_singleton, List.map_singleton, List.intercalate_singleton, lineAll_singleton]
      exact first _
    | cons next tail =>
      have others := inductionHypothesis later
      simp only [List.map_cons] at others ⊢
      rw [List.intercalate_cons_cons, lineAll_cons_cons, List.append_assoc, List.append_assoc, first,
        List.cons_append, List.cons_append, List.nil_append, Text.joinLines_comma_break, others]
      simp

/-- The lines of every tree are joined to its line, at every depth. By induction on the tree. A node with
a sole text stands on one line; any other puts each child on lines of its own, one level deeper, between a
line with its name and one with its parenthesis. -/
theorem rejoins (tree : Tree) (depth : Nat) : tree.Rejoins depth := by
  induction tree generalizing depth with
  | text value =>
    intro rest
    have indented : (prettyAt depth (text value)).toList =
        (indentation depth).toList ++ (text value).line := by simp [prettyAt, line_text]
    rw [indented, List.append_assoc, joinLines_indented_line, withSoleTexts_text]
  | node kind children below =>
    intro rest
    by_cases sole : ∃ value, children = [text value]
    · obtain ⟨value, rfl⟩ := sole
      have kept : (node kind [text value]).withSoleTexts = node kind [text value] := by
        rw [withSoleTexts_node]
        rfl
      rw [prettyAt_sole, List.append_assoc, joinLines_indented_line, kept]
    · have notSole : ∀ value, children ≠ [text value] := fun value same => sole ⟨value, same⟩
      have nodes : ∀ child ∈ children.filter isNode, child.Rejoins (depth + 1) :=
        fun child member => below child (List.mem_filter.mp member).1 (depth + 1)
      let start := (indentation depth).toList
      let lines := [',', '\n'].intercalate
        ((children.filter isNode).map fun child => (prettyAt (depth + 1) child).toList)
      have closed : Text.joinLines ('\n' :: (start ++ ([')'] ++ rest))) = ')' :: Text.joinLines rest :=
        joinLines_indented depth rest (by simp) (by simp) (by simp)
      calc Text.joinLines ('\n' :: ((prettyAt depth (node kind children)).toList ++ rest))
          = Text.joinLines ('\n' :: (start ++ ((kind.name.toList ++ ['(']) ++
              '\n' :: (lines ++ '\n' :: (start ++ ([')'] ++ rest)))))) := by
            simp [prettyAt_nodes depth notSole, start, lines]
        _ = (kind.name.toList ++ ['(']) ++
              Text.joinLines ('\n' :: (lines ++ '\n' :: (start ++ ([')'] ++ rest)))) :=
            joinLines_indented_name kind depth _
        _ = (kind.name.toList ++ ['(']) ++
              (lineAll ((children.filter isNode).map withSoleTexts) ++ ')' :: Text.joinLines rest) := by
            rw [joinLines_lines nodes, closed]
        _ = (node kind children).withSoleTexts.line ++ Text.joinLines rest := by
            simp [withSoleTexts_node, linedChildren_of_not_sole notSole, line_node]

/-- The first line of a tree is not indented. -/
theorem head_pretty {tree : Tree} {c : Char} (first : tree.pretty.toList.head? = some c) : c ≠ ' ' := by
  rintro rfl
  cases tree with
  | text value => simp [pretty, prettyAt, indentation, Text.toList_quoted] at first
  | node kind children =>
    by_cases sole : ∃ value, children = [text value]
    · obtain ⟨value, rfl⟩ := sole
      rw [pretty, prettyAt_sole, ← List.append_nil (line _)] at first
      exact absurd (head_line first) (by decide)
    · rw [pretty, prettyAt_nodes 0 fun value same => sole ⟨value, same⟩, List.append_assoc,
        List.append_assoc] at first
      exact absurd (Kind.isAlpha_head_name first) (by decide)

/-- A tree on several lines is joined to the line of the tree that the lines show. -/
theorem joinLines_pretty (tree : Tree) :
    Text.joinLines tree.pretty.toList = tree.withSoleTexts.line := by
  have joined := rejoins tree 0 []
  rw [← pretty, List.append_nil, Text.joinLines_break_solid fun c first => head_pretty first] at joined
  rw [joined, Text.joinLines, List.append_nil]

/-! ### Trees of which no text is left out -/

/-- The children are a text alone, or nodes. -/
def Unmixed (tree : Tree) : Prop :=
  (∃ value, tree.children = [text value]) ∨ ∀ child ∈ tree.children, child.isNode = true

/-- Nothing is left out exactly if the children are a text alone or nodes. -/
theorem linedChildren_eq_iff (kind : Kind) (children : List Tree) :
    linedChildren children = children ↔ (node kind children).Unmixed := by
  constructor
  · intro kept
    by_cases sole : ∃ value, children = [text value]
    · exact .inl sole
    · have notSole : ∀ value, children ≠ [text value] := fun value same => sole ⟨value, same⟩
      rw [linedChildren_of_not_sole notSole, List.filter_eq_self] at kept
      exact .inr kept
  · rintro (⟨value, rfl⟩ | nodes)
    · rfl
    · exact List.filter_eq_self.mpr fun child member => by simp [nodes child member]

/-- All texts are left exactly if no node within the tree has texts beside other children. -/
theorem withSoleTexts_eq_iff (tree : Tree) :
    tree.withSoleTexts = tree ↔ ∀ inner ∈ tree.subtrees, inner.Unmixed := by
  induction tree with
  | text value => simp [withSoleTexts_text, subtrees, Unmixed, children]
  | node kind children below =>
    rw [forall_mem_subtrees_node, ← linedChildren_eq_iff, withSoleTexts_node]
    constructor
    · intro same
      have fixed : (linedChildren children).map withSoleTexts = children := (Tree.node.inj same).2
      have kept : linedChildren children = children := by
        have lengths := congrArg List.length fixed
        rw [List.length_map] at lengths
        exact List.filter_sublist.eq_of_length lengths
      rw [kept] at fixed
      refine ⟨kept, fun child member => (below child member).mp ?_⟩
      exact List.map_inj_left.mp (fixed.trans (List.map_id children).symm) child member
    · rintro ⟨kept, within⟩
      have fixed : children.map withSoleTexts = children.map id :=
        List.map_inj_left.mpr fun child member => (below child member).mpr (within child member)
      rw [kept, fixed, List.map_id]

/-- A tree on one line is different from every other tree on one line. On several lines, it is the same
text with the lines broken behind parentheses and commas and indented, exactly if each node within it
has a text alone or only nodes. -/
theorem display_exact :
    (∀ left right : Tree, left.display = right.display ↔ left = right) ∧
      ∀ tree : Tree, Text.joinLines tree.pretty.toList = tree.display.toList ↔
        ∀ inner ∈ tree.subtrees, inner.Unmixed := by
  refine ⟨fun _ _ => display_inj, fun tree => ?_⟩
  have lines : tree.withSoleTexts.line = tree.display.toList ↔ tree.withSoleTexts = tree :=
    String.toList_inj.trans display_inj
  rw [joinLines_pretty, lines, withSoleTexts_eq_iff]

end Tree

end ContextualQuery
