import ContextualQuery.Proofs.Expression.Reports
import ContextualQuery.Proofs.Text.LetterCase
import ContextualQuery.Proofs.Tree.Documented

/-!
# Trees in the shapes of the grammar

Trees can be built directly, from parts of any kind. `Shaped` says that each part stands where the
grammar has it; it leaves open which booleans join clauses and which lists of modifiers a relation may
have. Of the trees in shape, those are normalized whose booleans are `and`, `or` and `not` and whose
lists of modifiers are a single one with a number for its value. The parser asks more of a modifier: it
must be a boost, with `=`, and its number finite and not negative. And of a tree out of shape only some
parts are checked for their kind, so that it may be normalized as well.
-/

namespace ContextualQuery

/-- The name, the comparitor and the value of a modifier. -/
structure ModifierParts where
  name : String
  comparitor : String
  value : String

/-- A modifier with its parts. -/
def ModifierParts.tree (parts : ModifierParts) : Tree :=
  .modifier (.identifier parts.name) (.comparitor parts.comparitor) (.term parts.value)

/-- The number is finite and not below zero. -/
def Binary64.isNonNegative : Binary64 → Bool
  | .finite negative magnitude => !negative || magnitude.significand == 0
  | _ => false

/-- A boolean that joins two clauses, in any letter case. -/
def IsJoining (operator : String) : Prop := Text.lower operator ∈ ["and", "or", "not"]

/-- The list is a single modifier whose value reads as a number, whatever its name and comparitor. -/
def IsNumbered (modifiers : List ModifierParts) : Prop :=
  ∃ name comparitor value, modifiers = [⟨name, comparitor, value⟩] ∧
    (Binary64.read? value).isSome = true

/-- The list is a single boost of a finite number that is not negative. -/
def IsBoosting (modifiers : List ModifierParts) : Prop :=
  ∃ value, modifiers = [⟨boostModifier, "=", value⟩] ∧
    (Binary64.read? value).any Binary64.isNonNegative = true

/-- A boost is a single modifier with a number. -/
theorem IsBoosting.isNumbered {modifiers : List ModifierParts} (isBoosting : IsBoosting modifiers) :
    IsNumbered modifiers := by
  obtain ⟨value, rfl, read⟩ := isBoosting
  exact ⟨_, _, value, rfl, Option.isSome_of_any read⟩

/-- Only `and`, `or` and `not` join two expressions. -/
theorem isSome_joinedBy?_iff {operator : String} {left right : Expression} :
    (Expression.joinedBy? operator left right).isSome = true ↔ operator ∈ ["and", "or", "not"] := by
  rw [Expression.joinedBy?]
  by_cases isAnd : operator = "and"
  · simp [isAnd]
  by_cases isOr : operator = "or"
  · simp [isOr]
  by_cases isNot : operator = "not"
  · simp [isNot]
  · simp [isAnd, isOr, isNot]

namespace Tree

/-- The tree is a query or a clause of the given kind in a shape of the grammar, and its booleans and
its lists of modifiers are as asked. -/
inductive Shaped (isBoolean : String → Prop) (isList : List ModifierParts → Prop) :
    Kind → Tree → Prop
  | word (value : String) :
      Shaped isBoolean isList .searchClause (searchClause (searchTerm (term value)))
  | indexed (name comparitor value : String) :
      Shaped isBoolean isList .searchClause (indexedSearchClause (index (term name))
        (relation (Tree.comparitor comparitor) none) (searchTerm (term value)))
  | modified (name comparitor value : String) {modifiers : List ModifierParts}
      (list : isList modifiers) :
      Shaped isBoolean isList .searchClause (indexedSearchClause (index (term name))
        (relation (Tree.comparitor comparitor) (some (modifierList (modifiers.map (·.tree)))))
        (searchTerm (term value)))
  | group {clause : Tree} (inner : Shaped isBoolean isList .scopedClause clause) :
      Shaped isBoolean isList .searchClause (group (Tree.cqlQuery clause))
  | singleClause {kind : Kind} {clause : Tree} (isOperand : kind.IsOperand)
      (inner : Shaped isBoolean isList kind clause) :
      Shaped isBoolean isList .scopedClause (singleClause clause)
  | joinedClause {leftKind rightKind : Kind} {left right : Tree} {operator : String}
      (leftIsOperand : leftKind.IsOperand) (boolean : isBoolean operator)
      (rightIsOperand : rightKind.IsOperand) (leftInner : Shaped isBoolean isList leftKind left)
      (rightInner : Shaped isBoolean isList rightKind right) :
      Shaped isBoolean isList .scopedClause (joinedClause left (Tree.boolean operator) right)
  | cqlQuery {clause : Tree} (inner : Shaped isBoolean isList .scopedClause clause) :
      Shaped isBoolean isList .cqlQuery (cqlQuery clause)

variable {isBoolean isBoolean' : String → Prop} {isList isList' : List ModifierParts → Prop}
  {kind : Kind} {tree : Tree}

/-- A tree with a shape is a node. -/
theorem Shaped.isNode (shaped : Shaped isBoolean isList kind tree) : tree.isNode = true := by
  cases shaped <;> rfl

/-- A shape with stricter booleans and modifiers is a shape. -/
theorem Shaped.mono (shaped : Shaped isBoolean isList kind tree)
    (booleans : ∀ operator, isBoolean operator → isBoolean' operator)
    (lists : ∀ modifiers, isList modifiers → isList' modifiers) :
    Shaped isBoolean' isList' kind tree := by
  induction shaped with
  | word value => exact .word value
  | indexed name comparitor value => exact .indexed name comparitor value
  | modified name comparitor value list => exact .modified name comparitor value (lists _ list)
  | group _ inner => exact .group inner
  | singleClause isOperand _ inner => exact .singleClause isOperand inner
  | joinedClause leftIsOperand boolean rightIsOperand _ _ left right =>
    exact .joinedClause leftIsOperand (booleans _ boolean) rightIsOperand left right
  | cqlQuery _ inner => exact .cqlQuery inner

/-- The modifiers of a clause in shape are as asked. -/
theorem Shaped.eq_modifiers {index comparitor term : Tree} {list : List Tree}
    (shaped : Shaped isBoolean isList kind
      (indexedSearchClause index (relation comparitor (some (modifierList list))) term)) :
    ∃ modifiers, isList modifiers ∧ list = modifiers.map (·.tree) := by
  generalize same : indexedSearchClause index _ term = tree at shaped
  cases shaped with
  | modified name comparitor value list =>
    simp only [indexedSearchClause, relation, modifierList, Option.toList_some, node.injEq,
      List.cons.injEq, true_and, and_true] at same
    exact ⟨_, list, same.2.1.2⟩
  | word | indexed | group | singleClause | joinedClause | cqlQuery =>
    simp [indexedSearchClause, relation, searchClause, Tree.group, Tree.singleClause,
      Tree.joinedClause, Tree.cqlQuery] at same

/-! ### What the shapes give -/

/-- A term gives its text. -/
theorem gives_term (value : String) : (term value).Gives (.text value) := .passed rfl (.text value)

/-- A search term gives the text of its term. -/
theorem gives_searchTerm (value : String) : (searchTerm (term value)).Gives (.text value) :=
  .passed rfl (gives_term value)

/-- An index gives the text of its term. -/
theorem gives_index (value : String) : (index (term value)).Gives (.text value) :=
  .passed rfl (gives_term value)

/-- A comparitor gives its text. -/
theorem gives_comparitor (value : String) : (comparitor value).Gives (.text value) :=
  .passed rfl (.text value)

/-- A boolean gives its text in lower case. -/
theorem gives_boolean (operator : String) : (boolean operator).Gives (.text (Text.lower operator)) :=
  .passed rfl (.text _)

/-- A tree gives one fragment at most. -/
theorem Gives.unique {first second : Fragment} (gives : tree.Gives first)
    (gives' : tree.Gives second) : first = second :=
  Except.ok.inj (((normalized_eq_ok_iff tree first).mpr gives).symm.trans
    ((normalized_eq_ok_iff tree second).mpr gives'))

variable {clause left right : Tree} {expression : Expression} {modifiers : List ModifierParts}

/-- A query gives what its clause gives. -/
theorem gives_cqlQuery :
    (cqlQuery clause).Gives (.expression expression) ↔ clause.Gives (.expression expression) := by
  constructor
  · intro gives
    cases gives with
    | passed _ inner => exact inner
  · exact .passed rfl

/-- A group gives what the clause of its query gives. -/
theorem gives_group :
    (group (cqlQuery clause)).Gives (.expression expression) ↔
      clause.Gives (.expression expression) := by
  constructor
  · intro gives
    cases gives with
    | passed passes => exact absurd passes (by decide)
    | group nodes _ inner =>
      obtain rfl : cqlQuery clause = _ := List.singleton_inj.mp nodes
      exact gives_cqlQuery.mp inner
    | word nodes isTerm =>
      obtain rfl : cqlQuery clause = _ := List.singleton_inj.mp nodes
      simp [cqlQuery, hasKind, kind?] at isTerm
    | indexed nodes => simp [cqlQuery, List.filter_cons] at nodes
  · intro gives
    exact .group rfl rfl (gives_cqlQuery.mpr gives)

/-- A clause that stands alone gives what its only part gives. -/
theorem gives_singleClause (isNode : clause.isNode = true) :
    (singleClause clause).Gives (.expression expression) ↔
      clause.Gives (.expression expression) := by
  constructor
  · intro gives
    cases gives with
    | passed passes => exact absurd passes (by decide)
    | single nodes inner =>
      obtain rfl : clause = _ := by simpa [isNode] using nodes
      exact inner
    | joined nodes => simp [isNode] at nodes
  · exact .single (by simp [isNode])

/-- Two clauses are joined by `and`, `or` or `not` alone. -/
theorem exists_gives_joinedClause {operator : String} (leftIsNode : left.isNode = true)
    (rightIsNode : right.isNode = true) :
    (∃ expression, (joinedClause left (boolean operator) right).Gives (.expression expression)) ↔
      (∃ expression, left.Gives (.expression expression)) ∧ IsJoining operator ∧
        ∃ expression, right.Gives (.expression expression) := by
  have nodes : [left, boolean operator, right].filter isNode = [left, boolean operator, right] := by
    simp [leftIsNode, rightIsNode, boolean]
  have joining (leftExpression rightExpression : Expression) :
      (Expression.joinedBy? (Text.lower (Text.lower operator)) leftExpression
        rightExpression).isSome = true ↔ IsJoining operator := by
    rw [Text.lower_lower, isSome_joinedBy?_iff, IsJoining]
  constructor
  · rintro ⟨expression, gives⟩
    cases gives with
    | single nodes' => simp [nodes] at nodes'
    | joined nodes' leftGives booleanGives rightGives isJoined =>
      rw [nodes] at nodes'
      obtain ⟨rfl, rfl, rfl⟩ : left = _ ∧ boolean operator = _ ∧ right = _ := by
        simpa using nodes'
      obtain rfl : Text.lower operator = _ :=
        Fragment.text.inj ((gives_boolean operator).unique booleanGives)
      exact ⟨⟨_, leftGives⟩, (joining _ _).mp (by rw [isJoined, Option.isSome_some]),
        ⟨_, rightGives⟩⟩
  · rintro ⟨⟨leftExpression, leftGives⟩, isJoining, rightExpression, rightGives⟩
    obtain ⟨joined, isJoined⟩ := Option.isSome_iff_exists.mp ((joining _ _).mpr isJoining)
    exact ⟨joined, .joined nodes leftGives (gives_boolean operator) rightGives isJoined⟩

/-- The value of the only modifier is its term. -/
theorem soleValue?_modifierList {number : Tree} :
    (modifierList (modifiers.map (·.tree))).soleValue? = some number ↔
      ∃ parts, modifiers = [parts] ∧ number = term parts.value := by
  rcases modifiers with _ | ⟨parts, _ | ⟨next, rest⟩⟩
  · simp [modifierList, soleValue?, childNodes, Tree.children]
  · have sole : (modifierList [parts.tree]).soleValue? = some (term parts.value) := rfl
    simp [sole, eq_comm]
  · simp [modifierList, soleValue?, childNodes, Tree.children, ModifierParts.tree, modifier,
      List.filter_cons]

/-- A clause with modifiers asks for a term if there is one modifier and its value is a number. -/
theorem exists_gives_modified {name comparitor value : String} :
    (∃ expression, (indexedSearchClause (index (term name))
      (relation (Tree.comparitor comparitor) (some (modifierList (modifiers.map (·.tree)))))
      (searchTerm (term value))).Gives (.expression expression)) ↔ IsNumbered modifiers := by
  constructor
  · rintro ⟨expression, gives⟩
    cases gives with
    | indexed nodes isIndex indexGives relationGives termGives =>
      simp only [index, relation, searchTerm, List.filter_cons, isNode_node, if_true,
        List.filter_nil, List.cons.injEq] at nodes
      obtain ⟨-, rfl, -⟩ := nodes
      cases relationGives with
      | relation first second => simp [child?, Tree.children, modifierList] at second
      | boosted first second third inner numberGives read =>
        obtain rfl : modifierList _ = _ := Option.some.inj second
        obtain ⟨parts, rfl, rfl⟩ := soleValue?_modifierList.mp third
        obtain rfl : parts.value = _ :=
          Fragment.text.inj ((gives_term parts.value).unique numberGives)
        exact ⟨_, _, _, rfl, by rw [read, Option.isSome_some]⟩
    | group nodes => simp [index, relation, searchTerm, List.filter_cons] at nodes
    | word nodes => simp [index, relation, searchTerm, List.filter_cons] at nodes
  · rintro ⟨_, _, digits, rfl, isSome⟩
    obtain ⟨boost, read⟩ := Option.isSome_iff_exists.mp isSome
    exact ⟨_, .indexed rfl rfl (gives_index name)
      (.boosted rfl rfl rfl (gives_comparitor comparitor) (gives_term digits) read)
      (gives_searchTerm value)⟩

/-- A tree in shape that gives an expression has joining booleans and one modifier with a number in each
list, whatever else is asked of them. -/
theorem Shaped.of_gives (shaped : Shaped isBoolean isList kind tree)
    (gives : tree.Gives (.expression expression)) : Shaped IsJoining IsNumbered kind tree := by
  induction shaped generalizing expression with
  | word value => exact .word value
  | indexed name comparitor value => exact .indexed name comparitor value
  | modified name comparitor value _ =>
    exact .modified name comparitor value (exists_gives_modified.mp ⟨_, gives⟩)
  | group _ inner => exact .group (inner (gives_group.mp gives))
  | singleClause isOperand shaped inner =>
    exact .singleClause isOperand (inner ((gives_singleClause shaped.isNode).mp gives))
  | joinedClause leftIsOperand _ rightIsOperand leftShaped rightShaped left right =>
    obtain ⟨⟨_, leftGives⟩, isJoining, _, rightGives⟩ :=
      (exists_gives_joinedClause leftShaped.isNode rightShaped.isNode).mp ⟨_, gives⟩
    exact .joinedClause leftIsOperand isJoining rightIsOperand (left leftGives) (right rightGives)
  | cqlQuery _ inner => exact .cqlQuery (inner (gives_cqlQuery.mp gives))

/-- With such booleans and modifiers, a tree in shape gives an expression. -/
theorem Shaped.exists_gives (shaped : Shaped IsJoining IsNumbered kind tree) :
    ∃ expression, tree.Gives (.expression expression) := by
  induction shaped with
  | word value => exact ⟨_, .word rfl rfl (gives_searchTerm value)⟩
  | indexed name comparitor value =>
    exact ⟨_, .indexed rfl rfl (gives_index name) (.relation rfl rfl (gives_comparitor comparitor))
      (gives_searchTerm value)⟩
  | modified name comparitor value list => exact exists_gives_modified.mpr list
  | group _ inner =>
    obtain ⟨expression, gives⟩ := inner
    exact ⟨expression, gives_group.mpr gives⟩
  | singleClause _ shaped inner =>
    obtain ⟨expression, gives⟩ := inner
    exact ⟨expression, (gives_singleClause shaped.isNode).mpr gives⟩
  | joinedClause _ isJoining _ leftShaped rightShaped left right =>
    exact (exists_gives_joinedClause leftShaped.isNode rightShaped.isNode).mpr
      ⟨left, isJoining, right⟩
  | cqlQuery _ inner =>
    obtain ⟨expression, gives⟩ := inner
    exact ⟨expression, gives_cqlQuery.mpr gives⟩

/-- Which trees are normalized. An expression is found exactly if the tree gives one, and otherwise a
malformed tree within is reported. So a tree in a shape of the grammar asks for an expression exactly if
its booleans are `and`, `or` and `not` and each of its lists of modifiers is a single one with a number as
its value; above all if each of them is a boost.

Proof: what normalizing finds is what the tree gives, and what it reports is malformed within. A tree in a
shape of the grammar gives an expression part by part, if its booleans and modifiers have a meaning. -/
theorem toExpression_shapes (tree : Tree) :
    (∀ expression, tree.toExpression = .ok expression ↔ tree.Gives (.expression expression)) ∧
      (∀ error, tree.toExpression = .error error → tree.Reports error) ∧
      (∀ kind, Shaped (fun _ => True) (· ≠ []) kind tree →
        ((∃ expression, tree.toExpression = .ok expression) ↔
          Shaped IsJoining IsNumbered kind tree)) ∧
      ∀ kind, Shaped IsJoining IsBoosting kind tree →
        ∃ expression, tree.toExpression = .ok expression := by
  have toExpression_iff (expression : Expression) :
      tree.toExpression = .ok expression ↔ tree.Gives (.expression expression) :=
    toExpression_eq_ok_iff.trans (normalized_eq_ok_iff tree _)
  refine ⟨toExpression_iff, fun error => reports_of_toExpression, fun kind shaped => ?_,
    fun kind shaped => ?_⟩
  · simp only [toExpression_iff]
    constructor
    · rintro ⟨expression, gives⟩
      exact shaped.of_gives gives
    · exact Shaped.exists_gives
  · simp only [toExpression_iff]
    exact (shaped.mono (fun _ => id) fun _ => IsBoosting.isNumbered).exists_gives

/-- A boost may stand once behind a comparitor. Twice, it is still in a shape of the grammar, and it is
reported. -/
theorem toExpression_shapes_boosted :
    ∃ clause : List ModifierParts → Tree, ∃ boost : ModifierParts, ∃ query,
      clause = (fun modifiers => indexedSearchClause (index (term "title"))
        (relation (comparitor "=") (some (modifierList (modifiers.map (·.tree)))))
        (searchTerm (term "dune"))) ∧
      boost = ⟨boostModifier, "=", "1.5"⟩ ∧
      query = cqlQuery (joinedClause (clause [boost]) (boolean "not") (singleClause (clause [boost]))) ∧
      Shaped IsJoining IsBoosting .cqlQuery query ∧
      (∃ expression, query.toExpression = .ok expression) ∧
      Shaped (fun _ => True) (· ≠ []) .searchClause (clause [boost, boost]) ∧
      ∃ error, (clause [boost, boost]).toExpression = .error error ∧
        (clause [boost, boost]).Reports error := by
  let boost : ModifierParts := ⟨boostModifier, "=", "1.5"⟩
  have isBoosting : IsBoosting [boost] := ⟨"1.5", rfl, by decide⟩
  have isJoining : IsJoining "not" := by
    rw [IsJoining, Token.lower_stable "not" (by simp)]
    simp
  have operand : Kind.IsOperand .searchClause ∧ Kind.IsOperand .scopedClause := by
    simp [Kind.IsOperand]
  refine ⟨_, boost, _, rfl, rfl, rfl, ?_⟩
  have shaped : Shaped IsJoining IsBoosting .cqlQuery (cqlQuery (joinedClause _ _ (singleClause _))) :=
    .cqlQuery (.joinedClause operand.1 isJoining operand.2 (.modified "title" "=" "dune" isBoosting)
      (.singleClause operand.1 (.modified "title" "=" "dune" isBoosting)))
  have twice : Shaped (fun _ => True) (· ≠ []) .searchClause (indexedSearchClause _ _ _) :=
    .modified "title" "=" "dune" (List.cons_ne_nil boost [boost])
  refine ⟨shaped, (toExpression_shapes _).2.2.2 _ shaped, twice, ?_⟩
  cases found : (indexedSearchClause _ _ _).toExpression with
  | ok expression =>
    have numbered := ((toExpression_shapes _).2.2.1 _ twice).mp ⟨expression, found⟩
    obtain ⟨_, ⟨_, _, _, rfl, -⟩, same⟩ := numbered.eq_modifiers
    simp at same
  | error error => exact ⟨error, rfl, (toExpression_shapes _).2.1 error found⟩

/-- A clause with a term in the place of its search term. -/
def looseClause : Tree :=
  indexedSearchClause (index (term "title")) (relation (comparitor "=") none) (term "dune")

/-- A clause with a modifier that is no boost. -/
def relevanceClause : Tree :=
  indexedSearchClause (index (term "title"))
    (relation (comparitor "=")
      (some (modifierList [modifier (identifier "relevance") (comparitor "<") (term "-1")])))
    (searchTerm (term "dune"))

/-- A kind in a wrong place and a modifier that is no boost go unnoticed: neither clause has a shape
that is documented, and both are normalized. -/
theorem toExpression_misshapen :
    ((∃ expression, looseClause.toExpression = .ok expression) ∧
      ¬ ∃ kind, Shaped IsJoining IsBoosting kind looseClause) ∧
    (∃ expression, relevanceClause.toExpression = .ok expression) ∧
      ¬ ∃ kind, Shaped IsJoining IsBoosting kind relevanceClause := by
  refine ⟨⟨?_, ?_⟩, ?_, ?_⟩
  · exact ⟨.search { index? := some "title", relation? := some "=", term := "dune" }, rfl⟩
  · rintro ⟨kind, shaped⟩
    cases shaped
  · have isNumbered : IsNumbered [⟨"relevance", "<", "-1"⟩] := ⟨_, _, _, rfl, by decide⟩
    have numbered : Shaped IsJoining IsNumbered .searchClause relevanceClause :=
      .modified _ _ _ isNumbered
    obtain ⟨expression, gives⟩ := numbered.exists_gives
    exact ⟨expression, toExpression_eq_ok_iff.mpr ((normalized_eq_ok_iff _ _).mpr gives)⟩
  · rintro ⟨kind, shaped⟩
    obtain ⟨_, ⟨value, rfl, -⟩, same⟩ := shaped.eq_modifiers
    simp [ModifierParts.tree, modifier, identifier, boostModifier] at same

end Tree

end ContextualQuery
