import ContextualQuery.Proofs.Expression.Canonical
import ContextualQuery.Proofs.Expression.Derived
import ContextualQuery.Proofs.Expression.Searches

/-!
# The sides of a joined expression

A joined expression merges the operands of its sides, so that it does not say by itself where the left
side ends. The number of searches says it: expressions that queries ask for have searches at all their
leaves, so if the left sides of two equal joined expressions have as many searches, then both sides are
the same. No operand is merged that was not an operand of such a side.
-/

namespace ContextualQuery

namespace Expression

/-- An expression that a query can ask for: canonical, and not negated itself. -/
structure Settled (expression : Expression) : Prop where
  canonical : expression.Canonical
  plain : expression.mustNot = false

variable {operator : Operator} {left right left' right' : Expression}

/-- There is a search below every canonical expression. -/
theorem Canonical.searches_ne_nil {expression : Expression} (canonical : expression.Canonical) :
    expression.searches ≠ [] := by
  induction canonical with
  | search parts => simp [searches]
  | nested mustNot arranged each inductionHypothesis =>
    obtain ⟨first, rest, rfl⟩ :=
      List.exists_cons_of_length_pos (Nat.lt_of_lt_of_le Nat.zero_lt_two arranged.several)
    rw [searches, searchesAll]
    intro nothing
    exact inductionHypothesis first (by simp) (List.append_eq_nil_iff.mp nothing).1

/-- Operands with searches are cut by the number of their searches. One front is a prefix of the other,
and what it has more would bring further searches. -/
theorem append_inj_of_searches {front back front' back' : List Expression}
    (some : ∀ operand ∈ front, operand.searches ≠ [])
    (some' : ∀ operand ∈ front', operand.searches ≠ [])
    (sizes : (searchesAll front).length = (searchesAll front').length)
    (same : front ++ back = front' ++ back') : front = front' ∧ back = back' := by
  have empty_of_length : ∀ operands : List Expression,
      (∀ operand ∈ operands, operand.searches ≠ []) → (searchesAll operands).length = 0 →
        operands = [] := by
    intro operands some nothing
    cases operands with
    | nil => rfl
    | cons first rest =>
      rw [searchesAll, List.length_append] at nothing
      exact absurd (List.length_eq_zero_iff.mp (by omega)) (some first (by simp))
  have searchesAll_append : ∀ front back : List Expression,
      searchesAll (front ++ back) = searchesAll front ++ searchesAll back := by
    simp [searchesAll_eq_flatMap]
  rcases List.append_eq_append_iff.mp same with ⟨middle, rfl, rfl⟩ | ⟨middle, rfl, rfl⟩
  · obtain rfl : middle = [] := by
      apply empty_of_length
      · exact fun operand member => some' operand (List.mem_append_right _ member)
      · rw [searchesAll_append, List.length_append] at sizes
        omega
    simp
  · obtain rfl : middle = [] := by
      apply empty_of_length
      · exact fun operand member => some operand (List.mem_append_right _ member)
      · rw [searchesAll_append, List.length_append] at sizes
        omega
    simp

/-- A canonical expression is determined by the operands that it brings. -/
theorem Canonical.operandsUnder_inj (leftCanonical : left.Canonical)
    (leftCanonical' : left'.Canonical)
    (same : left.operandsUnder operator = left'.operandsUnder operator) : left = left' := by
  have several : ∀ {operands : List Expression} {sole : Expression},
      (Expression.nested operator operands false).Canonical → operands ≠ [sole] := by
    rintro operands sole (_ | ⟨_, arranged, _⟩) rfl
    exact absurd arranged.several (by simp)
  rcases operandsUnder_cases operator left with ⟨operands, rfl, brings⟩ | ⟨brings, _⟩
  · rcases operandsUnder_cases operator left' with ⟨operands', rfl, brings'⟩ | ⟨brings', _⟩
    · rw [brings, brings'] at same
      rw [same]
    · rw [brings, brings'] at same
      exact absurd same (several leftCanonical)
  · rcases operandsUnder_cases operator left' with ⟨operands', rfl, brings'⟩ | ⟨brings', _⟩
    · rw [brings, brings'] at same
      exact absurd same.symm (several leftCanonical')
    · rw [brings, brings'] at same
      exact List.singleton_inj.mp same

/-- What a left side brings is separated from what follows it by its number of searches. -/
theorem Canonical.separated (leftCanonical : left.Canonical) (leftCanonical' : left'.Canonical)
    (sizes : left.searches.length = left'.searches.length) {back back' : List Expression}
    (same : left.operandsUnder operator ++ back = left'.operandsUnder operator ++ back') :
    left = left' ∧ back = back' := by
  have someOf : ∀ {side : Expression}, side.Canonical →
      ∀ operand ∈ side.operandsUnder operator, operand.searches ≠ [] :=
    fun canonical operand member => (canonical.of_mem_operandsUnder member).searches_ne_nil
  obtain ⟨fronts, backs⟩ := append_inj_of_searches (someOf leftCanonical) (someOf leftCanonical')
    (by rwa [searchesAll_operandsUnder, searchesAll_operandsUnder]) same
  exact ⟨leftCanonical.operandsUnder_inj leftCanonical' fronts, backs⟩

/-- Both sides of a joined expression are determined by it and the size of the left one. -/
theorem Canonical.joined_inj (leftCanonical : left.Canonical) (leftCanonical' : left'.Canonical)
    (sizes : left.searches.length = left'.searches.length) (rightCanonical : right.Canonical)
    (rightCanonical' : right'.Canonical)
    (same : Expression.joined operator left right = Expression.joined operator left' right') :
    left = left' ∧ right = right' := by
  simp only [Expression.joined, Expression.nested.injEq, true_and, and_true] at same
  obtain ⟨lefts, rights⟩ := leftCanonical.separated leftCanonical' sizes same
  exact ⟨lefts, rightCanonical.operandsUnder_inj rightCanonical' rights⟩

/-! ### Links -/

/-- Negating a side does not change how many searches it has. -/
theorem length_searches_linkSide (boolean : Token) (side : Expression) :
    (linkSide boolean side).searches.length = side.searches.length := by
  rw [linkSide]
  split
  · cases side <;> rfl
  · rfl

/-- Linking two expressions keeps the number of their searches. -/
theorem length_searches_linked (boolean : Token) (left right : Expression) :
    (linked boolean left right).searches.length =
      left.searches.length + right.searches.length := by
  rw [linked, searches_joined, List.length_append, length_searches_linkSide]

/-- A query has the searches of its clauses. -/
theorem length_searches_linkedAfter (run : Expression) (links : List (Token × Expression)) :
    (linkedAfter run links).searches.length =
      run.searches.length + (links.flatMap fun link => link.2.searches).length := by
  induction links generalizing run with
  | nil => simp [linkedAfter]
  | cons link rest inductionHypothesis =>
    obtain ⟨boolean, next⟩ := link
    rw [linkedAfter, List.flatMap_cons, List.length_append]
    split
    · rw [length_searches_linked, inductionHypothesis]
    · rw [inductionHypothesis, length_searches_linked, Nat.add_assoc]

/-- A side is canonical also after it was negated. -/
theorem Settled.linkSide_canonical (settled : right.Settled) (boolean : Token) :
    (linkSide boolean right).Canonical := by
  rw [linkSide]
  split
  · exact settled.canonical.setMustNot true
  · exact settled.canonical

/-- Linking keeps expressions settled. -/
theorem Settled.linked (leftSettled : left.Settled) (rightSettled : right.Settled) {boolean : Token}
    (isBoolean : boolean.IsBoolean) : (linked boolean left right).Settled := by
  obtain ⟨plain, canonical⟩ := leftSettled.canonical.joinedBy rightSettled.canonical
    leftSettled.plain rightSettled.plain (joinedBy?_eq_linked isBoolean left right)
  exact ⟨canonical, plain⟩

/-- A side that is not negated is determined by what a boolean makes of it. -/
theorem Settled.linkSide_inj (settled : right.Settled) (settled' : right'.Settled)
    {boolean : Token} (same : linkSide boolean right = linkSide boolean right') : right = right' := by
  have restored : ∀ {side : Expression}, side.Settled → side.negated.setMustNot false = side := by
    intro side settled
    have plain := settled.plain
    cases side with
    | nested operator operands mustNot =>
      obtain rfl : mustNot = false := plain
      rfl
    | search parts =>
      obtain ⟨index?, relation?, term, boost?, mustNot⟩ := parts
      obtain rfl : mustNot = false := plain
      rfl
  simp only [linkSide] at same
  split at same
  · rw [← restored settled, ← restored settled', same]
  · exact same

/-- A linked expression determines its sides, if the left one has a known number of searches. -/
theorem Settled.linked_eq_linked_iff (leftSettled : left.Settled) (leftSettled' : left'.Settled)
    (sizes : left.searches.length = left'.searches.length) (rightSettled : right.Settled)
    (rightSettled' : right'.Settled) (boolean : Token) :
    Expression.linked boolean left right = Expression.linked boolean left' right' ↔
      left = left' ∧ right = right' := by
  constructor
  · intro same
    obtain ⟨lefts, rights⟩ := leftSettled.canonical.joined_inj leftSettled'.canonical sizes
      (rightSettled.linkSide_canonical boolean) (rightSettled'.linkSide_canonical boolean) same
    exact ⟨lefts, rightSettled.linkSide_inj rightSettled' rights⟩
  · rintro ⟨rfl, rfl⟩
    rfl

/-- An `or` among links is the operator of their expression. -/
theorem operator?_linkedAfter {run : Expression} {links : List (Token × Expression)}
    (hasOr : ¬ NoOr links) : (linkedAfter run links).operator? = some .or := by
  obtain ⟨link, member, isOr⟩ : ∃ link ∈ links, Text.lower link.1.text = "or" := by
    simpa [NoOr] using hasOr
  obtain ⟨front, back, rfl⟩ := List.append_of_mem member
  rw [linkedAfter_or isOr]
  rfl

/-- A run of links brings the operands of the run before it, and further ones if it has links. -/
theorem exists_operandsUnder_linkedAfter (run : Expression) {links : List (Token × Expression)}
    (noOr : NoOr links) (settled : ∀ link ∈ links, link.2.Settled) :
    ∃ more, (linkedAfter run links).operandsUnder .and = run.operandsUnder .and ++ more ∧
      (more = [] → links = []) := by
  induction links generalizing run with
  | nil => exact ⟨[], by simp [linkedAfter], fun _ => rfl⟩
  | cons link rest inductionHypothesis =>
    obtain ⟨boolean, next⟩ := link
    obtain ⟨notOr, restNoOr⟩ := List.forall_mem_cons.mp noOr
    obtain ⟨nextSettled, restSettled⟩ := List.forall_mem_cons.mp settled
    obtain ⟨more, brings, _⟩ := inductionHypothesis (linked boolean run next) restNoOr restSettled
    refine ⟨(linkSide boolean next).operandsUnder .and ++ more, ?_, ?_⟩
    · rw [linkedAfter_cons_run notOr, brings, linked_of_not_or notOr, operandsUnder_joined,
        List.append_assoc]
    · intro nothing
      have nextCanonical := nextSettled.linkSide_canonical boolean
      exact absurd (List.append_eq_nil_iff.mp nothing).1 (nextCanonical.operandsUnder_ne_nil .and)

end Expression

open Expression

/-- A tree asks for a settled expression. -/
theorem Tree.AsksFor.settled {tree : Tree} {expression : Expression}
    (asks : tree.AsksFor expression) : expression.Settled := by
  induction asks with
  | word value => exact ⟨.search _, rfl⟩
  | indexed name comparitor value => exact ⟨.search _, rfl⟩
  | boosted name comparitor value read => exact ⟨.search _, rfl⟩
  | cqlQuery _ inductionHypothesis => exact inductionHypothesis
  | group _ inductionHypothesis => exact inductionHypothesis
  | singleClause _ inductionHypothesis => exact inductionHypothesis
  | joinedClause isBoolean _ _ leftHypothesis rightHypothesis =>
    exact leftHypothesis.linked rightHypothesis isBoolean

end ContextualQuery
