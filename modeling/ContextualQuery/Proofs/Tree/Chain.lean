import ContextualQuery.Tree.Chain
import Mathlib.Data.List.Basic

/-!
# The tree of a chain

A tree of scoped clauses is read from the left through its scoped clauses, and gives the clauses and
the booleans that it joins. The tree of a chain gives the chain itself, in which nothing is lost,
repeated or moved. It respects precedence: an `or` stands below nothing but an `or`, the runs between
them lean to the left, and the `or` themselves lean to the right. And a single scoped clause holds one
clause, which is the last of the chain.

No other tree has these properties. Without the scoped clause around the last clause, the tree is
determined by the order of its parts and by precedence alone: its topmost boolean has to be the first
`or`, or the last boolean if there is no `or`. The clause that stands alone is then the only freedom
that is left, and it is the last one.
-/

namespace ContextualQuery.Tree

/-! ### Scoped clauses -/

/-- The tree is a scoped clause that holds one clause. -/
def isSingle : Tree → Bool
  | .node .scopedClause [_] => true
  | _ => false

/-- The tree is a scoped clause that joins two clauses. -/
def isJoined : Tree → Bool
  | .node .scopedClause [_, _, _] => true
  | _ => false

/-- The tree is a scoped clause that joins two clauses with an `or`. -/
def isOrClause : Tree → Bool
  | .node .scopedClause [_, boolean, _] => boolean.text? == some "or"
  | _ => false

/-- The clauses and booleans that a tree joins, from the left, read through its scoped clauses. -/
def inOrder : Tree → List Tree
  | .node .scopedClause [clause] => inOrder clause
  | .node .scopedClause [left, boolean, right] => inOrder left ++ boolean :: inOrder right
  | tree => [tree]

/-- The scoped clauses that a tree is read through, each before those below it. -/
def scopes : Tree → List Tree
  | .node .scopedClause [clause] => .node .scopedClause [clause] :: scopes clause
  | .node .scopedClause [left, boolean, right] =>
    .node .scopedClause [left, boolean, right] :: (scopes left ++ scopes right)
  | _ => []

/-- The operand that stands last in a tree. -/
def lastOperand : Tree → Tree
  | .node .scopedClause [_, _, right] => lastOperand right
  | tree => tree

/-- The operands of a joined clause may stand there without parentheses. No left operand joins by
`or`; behind another boolean than `or`, the right operand joins nothing, be it by `or` or not. -/
def Binds : Tree → Prop
  | .node .scopedClause [left, boolean, right] =>
    if boolean.text? = some "or" then left.isOrClause = false
    else left.isOrClause = false ∧ right.isOrClause = false ∧ right.isJoined = false
  | _ => True

/-- The clauses and booleans of a chain. -/
def sequence (head : Tree) (links : List Link) : List Tree :=
  head :: links.flatMap fun link => [link.1, link.2]

/-- The last clause of a chain. -/
def lastClause (head : Tree) : List Link → Tree
  | [] => head
  | link :: rest => lastClause link.2 rest

/-- The tree is a folded form of a chain. It holds the clauses and booleans of the chain in their
order, respects precedence, and has exactly one scoped clause with a single clause, around the last
clause. -/
structure Folds (head : Tree) (links : List Link) (tree : Tree) : Prop where
  reads : tree.inOrder = sequence head links
  binds : ∀ scope ∈ tree.scopes, scope.Binds
  wrapsOnce : tree.scopes.countP isSingle = 1
  wrapsLast : tree.lastOperand = singleClause (lastClause head links)

/-- To show a property of all trees, it is enough to show it of scoped clauses with a single clause
and of joined clauses whenever their operands have it, and of all other trees. -/
theorem scoped_induct {motive : Tree → Prop}
    (single : ∀ clause, motive clause → motive (singleClause clause))
    (joined : ∀ left boolean right, motive left → motive right →
      motive (joinedClause left boolean right))
    (other : ∀ tree, tree.isSingle = false → tree.isJoined = false → motive tree)
    (tree : Tree) : motive tree := by
  induction tree using inOrder.induct with
  | case1 clause inner => exact single clause inner
  | case2 left boolean right leftInner rightInner =>
    exact joined left boolean right leftInner rightInner
  | case3 tree notSingle notJoined =>
    apply other
    · rw [isSingle]
      exact notSingle
    · rw [isJoined]
      exact notJoined

section Equations

variable {tree clause left boolean right : Tree}

/-- A clause that stands alone is a scoped clause with one part. -/
@[simp] theorem isSingle_singleClause : (singleClause clause).isSingle = true := rfl

/-- Joined clauses are no scoped clause with one part. -/
@[simp] theorem isSingle_joinedClause : (joinedClause left boolean right).isSingle = false := rfl

/-- A clause that stands alone joins nothing. -/
@[simp] theorem isJoined_singleClause : (singleClause clause).isJoined = false := rfl

/-- A clause that stands alone joins no operands that could need parentheses. -/
@[simp] theorem binds_singleClause : (singleClause clause).Binds := trivial

/-- Joined clauses are an `or` clause exactly if their boolean is an `or`. -/
@[simp] theorem isOrClause_joinedClause :
    (joinedClause left boolean right).isOrClause = isOrLink (boolean, right) := rfl

/-- A clause that stands alone is read as its only part. -/
@[simp] theorem inOrder_singleClause : (singleClause clause).inOrder = clause.inOrder := by
  rw [singleClause, inOrder]

/-- Joined clauses are read from the left side over the boolean to the right side. -/
@[simp] theorem inOrder_joinedClause :
    (joinedClause left boolean right).inOrder = left.inOrder ++ boolean :: right.inOrder := by
  rw [joinedClause, inOrder]

/-- A clause that stands alone is read through, and then its part. -/
@[simp] theorem scopes_singleClause :
    (singleClause clause).scopes = singleClause clause :: clause.scopes := by
  rw [singleClause, scopes]

/-- Joined clauses are read through, and then both sides. -/
@[simp] theorem scopes_joinedClause :
    (joinedClause left boolean right).scopes =
      joinedClause left boolean right :: (left.scopes ++ right.scopes) := by
  rw [joinedClause, scopes]

/-- A clause that stands alone is its own last operand. -/
theorem lastOperand_singleClause : (singleClause clause).lastOperand = singleClause clause := by
  rw [singleClause, lastOperand]
  simp

/-- The last operand of joined clauses is that of the right side. -/
@[simp] theorem lastOperand_joinedClause :
    (joinedClause left boolean right).lastOperand = right.lastOperand := by
  rw [joinedClause, lastOperand]

/-- What joins nothing is its own last operand. -/
theorem lastOperand_of_not_isJoined (notJoined : tree.isJoined = false) :
    tree.lastOperand = tree := by
  rw [lastOperand]
  rintro _ _ _ rfl
  simp [isJoined] at notJoined

/-- What is no scoped clause is read as a whole. -/
theorem inOrder_of_unscoped (notSingle : tree.isSingle = false) (notJoined : tree.isJoined = false) :
    tree.inOrder = [tree] := by
  rw [inOrder]
  · rintro _ rfl
    simp [isSingle] at notSingle
  · rintro _ _ _ rfl
    simp [isJoined] at notJoined

/-- What is no scoped clause is read through none. -/
theorem scopes_of_unscoped (notSingle : tree.isSingle = false) (notJoined : tree.isJoined = false) :
    tree.scopes = [] := by
  rw [scopes]
  · rintro _ rfl
    simp [isSingle] at notSingle
  · rintro _ _ _ rfl
    simp [isJoined] at notJoined

/-- What joins nothing is no `or` clause. -/
theorem isOrClause_of_not_isJoined (notJoined : tree.isJoined = false) :
    tree.isOrClause = false := by
  rw [isOrClause]
  rintro _ _ _ rfl
  simp [isJoined] at notJoined

/-- A search clause is no scoped clause. -/
theorem unscoped_of_hasKind (isClause : clause.hasKind .searchClause = true) :
    clause.isSingle = false ∧ clause.isJoined = false := by
  cases clause with
  | text value => exact ⟨rfl, rfl⟩
  | node kind children =>
    obtain rfl : kind = .searchClause := by simpa [hasKind, kind?] using isClause
    exact ⟨rfl, rfl⟩

end Equations

/-! ### Sequences of clauses and booleans -/

/-- A clause and booleans with a clause each can be told from their sequence. -/
theorem sequence_inj {head head' : Tree} {links links' : List Link} :
    sequence head links = sequence head' links' ↔ head = head' ∧ links = links' := by
  constructor
  · intro same
    obtain ⟨sameHead, sameLinks⟩ := List.cons.inj same
    refine ⟨sameHead, ?_⟩
    clear same sameHead
    induction links generalizing links' with
    | nil =>
      cases links' with
      | nil => rfl
      | cons link rest => simp at sameLinks
    | cons link rest inductionHypothesis =>
      cases links' with
      | nil => simp at sameLinks
      | cons link' rest' =>
        simp only [List.flatMap_cons, List.cons_append, List.nil_append, List.cons.injEq] at sameLinks
        obtain ⟨sameBoolean, sameClause, sameRest⟩ := sameLinks
        rw [inductionHypothesis sameRest, Prod.ext sameBoolean sameClause]
  · rintro ⟨rfl, rfl⟩
    rfl

/-- Two chains around a boolean are one chain. -/
theorem sequence_append {head boolean next : Tree} {front back : List Link} :
    sequence head front ++ boolean :: sequence next back =
      sequence head (front ++ (boolean, next) :: back) := by
  simp [sequence]

/-! ### Joining without the scoped clause around the last clause -/

/-- The tree of the links that follow a run, if the last clause needs no scoped clause. -/
def joinAfter (run : Tree) : List Link → Tree
  | [] => run
  | (boolean, clause) :: rest =>
    if isOrLink (boolean, clause) then joinedClause run boolean (joinAfter clause rest)
    else joinAfter (joinedClause run boolean clause) rest

/-- A chain is joined after its last clause was put into a scoped clause. -/
theorem chainAfter_concat (run boolean clause : Tree) (front : List Link) :
    chainAfter run (front ++ [(boolean, clause)]) =
      joinAfter run (front ++ [(boolean, singleClause clause)]) := by
  induction front generalizing run with
  | nil => simp [chainAfter, joinAfter, isOrLink]
  | cons link rest inductionHypothesis =>
    have more : (rest ++ [(boolean, clause)]).isEmpty = false := by simp
    rw [List.cons_append, List.cons_append, chainAfter, joinAfter, more, inductionHypothesis,
      inductionHypothesis]
    rfl

section Joining

variable {run boolean clause : Tree} {front back links : List Link}

/-- An `or` ends the run, and what follows is joined by itself. -/
theorem joinAfter_cons_or (isOr : isOrLink (boolean, clause) = true) :
    joinAfter run ((boolean, clause) :: back) = joinedClause run boolean (joinAfter clause back) := by
  rw [joinAfter, if_pos isOr]

/-- A boolean other than `or` goes on with the run. -/
theorem joinAfter_cons_run (notOr : isOrLink (boolean, clause) = false) :
    joinAfter run ((boolean, clause) :: back) = joinAfter (joinedClause run boolean clause) back := by
  rw [joinAfter, if_neg (by simp [notOr])]

/-- Links without an `or` before others make a run that the others continue. -/
theorem joinAfter_append (noOr : ∀ link ∈ front, isOrLink link = false) :
    joinAfter run (front ++ back) = joinAfter (joinAfter run front) back := by
  induction front generalizing run with
  | nil => rfl
  | cons link rest inductionHypothesis =>
    obtain ⟨notOr, restNoOr⟩ := List.forall_mem_cons.mp noOr
    rw [List.cons_append, joinAfter_cons_run notOr, joinAfter_cons_run notOr,
      inductionHypothesis restNoOr]

/-- An `or` among the links joins the whole tree. -/
theorem isOrClause_joinAfter (run : Tree) (hasOr : ∃ link ∈ links, isOrLink link = true) :
    (joinAfter run links).isOrClause = true := by
  induction links generalizing run with
  | nil => simp at hasOr
  | cons link rest inductionHypothesis =>
    obtain ⟨boolean, clause⟩ := link
    by_cases isOr : isOrLink (boolean, clause) = true
    · rw [joinAfter_cons_or isOr]
      exact isOr
    · rw [joinAfter_cons_run (Bool.eq_false_iff.mpr isOr)]
      exact inductionHypothesis _ (by simpa [isOr] using hasOr)

/-- A joined run stays joined, whatever follows. -/
theorem isJoined_joinAfter_of_isJoined (isJoined : run.isJoined = true) :
    (joinAfter run links).isJoined = true := by
  induction links generalizing run with
  | nil => exact isJoined
  | cons link rest inductionHypothesis =>
    rw [joinAfter]
    split
    · rfl
    · exact inductionHypothesis rfl

/-- A tree of links joins something. -/
theorem isJoined_joinAfter (run : Tree) (some : links ≠ []) :
    (joinAfter run links).isJoined = true := by
  cases links with
  | nil => exact absurd rfl some
  | cons link rest =>
    rw [joinAfter]
    split
    · rfl
    · exact isJoined_joinAfter_of_isJoined rfl

/-- Joining a run with links keeps the clauses and booleans in their order. -/
theorem inOrder_joinAfter :
    (joinAfter run links).inOrder =
      run.inOrder ++ links.flatMap fun link => link.1 :: link.2.inOrder := by
  induction links generalizing run with
  | nil => simp [joinAfter]
  | cons link rest inductionHypothesis =>
    rw [joinAfter, List.flatMap_cons]
    split
    · simp [inductionHypothesis]
    · simp [inductionHypothesis]

/-- No scoped clause with a single clause comes about by joining. -/
theorem countP_isSingle_joinAfter :
    (joinAfter run links).scopes.countP isSingle =
      run.scopes.countP isSingle + (links.flatMap fun link => link.2.scopes).countP isSingle := by
  induction links generalizing run with
  | nil => simp [joinAfter]
  | cons link rest inductionHypothesis =>
    rw [joinAfter, List.flatMap_cons, List.countP_append]
    split
    · rw [scopes_joinedClause, List.countP_cons_of_neg (by simp), List.countP_append,
        inductionHypothesis]
    · rw [inductionHypothesis, scopes_joinedClause, List.countP_cons_of_neg (by simp),
        List.countP_append, Nat.add_assoc]

/-- The last operand of a joined run is that of its last clause. -/
theorem lastOperand_joinAfter :
    (joinAfter run links).lastOperand = (lastClause run links).lastOperand := by
  induction links generalizing run with
  | nil => rfl
  | cons link rest inductionHypothesis =>
    rw [joinAfter, lastClause]
    split
    · rw [lastOperand_joinedClause, inductionHypothesis]
    · rw [inductionHypothesis]
      cases rest with
      | nil => exact lastOperand_joinedClause
      | cons next rest => rfl

/-- Joining respects precedence, if no part that is joined is a joined clause itself. -/
theorem binds_joinAfter (runBinds : ∀ scope ∈ run.scopes, scope.Binds)
    (runNoOr : run.isOrClause = false)
    (binds : ∀ link ∈ links, ∀ scope ∈ link.2.scopes, scope.Binds)
    (plain : ∀ link ∈ links, link.2.isJoined = false) :
    ∀ scope ∈ (joinAfter run links).scopes, scope.Binds := by
  induction links generalizing run with
  | nil => exact runBinds
  | cons link rest inductionHypothesis =>
    obtain ⟨boolean, clause⟩ := link
    obtain ⟨clauseBinds, restBinds⟩ := List.forall_mem_cons.mp binds
    obtain ⟨clausePlain, restPlain⟩ := List.forall_mem_cons.mp plain
    have clauseNoOr := isOrClause_of_not_isJoined clausePlain
    by_cases isOr : isOrLink (boolean, clause) = true
    · rw [joinAfter_cons_or isOr, scopes_joinedClause, List.forall_mem_cons,
        List.forall_mem_append]
      refine ⟨?_, runBinds, inductionHypothesis clauseBinds clauseNoOr restBinds restPlain⟩
      rw [joinedClause, Binds, if_pos (by simpa [isOrLink] using isOr)]
      exact runNoOr
    · have notOr := Bool.eq_false_iff.mpr isOr
      rw [joinAfter_cons_run notOr]
      refine inductionHypothesis ?_ notOr restBinds restPlain
      rw [scopes_joinedClause, List.forall_mem_cons, List.forall_mem_append]
      refine ⟨?_, runBinds, clauseBinds⟩
      rw [joinedClause, Binds, if_neg (by simpa [isOrLink] using isOr)]
      exact ⟨runNoOr, clauseNoOr, clausePlain⟩

end Joining

/-! ### The only tree that respects precedence -/

/-- What a tree joins, from the left. A scoped clause with a single clause is a part by itself. -/
def joinedParts : Tree → List Tree
  | .node .scopedClause [left, boolean, right] => joinedParts left ++ boolean :: joinedParts right
  | tree => [tree]

section Unique

variable {tree head left boolean right clause : Tree} {links : List Link}

/-- The parts of joined clauses are those of both sides, with the boolean in between. -/
@[simp] theorem joinedParts_joinedClause :
    (joinedClause left boolean right).joinedParts =
      left.joinedParts ++ boolean :: right.joinedParts := by
  rw [joinedClause, joinedParts]

/-- What joins nothing is its only part. -/
theorem joinedParts_of_not_isJoined (notJoined : tree.isJoined = false) :
    tree.joinedParts = [tree] := by
  rw [joinedParts]
  rintro _ _ _ rfl
  simp [isJoined] at notJoined

/-- A tree joins a clause, and booleans with a clause each. -/
theorem exists_sequence_joinedParts (tree : Tree) :
    ∃ first links, tree.joinedParts = sequence first links := by
  induction tree using scoped_induct with
  | single clause _ => exact ⟨_, [], joinedParts_of_not_isJoined rfl⟩
  | joined left boolean right leftHypothesis rightHypothesis =>
    obtain ⟨first, front, leftParts⟩ := leftHypothesis
    obtain ⟨next, back, rightParts⟩ := rightHypothesis
    refine ⟨first, front ++ (boolean, next) :: back, ?_⟩
    rw [joinedParts_joinedClause, leftParts, rightParts, sequence_append]
  | other tree _ notJoined => exact ⟨_, [], joinedParts_of_not_isJoined notJoined⟩

/-- A tree that respects precedence is determined by what it joins. Its topmost boolean cuts the
links in two: before it there is no `or`, and behind it there is nothing unless it is an `or`. -/
theorem eq_joinAfter (binds : ∀ scope ∈ tree.scopes, scope.Binds)
    (parts : tree.joinedParts = sequence head links) : tree = joinAfter head links := by
  induction tree using scoped_induct generalizing head links with
  | single clause _ =>
    rw [joinedParts_of_not_isJoined rfl] at parts
    change sequence _ [] = _ at parts
    obtain ⟨rfl, rfl⟩ := sequence_inj.mp parts
    rfl
  | other tree _ notJoined =>
    rw [joinedParts_of_not_isJoined notJoined] at parts
    change sequence _ [] = _ at parts
    obtain ⟨rfl, rfl⟩ := sequence_inj.mp parts
    rfl
  | joined left boolean right leftHypothesis rightHypothesis =>
    obtain ⟨first, front, leftParts⟩ := exists_sequence_joinedParts left
    obtain ⟨next, back, rightParts⟩ := exists_sequence_joinedParts right
    rw [joinedParts_joinedClause, leftParts, rightParts, sequence_append] at parts
    obtain ⟨rfl, rfl⟩ := sequence_inj.mp parts
    rw [scopes_joinedClause, List.forall_mem_cons, List.forall_mem_append] at binds
    obtain ⟨here, leftBinds, rightBinds⟩ := binds
    have leftShape := leftHypothesis leftBinds leftParts
    have rightShape := rightHypothesis rightBinds rightParts
    have leftNoOr : left.isOrClause = false := by
      rw [joinedClause, Binds] at here
      split at here
      · exact here
      · exact here.1
    have frontNoOr : ∀ link ∈ front, isOrLink link = false := by
      intro link member
      refine Bool.eq_false_iff.mpr fun isOr => ?_
      have leftOr := isOrClause_joinAfter first ⟨link, member, isOr⟩
      rw [← leftShape, leftNoOr] at leftOr
      exact Bool.false_ne_true leftOr
    rw [joinAfter_append frontNoOr, ← leftShape]
    by_cases isOr : boolean.text? = some "or"
    · rw [joinAfter_cons_or (by simp [isOrLink, isOr]), ← rightShape]
    · rw [joinedClause, Binds, if_neg isOr] at here
      obtain rfl : back = [] := by
        refine Decidable.byContradiction fun some => ?_
        have rightJoined := isJoined_joinAfter next some
        rw [← rightShape, here.2.2] at rightJoined
        exact Bool.false_ne_true rightJoined
      rw [joinAfter_cons_run (by simp [isOrLink, isOr]), rightShape]
      rfl

/-- Without a scoped clause around a single clause, all clauses are joined. -/
theorem joinedParts_eq_inOrder (none : tree.scopes.countP isSingle = 0) :
    tree.joinedParts = tree.inOrder := by
  induction tree using scoped_induct with
  | single clause _ => simp at none
  | other tree notSingle notJoined =>
    rw [joinedParts_of_not_isJoined notJoined, inOrder_of_unscoped notSingle notJoined]
  | joined left boolean right leftHypothesis rightHypothesis =>
    rw [scopes_joinedClause, List.countP_cons_of_neg (by simp), List.countP_append] at none
    rw [joinedParts_joinedClause, inOrder_joinedClause, leftHypothesis (by omega),
      rightHypothesis (by omega)]

/-- A last operand that is a scoped clause is among those the tree is read through. -/
theorem lastOperand_mem_scopes (isSingle : tree.lastOperand.isSingle = true) :
    tree.lastOperand ∈ tree.scopes := by
  induction tree using scoped_induct with
  | single clause _ => simp [lastOperand_singleClause]
  | other tree notSingle notJoined =>
    rw [lastOperand_of_not_isJoined notJoined, notSingle] at isSingle
    exact absurd isSingle Bool.false_ne_true
  | joined left boolean right _ rightHypothesis =>
    rw [lastOperand_joinedClause] at isSingle ⊢
    simp [rightHypothesis isSingle]

/-- If the only scoped clause with a single clause stands around the last clause, all others are
joined. -/
theorem exists_joinedParts (notSingle : clause.isSingle = false) (notJoined : clause.isJoined = false)
    (once : tree.scopes.countP isSingle = 1) (last : tree.lastOperand = singleClause clause) :
    ∃ front, tree.inOrder = front ++ [clause] ∧
      tree.joinedParts = front ++ [singleClause clause] := by
  induction tree using scoped_induct with
  | single inner _ =>
    obtain rfl : inner = clause := by
      rw [lastOperand_singleClause] at last
      simpa [singleClause] using last
    refine ⟨[], ?_, joinedParts_of_not_isJoined rfl⟩
    rw [inOrder_singleClause, inOrder_of_unscoped notSingle notJoined, List.nil_append]
  | other tree otherSingle otherJoined =>
    rw [lastOperand_of_not_isJoined otherJoined] at last
    rw [last] at otherSingle
    exact absurd otherSingle (by simp [isSingle, singleClause])
  | joined left boolean right _ rightHypothesis =>
    rw [lastOperand_joinedClause] at last
    rw [scopes_joinedClause, List.countP_cons_of_neg (by simp), List.countP_append] at once
    have rightSome : 0 < right.scopes.countP isSingle := by
      have isSingle : right.lastOperand.isSingle = true := by rw [last, isSingle_singleClause]
      exact List.countP_pos_iff.mpr ⟨_, lastOperand_mem_scopes isSingle, isSingle⟩
    have leftNone : left.scopes.countP isSingle = 0 := by omega
    obtain ⟨front, rightOrder, rightParts⟩ := rightHypothesis (by omega) last
    refine ⟨left.inOrder ++ boolean :: front, ?_, ?_⟩
    · simp [rightOrder]
    · simp [rightParts, joinedParts_eq_inOrder leftNone]

end Unique

/-! ### Chains of search clauses -/

/-- The last clause of a chain is the one that was added last. -/
theorem lastClause_concat (head boolean clause : Tree) (front : List Link) :
    lastClause head (front ++ [(boolean, clause)]) = clause := by
  induction front generalizing head with
  | nil => rfl
  | cons link rest inductionHypothesis => exact inductionHypothesis link.2

/-- A chain with one more link goes on with its boolean and its clause. -/
theorem sequence_concat (head boolean clause : Tree) (front : List Link) :
    sequence head (front ++ [(boolean, clause)]) = sequence head front ++ [boolean, clause] := by
  simp [sequence]

variable {head tree : Tree} {links : List Link}

/-- The tree of a chain of clauses has the properties by which it is known. The last clause is set apart:
it is wrapped in a scoped clause, and what stands before it is joined as it is, so each of the properties
is that of `joinAfter`. -/
theorem folds_chain (headPlain : head.isSingle = false ∧ head.isJoined = false)
    (plain : ∀ link ∈ links, link.2.isSingle = false ∧ link.2.isJoined = false) :
    Folds head links (chain head links) := by
  have headOrder := inOrder_of_unscoped headPlain.1 headPlain.2
  have headScopes := scopes_of_unscoped headPlain.1 headPlain.2
  rcases List.eq_nil_or_concat links with rfl | ⟨front, ⟨boolean, clause⟩, rfl⟩
  · rw [chain_nil]
    constructor
    case reads => simp [headOrder, sequence]
    case binds => simp [headScopes]
    case wrapsOnce => simp [headScopes]
    case wrapsLast => exact lastOperand_singleClause
  · rw [List.concat_eq_append, List.forall_mem_append, List.forall_mem_singleton] at plain
    obtain ⟨frontPlain, lastPlain⟩ := plain
    have lastOrder := inOrder_of_unscoped lastPlain.1 lastPlain.2
    have lastScopes := scopes_of_unscoped lastPlain.1 lastPlain.2
    have frontScopes : ∀ link ∈ front, link.2.scopes = [] := fun link member =>
      scopes_of_unscoped (frontPlain link member).1 (frontPlain link member).2
    have folded : chain head (front ++ [(boolean, clause)]) =
        joinAfter head (front ++ [(boolean, singleClause clause)]) := by
      rw [chain, if_neg (by simp), chainAfter_concat]
    rw [List.concat_eq_append, folded]
    constructor
    case reads =>
      have frontOrder : (front.flatMap fun link => link.1 :: link.2.inOrder) =
          front.flatMap fun link => [link.1, link.2] :=
        List.flatMap_congr fun link member => by
          rw [inOrder_of_unscoped (frontPlain link member).1 (frontPlain link member).2]
      rw [inOrder_joinAfter, List.flatMap_append, frontOrder, headOrder, sequence_concat]
      simp [lastOrder, sequence]
    case binds =>
      apply binds_joinAfter
      case runBinds => simp [headScopes]
      case runNoOr => exact isOrClause_of_not_isJoined headPlain.2
      case binds =>
        rw [List.forall_mem_append, List.forall_mem_singleton]
        constructor
        · intro link member
          simp [frontScopes link member]
        · simp [lastScopes]
      case plain =>
        rw [List.forall_mem_append, List.forall_mem_singleton]
        exact ⟨fun link member => (frontPlain link member).2, rfl⟩
    case wrapsOnce =>
      have frontNone : (front.flatMap fun link => link.2.scopes) = [] :=
        List.flatMap_eq_nil_iff.mpr frontScopes
      rw [countP_isSingle_joinAfter, List.flatMap_append, frontNone, headScopes]
      simp [lastScopes]
    case wrapsLast =>
      rw [lastOperand_joinAfter, lastClause_concat, lastClause_concat, lastOperand_singleClause]

/-- A tree with these properties is the tree of the chain. The one scoped clause with a single clause
stands last, so the parts that the tree joins are those of the chain with the last one wrapped, and
`eq_joinAfter` applies. -/
theorem Folds.eq_chain (folds : Folds head links tree)
    (headPlain : head.isSingle = false ∧ head.isJoined = false)
    (plain : ∀ link ∈ links, link.2.isSingle = false ∧ link.2.isJoined = false) :
    tree = chain head links := by
  have wraps := folds.wrapsLast
  have reads := folds.reads
  rcases List.eq_nil_or_concat links with rfl | ⟨front, ⟨boolean, clause⟩, rfl⟩
  · obtain ⟨before, order, parts⟩ :=
      exists_joinedParts headPlain.1 headPlain.2 folds.wrapsOnce wraps
    obtain rfl : before = [] := by
      rw [order] at reads
      simpa [sequence] using reads
    exact eq_joinAfter folds.binds (show _ = sequence _ [] from parts)
  · rw [List.concat_eq_append] at *
    rw [lastClause_concat] at wraps
    rw [sequence_concat] at reads
    rw [List.forall_mem_append, List.forall_mem_singleton] at plain
    obtain ⟨before, order, parts⟩ :=
      exists_joinedParts plain.2.1 plain.2.2 folds.wrapsOnce wraps
    obtain rfl : before = sequence head front ++ [boolean] := by
      have same : before ++ [clause] = (sequence head front ++ [boolean]) ++ [clause] := by
        rw [← order, reads, List.append_assoc]
        rfl
      exact List.append_cancel_right same
    rw [chain, if_neg (by simp), chainAfter_concat]
    apply eq_joinAfter folds.binds
    rw [parts, sequence_concat, List.append_assoc]
    rfl

/-- A tree is the tree of a chain of search clauses exactly if it holds the clauses and booleans of the
chain in their order, respects precedence, and has one scoped clause with a single clause, around the
last clause of the chain. -/
theorem eq_chain_iff (head : Tree) (links : List Link) (tree : Tree)
    (headIsClause : head.hasKind .searchClause = true)
    (clauses : ∀ link ∈ links, link.2.hasKind .searchClause = true) :
    tree = chain head links ↔ Folds head links tree := by
  have headPlain := unscoped_of_hasKind headIsClause
  have plain : ∀ link ∈ links, link.2.isSingle = false ∧ link.2.isJoined = false :=
    fun link member => unscoped_of_hasKind (clauses link member)
  constructor
  · rintro rfl
    exact folds_chain headPlain plain
  · intro folds
    exact folds.eq_chain headPlain plain

/-- The `or` cuts `a and b or c not d` into two runs. The tree that takes the booleans as they come has
the same clauses and booleans in the same order, but it does not respect precedence. -/
theorem eq_chain_iff_mixed :
    ∃ word : String → Tree, ∃ head links folded other,
      word = (fun name => searchClause (searchTerm (term name))) ∧
      head = word "a" ∧
      links = [(boolean "and", word "b"), (boolean "or", word "c"), (boolean "not", word "d")] ∧
      folded = joinedClause (joinedClause (word "a") (boolean "and") (word "b")) (boolean "or")
        (joinedClause (word "c") (boolean "not") (singleClause (word "d"))) ∧
      other = joinedClause (joinedClause (joinedClause (word "a") (boolean "and") (word "b"))
        (boolean "or") (word "c")) (boolean "not") (singleClause (word "d")) ∧
      head.hasKind .searchClause = true ∧
      (∀ link ∈ links, link.2.hasKind .searchClause = true) ∧
      Folds head links folded ∧ other.inOrder = folded.inOrder ∧ ¬ Folds head links other := by
  refine ⟨_, _, _, _, _, rfl, rfl, rfl, rfl, rfl, rfl, ?clauses, ?folded, rfl, ?other⟩
  case clauses => simp [searchClause, hasKind, kind?]
  case folded =>
    refine (eq_chain_iff _ _ _ rfl ?_).mp (by decide)
    simp [searchClause, hasKind, kind?]
  case other =>
    refine mt (eq_chain_iff _ _ _ rfl ?_).mpr (by decide)
    simp [searchClause, hasKind, kind?]

end ContextualQuery.Tree
