import ContextualQuery.Tree.Basic

/-!
# Chains of clauses

A scoped clause is written as a chain: a clause, then booleans with a clause each. The chain is cut at
its `or` booleans into runs. The clauses of a run are joined from the left, and the runs are joined by
`or` from the right, so that `and` and `not` bind tighter than `or`. The last clause of a chain stands
in a scoped clause of its own.
-/

namespace ContextualQuery.Tree

/-- A boolean and the clause after it. -/
abbrev Link := Tree × Tree

/-- The boolean of a link is an `or`. -/
def isOrLink (link : Link) : Bool := link.1.text? == some "or"

/-- The tree of the links that follow the run read so far. -/
def chainAfter (run : Tree) : List Link → Tree
  | [] => run
  | (boolean, clause) :: rest =>
    let clause := if rest.isEmpty then singleClause clause else clause
    if isOrLink (boolean, clause) then joinedClause run boolean (chainAfter clause rest)
    else chainAfter (joinedClause run boolean clause) rest

/-- The tree of a chain. -/
def chain (head : Tree) (links : List Link) : Tree :=
  if links.isEmpty then singleClause head else chainAfter head links

/-- The size of a chain: its booleans, and the runs that its `or` booleans cut it into. -/
structure ChainSize where
  links : Nat
  runs : Nat
deriving DecidableEq, Repr

/-- The size of the chain of some links. -/
def chainSize (links : List Link) : ChainSize :=
  { links := links.length, runs := links.countP isOrLink + 1 }

/-- A chain without links is a clause that stands alone. -/
theorem chain_nil (head : Tree) : chain head [] = singleClause head := rfl

/-- A chain with one link joins its two clauses. -/
theorem chain_single (head boolean clause : Tree) :
    chain head [(boolean, clause)] = joinedClause head boolean (singleClause clause) := by
  simp [chain, chainAfter]

end ContextualQuery.Tree
