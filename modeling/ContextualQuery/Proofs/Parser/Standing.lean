import ContextualQuery.Proofs.Derivation

/-!
# Queries read one token at a time

The grammar can be read from the left to the right without trying alternatives. Between two tokens
it is enough to know what may come next and how many groups are open; `step` says what the next
token then does: it leads on, it is a feature that is rejected, or it does not fit. Walking through
the tokens of a query ends at its fate: the place of the first token that does not fit, or the
feature at which it is rejected. If every token fits, the fate is to stop at the end.

A fate that is met before the end of the tokens does not depend on the tokens behind it.
-/

namespace ContextualQuery

/-- What may come next in a query. -/
inductive Place where
  /-- A query or a prefix assignment. -/
  | query
  /-- The term of a prefix assignment. -/
  | assignment
  /-- A clause. -/
  | clause
  /-- A clause behind a boolean, or the modifiers of the boolean. -/
  | operand
  /-- A comparitor behind a term, or what follows a clause. -/
  | word
  /-- A search term behind a comparitor, or the modifiers of the comparitor. -/
  | relation
  /-- The name of a modifier. -/
  | modifier
  /-- The equals sign of a boost. -/
  | name
  /-- The value of a boost. -/
  | equals
  /-- A search term behind a boost, or another modifier. -/
  | boost
  /-- A search term. -/
  | term
  /-- A boolean, or the end of a query. -/
  | clauseEnd
deriving DecidableEq

/-- A place between two tokens, with the number of groups that are open there. -/
structure Standing where
  place : Place
  depth : Nat
deriving DecidableEq

/-- What a token does: it leads on, it is part of a feature that is rejected, or it does not fit. A
rejection names the token at fault. -/
inductive Step where
  | on (standing : Standing)
  | rejected (feature : Feature) (token : Token)
  | stuck

namespace Step

/-- The first token of a clause opens a group or is a term. -/
def clause (depth : Nat) (token : Token) : Step :=
  if token.text = "(" then .on ⟨.query, depth + 1⟩
  else if token.IsTerm then .on ⟨.word, depth⟩
  else .stuck

/-- The token behind a clause is a boolean, or closes a group that is open. -/
def clauseEnd (depth : Nat) (token : Token) : Step :=
  if Text.lower token.text = "prox" then .rejected .proximity token
  else if token.IsBoolean then .on ⟨.operand, depth⟩
  else if token.text = ")" then
    match depth with
    | 0 => .stuck
    | outer + 1 => .on ⟨.clauseEnd, outer⟩
  else .stuck

/-- A search term ends its clause. -/
def searchTerm (depth : Nat) (token : Token) : Step :=
  if token.IsTerm then .on ⟨.clauseEnd, depth⟩ else .stuck

end Step

namespace Standing

/-- What a token does at a place. -/
def step (options : Options) (standing : Standing) (token : Token) : Step :=
  match standing.place with
  | .query =>
    if token.text = ">" then .on ⟨.assignment, standing.depth⟩
    else Step.clause standing.depth token
  | .assignment => if token.IsTerm then .rejected .prefixAssignment ⟨">"⟩ else .stuck
  | .clause => Step.clause standing.depth token
  | .operand =>
    if token.text = "/" then .rejected .booleanModifiers token
    else Step.clause standing.depth token
  | .word =>
    if isComparitor token.text = false then Step.clauseEnd standing.depth token
    else if options.supportsComparitor token.text = false then
      .rejected (.comparitor token.text) token
    else .on ⟨.relation, standing.depth⟩
  | .relation =>
    if token.text = "/" then .on ⟨.modifier, standing.depth⟩
    else Step.searchTerm standing.depth token
  | .modifier =>
    if ¬ token.IsTerm then .stuck
    else if options.supportsModifierName token.text = false then
      .rejected (.modifierName token.text) token
    else if token.text ≠ boostModifier then .rejected (.modifier token.text) token
    else .on ⟨.name, standing.depth⟩
  | .name => if token.text = "=" then .on ⟨.equals, standing.depth⟩ else .stuck
  | .equals => if token.IsBoost then .on ⟨.boost, standing.depth⟩ else .stuck
  | .boost =>
    if token.text = "/" then .rejected .severalModifiers token
    else Step.searchTerm standing.depth token
  | .term => Step.searchTerm standing.depth token
  | .clauseEnd => Step.clauseEnd standing.depth token

/-- The place behind tokens that all fit. -/
def walk (options : Options) (standing : Standing) : List Token → Option Standing
  | [] => some standing
  | token :: rest =>
    match standing.step options token with
    | .on next => next.walk options rest
    | _ => none

end Standing

/-- How far the tokens of a query fit: up to a place where the next token does not fit or is
missing, or up to a token with which a feature is rejected. -/
inductive Fate where
  | stopped (place : Nat)
  | rejected (place : Nat) (feature : Feature) (token : Token)
deriving DecidableEq

namespace Standing

/-- The fate of tokens of which the first stands at the given index. -/
def fate (options : Options) (standing : Standing) (index : Nat) : List Token → Fate
  | [] => .stopped index
  | token :: rest =>
    match standing.step options token with
    | .on next => next.fate options (index + 1) rest
    | .rejected feature culprit => .rejected index feature culprit
    | .stuck => .stopped index

variable {options : Options} {standing next : Standing} {token culprit : Token}
  {tokens front rest : List Token} {index place : Nat} {feature : Feature}

/-- The walk goes on from where a token leads. -/
theorem fate_on (leads : standing.step options token = .on next) :
    standing.fate options index (token :: rest) = next.fate options (index + 1) rest := by
  rw [fate, leads]

/-- The walk ends at a token that is rejected. -/
theorem fate_rejected (rejects : standing.step options token = .rejected feature culprit) :
    standing.fate options index (token :: rest) = .rejected index feature culprit := by
  rw [fate, rejects]

/-- Tokens stop where there is none left, or where the next one does not fit. -/
theorem fate_stuck (stuck : ∀ token ∈ tokens.head?, standing.step options token = .stuck) :
    standing.fate options index tokens = .stopped index := by
  cases tokens with
  | nil => rfl
  | cons token rest => rw [fate, stuck token rfl]

/-- Only what the next token does is known of a place by the fate. -/
theorem fate_congr {other : Standing}
    (same : ∀ token ∈ tokens.head?, standing.step options token = other.step options token) :
    standing.fate options index tokens = other.fate options index tokens := by
  cases tokens with
  | nil => rfl
  | cons token rest => rw [fate, same token rfl, fate]

/-- Tokens that fit lead to the fate of those behind them. -/
theorem fate_append (walked : standing.walk options front = some next) :
    standing.fate options index (front ++ rest) =
      next.fate options (index + front.length) rest := by
  induction front generalizing standing index with
  | nil =>
    obtain rfl : standing = next := by simpa [walk] using walked
    rfl
  | cons token front inductionHypothesis =>
    rw [walk] at walked
    split at walked
    case h_1 via leads =>
      rw [List.cons_append, fate_on leads, inductionHypothesis walked, List.length_cons]
      congr 1
      omega
    case h_2 => simp at walked

/-- Tokens that fit stop at their end. -/
theorem fate_of_walk (walked : standing.walk options front = some next) :
    standing.fate options index front = .stopped (index + front.length) := by
  rw [← List.append_nil front, fate_append walked, List.append_nil, fate]

/-- Tokens that stop are split at the place where they do: those before it fit, and the one there,
if there is one, does not. -/
theorem exists_walk_of_stopped (stops : standing.fate options index tokens = .stopped place) :
    ∃ front rest next, tokens = front ++ rest ∧ place = index + front.length ∧
      standing.walk options front = some next ∧
      ∀ token ∈ rest.head?, next.step options token = .stuck := by
  induction tokens generalizing standing index with
  | nil =>
    obtain rfl : index = place := by simpa [fate] using stops
    exact ⟨[], [], standing, rfl, rfl, rfl, by simp⟩
  | cons token tokens inductionHypothesis =>
    cases leads : standing.step options token with
    | on via =>
      rw [fate_on leads] at stops
      obtain ⟨front, rest, next, rfl, rfl, walked, stuck⟩ := inductionHypothesis stops
      refine ⟨token :: front, rest, next, rfl, ?_, ?_, stuck⟩
      · rw [List.length_cons]
        omega
      · rw [walk, leads]
        exact walked
    | rejected feature culprit =>
      rw [fate_rejected leads] at stops
      simp at stops
    | stuck =>
      have stuck : ∀ first ∈ (token :: tokens).head?, standing.step options first = .stuck := by
        simpa using leads
      obtain rfl : index = place := by simpa [fate_stuck stuck] using stops
      exact ⟨[], token :: tokens, standing, rfl, rfl, rfl, stuck⟩

/-- Tokens that are rejected are split at the token that ends them: those before it fit. -/
theorem exists_walk_of_rejected
    (rejects : standing.fate options index tokens = .rejected place feature culprit) :
    ∃ front token rest next, tokens = front ++ token :: rest ∧ place = index + front.length ∧
      standing.walk options front = some next ∧
      next.step options token = .rejected feature culprit := by
  induction tokens generalizing standing index with
  | nil => simp [fate] at rejects
  | cons token tokens inductionHypothesis =>
    cases leads : standing.step options token with
    | on via =>
      rw [fate_on leads] at rejects
      obtain ⟨front, last, rest, next, rfl, rfl, walked, ends⟩ := inductionHypothesis rejects
      refine ⟨token :: front, last, rest, next, rfl, ?_, ?_, ends⟩
      · rw [List.length_cons]
        omega
      · rw [walk, leads]
        exact walked
    | rejected feature' culprit' =>
      rw [fate_rejected leads] at rejects
      obtain ⟨rfl, rfl, rfl⟩ : index = place ∧ feature' = feature ∧ culprit' = culprit := by
        simpa using rejects
      exact ⟨[], token, tokens, standing, rfl, rfl, rfl, leads⟩
    | stuck =>
      rw [fate_stuck (by simpa using leads)] at rejects
      simp at rejects

/-- Tokens do not stop before the first of them. -/
theorem le_of_stopped (stops : standing.fate options index tokens = .stopped place) :
    index ≤ place := by
  obtain ⟨front, _, _, _, rfl, _⟩ := exists_walk_of_stopped stops
  omega

/-- A rejection is not changed by what follows the tokens. -/
theorem fate_append_of_rejected
    (rejects : standing.fate options index tokens = .rejected place feature culprit)
    (more : List Token) :
    standing.fate options index (tokens ++ more) = .rejected place feature culprit := by
  obtain ⟨front, token, rest, next, rfl, rfl, walked, ends⟩ := exists_walk_of_rejected rejects
  rw [List.append_assoc, fate_append walked, List.cons_append, fate_rejected ends]

end Standing

end ContextualQuery
