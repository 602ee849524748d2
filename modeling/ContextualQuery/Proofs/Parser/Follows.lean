import ContextualQuery.Proofs.Parser.Movement
import ContextualQuery.Proofs.Parser.Standing

/-!
# What a production sees

A production follows a fate when its end says so: a rejection is the one that the fate is, and it
never runs out of steps. What is known where it matches is said about the view of the state: the
place of the next token, the tokens that remain, and the furthest place that was looked at. Where it
does not match, only the furthest place is of interest; the cursor is then set back by a bookmark,
and bookmarks leave the view as it is.

`Stands` connects a view with a standing: the tokens that remain have the fate from there, and
nothing behind the next token was looked at. The rules for `Follows` go along the way in which
productions are put together.
-/

namespace ContextualQuery

/-- What can be seen of the tokens in a state. -/
structure View where
  position : Nat
  remaining : List Token
  furthest : Nat

namespace View

/-- The view after the next token was looked at. -/
def looked (view : View) : View := { view with furthest := max view.furthest view.position }

/-- The view after the next token was taken. -/
def stepped (view : View) : View :=
  { position := view.position + 1
    remaining := view.remaining.tail
    furthest := max view.furthest view.position }

/-- Taking a token includes looking at it. -/
theorem stepped_looked (view : View) : view.looked.stepped = view.stepped := by
  simp [looked, stepped]

end View

namespace ParserState

/-- What can be seen of the tokens in the state. -/
def view (state : ParserState) : View :=
  { position := state.cursor.position
    remaining := state.remaining
    furthest := state.cursor.furthest }

/-- The view has the place of the cursor. -/
@[simp] theorem position_view (state : ParserState) :
    state.view.position = state.cursor.position := rfl

/-- The view has the tokens that remain. -/
@[simp] theorem remaining_view (state : ParserState) : state.view.remaining = state.remaining := rfl

/-- The view has the furthest place of the cursor. -/
@[simp] theorem furthest_view (state : ParserState) :
    state.view.furthest = state.cursor.furthest := rfl

/-- A look is seen in the view. -/
theorem view_looked (state : ParserState) : state.looked.view = state.view.looked := rfl

/-- A step is seen in the view. -/
theorem view_stepped (state : ParserState) : state.stepped.view = state.view.stepped := by
  simp [view, View.stepped, stepped, remaining, Cursor.looked]

/-- Tokens and bookmarks are kept, and the cursor did not go back. -/
structure Passes (state after : ParserState) : Prop extends Kept state after where
  forward : state.cursor.position ≤ after.cursor.position

/-- A state is passed without a movement. -/
theorem Passes.refl (state : ParserState) : Passes state state := ⟨⟨rfl, rfl⟩, Nat.le_refl _⟩

/-- Movements forward can be joined. -/
theorem Passes.trans {state middle after : ParserState} (first : Passes state middle)
    (second : Passes middle after) : Passes state after :=
  ⟨first.toKept.trans second.toKept, Nat.le_trans first.forward second.forward⟩

/-- Reading words is a movement forward. -/
theorem Moves.passes {words : List Token} {state after : ParserState}
    (moves : Moves words state after) : Passes state after :=
  ⟨moves.toKept, by rw [moves.position]; omega⟩

/-- A look does not go back. -/
theorem passes_looked (state : ParserState) : Passes state state.looked :=
  (moves_looked state).passes

/-- A step does not go back. -/
theorem passes_stepped (state : ParserState) : Passes state state.stepped :=
  ⟨⟨rfl, rfl⟩, Nat.le_succ _⟩

/-- Further on, no more tokens remain. -/
theorem Passes.length_remaining_le {state after : ParserState} (passes : Passes state after) :
    after.remaining.length ≤ state.remaining.length := by
  have forward := passes.forward
  simp only [remaining, passes.tokens, List.length_drop]
  omega

/-- Where the cursor did not move, the same tokens remain. -/
theorem Moves.view_eq {state after : ParserState} (moves : Moves [] state after) :
    after.view = { state.view with furthest := after.cursor.furthest } := by
  simp [view, moves.remaining_nil, moves.position]

end ParserState

/-- The tokens that remain have the given fate from a standing, and nothing behind the next of them
was looked at. -/
structure Stands (options : Options) (fate : Fate) (standing : Standing) (view : View) :
    Prop where
  ends : standing.fate options view.position view.remaining = fate
  unseen : view.furthest ≤ view.position

namespace Stands

variable {options : Options} {fate : Fate} {standing next other : Standing} {view : View}
  {token culprit : Token} {feature : Feature} {place : Nat}

/-- How far was looked at does not matter as long as it is not behind the next token. -/
theorem seen (stands : Stands options fate standing view) {furthest : Nat}
    (unseen : furthest ≤ view.position) :
    Stands options fate standing { view with furthest } :=
  ⟨stands.ends, unseen⟩

/-- A look at the next token does not matter to where the walk stands. -/
theorem looked (stands : Stands options fate standing view) :
    Stands options fate standing view.looked :=
  stands.seen (Nat.max_le.mpr ⟨stands.unseen, Nat.le_refl _⟩)

/-- A look at the next token is the furthest one so far. -/
theorem furthest_looked (stands : Stands options fate standing view) :
    view.looked.furthest = view.position := Nat.max_eq_right stands.unseen

/-- A token that leads on is taken. -/
theorem stepped (stands : Stands options fate standing view)
    (first : view.remaining.head? = some token)
    (leads : standing.step options token = .on next) :
    Stands options fate next view.stepped := by
  obtain ⟨rest, split⟩ := List.head?_eq_some_iff.mp first
  refine ⟨?_, ?_⟩
  · have ends := stands.ends
    rw [split, Standing.fate_on leads] at ends
    rw [View.stepped, split]
    exact ends
  · have unseen := stands.unseen
    simp only [View.stepped]
    omega

/-- Two places at which the next token does the same cannot be told apart. -/
theorem relabel (stands : Stands options fate standing view)
    (same : ∀ token ∈ view.remaining.head?,
      standing.step options token = other.step options token) :
    Stands options fate other view :=
  ⟨(Standing.fate_congr same).symm.trans stands.ends, stands.unseen⟩

/-- The tokens stop here, because the next one does not fit or is missing. -/
theorem stopped (stands : Stands options fate standing view)
    (stuck : ∀ token ∈ view.remaining.head?, standing.step options token = .stuck) :
    fate = .stopped view.position := by
  rw [← stands.ends, Standing.fate_stuck stuck]

/-- The tokens stop at the place that was looked at last. -/
theorem stopped_looked (stands : Stands options fate standing view)
    (stuck : ∀ token ∈ view.remaining.head?, standing.step options token = .stuck) :
    fate = .stopped view.looked.furthest := by
  rw [stands.furthest_looked]
  exact stands.stopped stuck

/-- The next token brings the rejection. -/
theorem rejected (stands : Stands options fate standing view)
    (first : view.remaining.head? = some token)
    (rejects : standing.step options token = .rejected feature culprit) :
    fate = .rejected view.position feature culprit := by
  obtain ⟨rest, split⟩ := List.head?_eq_some_iff.mp first
  rw [← stands.ends, split, Standing.fate_rejected rejects]

/-- Tokens that stop do so here or later. -/
theorem position_le (stands : Stands options fate standing view) (stops : fate = .stopped place) :
    view.position ≤ place :=
  Standing.le_of_stopped (stands.ends.trans stops)

end Stands

namespace Production

open ParserState

variable {α β : Type} {fate : Fate} {state : ParserState}

/-- The end of a production is what the fate says: it matches with a value and a view, it does not
match and has looked up to a place, or it rejects what the fate rejects. -/
def Ends (fate : Fate) (state : ParserState) (Reached : α → View → Prop) (Missed : Nat → Prop)
    (after : ParserState) : Attempt α → Prop
  | .matched value => Passes state after ∧ Reached value after.view
  | .mismatch => Kept state after ∧ Missed after.cursor.furthest
  | .rejected rejection => ∃ place, fate = .rejected place rejection.feature rejection.token
  | .unfinished => False

/-- The production ends as the fate says. -/
def Follows (fate : Fate) (production : Production α) (state : ParserState)
    (Reached : α → View → Prop) (Missed : Nat → Prop) : Prop :=
  Ends fate state Reached Missed (production state).2 (production state).1

variable {Reached : α → View → Prop} {Reached' : β → View → Prop} {Missed : Nat → Prop}

/-- A production follows a fate if its end in the state does. -/
theorem follows_iff {production : Production α} {attempt : Attempt α} {after : ParserState}
    (ended : production state = (attempt, after)) :
    Follows fate production state Reached Missed ↔
      Ends fate state Reached Missed after attempt := by
  rw [Follows, ended]

/-- What ends well behind a passage ends well with it. -/
theorem Ends.passed {middle after : ParserState} {attempt : Attempt α}
    (passes : Passes state middle) (ends : Ends fate middle Reached Missed after attempt) :
    Ends fate state Reached Missed after attempt := by
  cases attempt with
  | matched value => exact ⟨passes.trans ends.1, ends.2⟩
  | mismatch => exact ⟨passes.toKept.trans ends.1, ends.2⟩
  | rejected rejection => exact ends
  | unfinished => exact ends

/-- Giving a value reaches what is reached here. -/
theorem Follows.pure {value : α} (reached : Reached value state.view) :
    Follows fate (pure value) state Reached Missed := ⟨Passes.refl state, reached⟩

/-- Failing misses what is missed here. -/
theorem Follows.fail (missed : Missed state.cursor.furthest) :
    Follows fate (fail : Production α) state Reached Missed := ⟨⟨rfl, rfl⟩, missed⟩

/-- Rejecting is right where the fate rejects the same token for the same feature. -/
theorem Follows.reject {feature : Feature} {token : Token} {place : Nat}
    (rejected : fate = .rejected place feature token) :
    Follows fate (reject feature token) state Reached Missed := ⟨place, rejected⟩

/-- A production that reaches more and misses less reaches and misses this as well. -/
theorem Follows.weaken {production : Production α} {Better : α → View → Prop} {Less : Nat → Prop}
    (follows : Follows fate production state Better Less)
    (reached : ∀ value after, Passes state after → Better value after.view →
      Reached value after.view)
    (missed : ∀ furthest, Less furthest → Missed furthest) :
    Follows fate production state Reached Missed := by
  cases ended : production state with
  | mk attempt after =>
    rw [follows_iff ended] at follows ⊢
    cases attempt with
    | matched value => exact ⟨follows.1, reached _ _ follows.1 follows.2⟩
    | mismatch => exact ⟨follows.1, missed _ follows.2⟩
    | rejected rejection => exact follows
    | unfinished => exact follows

/-- A production that misses for fewer reasons misses for these as well. -/
theorem Follows.miss {production : Production α} {Less : Nat → Prop}
    (follows : Follows fate production state Reached Less)
    (missed : ∀ furthest, Less furthest → Missed furthest) :
    Follows fate production state Reached Missed :=
  follows.weaken (fun _ _ _ reached => reached) missed

/-- A first part that is known to match leaves the rest to the second part. -/
theorem Follows.after {first : Production α} {second : α → Production β} {value : α}
    {middle : ParserState} (firstEnd : first state = (.matched value, middle))
    (passes : Passes state middle) (follows : Follows fate (second value) middle Reached' Missed) :
    Follows fate (first >>= second) state Reached' Missed := by
  rw [Follows, bind_matched firstEnd]
  exact Ends.passed passes follows

/-- The second part follows the fate wherever the first part can leave it. -/
theorem Follows.bind {first : Production α} {second : α → Production β}
    (followsFirst : Follows fate first state Reached Missed)
    (followsSecond : ∀ value middle, Passes state middle → Reached value middle.view →
      Follows fate (second value) middle Reached' Missed) :
    Follows fate (first >>= second) state Reached' Missed := by
  cases firstEnd : first state with
  | mk attempt middle =>
    rw [follows_iff firstEnd] at followsFirst
    cases attempt with
    | matched value =>
      exact Follows.after firstEnd followsFirst.1
        (followsSecond value middle followsFirst.1 followsFirst.2)
    | mismatch | rejected rejection | unfinished =>
      rw [Follows, bind_apply, andThen, firstEnd]
      exact followsFirst

/-- Changing the value changes what is said of it, and nothing of the view. -/
theorem Follows.map {production : Production α} {change : α → β}
    (follows : Follows fate production state (fun value => Reached' (change value)) Missed) :
    Follows fate (change <$> production) state Reached' Missed := by
  have whole : Follows fate (production >>= fun value => Pure.pure (change value)) state Reached'
      Missed :=
    follows.bind fun _ _ _ reached => Follows.pure reached
  exact whole

/-- The next token is looked at, if there is one. -/
theorem Follows.peek {body : Option Token → Production α}
    (absent : state.remaining.head? = none →
      Follows fate (body none) state.looked Reached Missed)
    (present : ∀ token, state.remaining.head? = some token →
      Follows fate (body (some token)) state.looked Reached Missed) :
    Follows fate (peek >>= body) state Reached Missed := by
  refine Follows.after (peek_eq state) (passes_looked state) ?_
  cases first : state.remaining.head? with
  | none => exact absent first
  | some token => exact present token first

/-- A test of the next token: either it is there and has the text, or it has not. -/
theorem Follows.sees {body : Bool → Production α} {text : String}
    (seen : state.remaining.head? = some ⟨text⟩ →
      Follows fate (body true) state.looked Reached Missed)
    (unseen : (∀ token ∈ state.remaining.head?, token.text ≠ text) →
      Follows fate (body false) state.looked Reached Missed) :
    Follows fate (sees text >>= body) state Reached Missed := by
  refine Follows.after (sees_eq text state) (passes_looked state) ?_
  cases first : state.remaining.head? with
  | none => exact unseen (by simp [first])
  | some token =>
    by_cases same : token.text = text
    · subst same
      simpa using seen first
    · have differs : (token.text == text) = false := by simpa using same
      rw [Option.any_some, differs]
      exact unseen (by simpa [first] using same)

/-- A token that is there is taken. -/
theorem Follows.next {body : Option Token → Production α} {token : Token}
    (first : state.remaining.head? = some token)
    (follows : Follows fate (body (some token)) state.stepped Reached Missed) :
    Follows fate (next >>= body) state Reached Missed := by
  obtain ⟨rest, split⟩ := List.head?_eq_some_iff.mp first
  exact Follows.after (next_of_cons split) (passes_stepped state) follows

/-- The token that is expected is there, or the furthest place looked at is the place of the next
token. -/
theorem Follows.expect {text : String} (Behind : View → Prop)
    (present : state.remaining.head? = some ⟨text⟩ → Behind state.view.stepped)
    (absent : (∀ token ∈ state.remaining.head?, token.text ≠ text) →
      Missed (max state.cursor.furthest state.cursor.position)) :
    Follows fate (expect text) state (fun _ => Behind) Missed := by
  cases first : state.remaining.head? with
  | none =>
    have atEnd : state.remaining = [] := List.head?_eq_none_iff.mp first
    exact Follows.after (next_of_nil atEnd) (passes_looked state)
      (Follows.fail (absent (by simp [first])))
  | some token =>
    refine Follows.next first ?_
    by_cases same : token.text = text
    · subst same
      rw [if_pos (by simp)]
      refine Follows.pure ?_
      rw [view_stepped]
      exact present first
    · rw [if_neg (by simpa using same)]
      exact Follows.fail (absent (by simpa [first] using same))

/-- A mismatch behind a bookmark leaves the cursor where it stood; what was looked at is kept. -/
theorem Follows.restores {production : Production α} {after : ParserState}
    (follows : Follows fate production state.marked Reached Missed)
    (ended : Production.bookmarked production state = (.mismatch, after)) :
    Moves [] state after ∧ Missed after.cursor.furthest := by
  cases innerEnd : production state.marked with
  | mk attempt inner =>
    rw [follows_iff innerEnd] at follows
    rw [marked] at innerEnd
    rw [Production.bookmarked, innerEnd] at ended
    cases attempt with
    | mismatch =>
      obtain ⟨kept, missed⟩ := follows
      obtain rfl : { inner with cursor := inner.cursor.revert } = after := by simpa using ended
      refine ⟨Kept.moves_revert kept, ?_⟩
      have stack : inner.cursor.bookmarks = state.cursor.position :: state.cursor.bookmarks :=
        kept.bookmarks
      simpa [Cursor.revert, stack] using missed
    | matched value | rejected rejection | unfinished => simp at ended

/-- A bookmark changes nothing in the view. A mismatch returns to the bookmark and a match drops it, so
the bookmarks are those from before in either case. -/
theorem Follows.bookmarked {production : Production α}
    (follows : Follows fate production state.marked Reached Missed) :
    Follows fate (bookmarked production) state Reached Missed := by
  cases innerEnd : production state.marked with
  | mk attempt inner =>
    have inside := innerEnd
    rw [marked] at inside
    cases attempt with
    | mismatch =>
      have ended : Production.bookmarked production state =
          (.mismatch, { inner with cursor := inner.cursor.revert }) := by
        rw [Production.bookmarked, inside]
      obtain ⟨back, missed⟩ := follows.restores ended
      rw [follows_iff ended]
      exact ⟨back.toKept, missed⟩
    | matched value =>
      have ended : Production.bookmarked production state =
          (.matched value, { inner with cursor := inner.cursor.dropBookmark }) := by
        rw [Production.bookmarked, inside]
      obtain ⟨passes, reached⟩ := (follows_iff innerEnd).mp follows
      rw [follows_iff ended]
      refine ⟨⟨⟨passes.tokens, ?_⟩, passes.forward⟩, reached⟩
      simp [Cursor.dropBookmark, passes.bookmarks, marked, Cursor.bookmark]
    | rejected rejection | unfinished =>
      rw [follows_iff innerEnd] at follows
      rw [Follows, Production.bookmarked, inside]
      exact follows

/-- Where the first alternative does not match and leaves the cursor where it stood, the second one
has to follow the fate from the same place. -/
theorem Follows.orElse {first second : Production α} {Less : Nat → Prop}
    (followsFirst : Follows fate first state Reached Less)
    (restores : ∀ {middle}, first state = (.mismatch, middle) → Moves [] state middle)
    (followsSecond : ∀ middle, Moves [] state middle → Less middle.cursor.furthest →
      Follows fate second middle Reached Missed) :
    Follows fate (orElse first second) state Reached Missed := by
  cases firstEnd : first state with
  | mk attempt middle =>
    rw [follows_iff firstEnd] at followsFirst
    cases attempt with
    | mismatch =>
      have back := restores firstEnd
      rw [Follows, Production.orElse, firstEnd]
      exact Ends.passed back.passes (followsSecond middle back followsFirst.2)
    | matched value | rejected rejection | unfinished =>
      rw [Follows, Production.orElse, firstEnd]
      exact followsFirst

/-- An optional production, tried behind a bookmark, leaves everything where it was if it does not
match. -/
theorem Follows.optional {production : Production α} (Found : Option α → View → Prop)
    {Less : Nat → Prop}
    (follows : Follows fate production state.marked (fun value => Found (some value)) Less)
    (absent : ∀ furthest, Less furthest → Found none { state.view with furthest }) :
    Follows fate (optional (Production.bookmarked production)) state Found Missed := by
  refine Follows.orElse (Follows.map follows.bookmarked) ?_ ?_
  · intro middle ended
    rcases bind_eq_mismatch.mp ended with ended | ⟨value, _, _, ended⟩
    · exact (follows.restores ended).1
    · simp [Function.comp] at ended
  · intro middle back less
    refine Follows.pure ?_
    rw [back.view_eq]
    exact absent _ less

end Production

end ContextualQuery
