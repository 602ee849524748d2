import ContextualQuery.Cursor.Operation

/-!
# Runs of a cursor

What holds of a cursor after any operations, if a bookmark is there whenever one is closed. The
cursor never leaves the tokens: its position, its furthest place and the places it can return to are
tokens or the place behind them. The furthest place is the largest at which a token was asked for,
also where none was left.

Bookmarks pair as brackets do. `Nested` operations close the bookmarks that they make and no other, so
they leave the bookmarks as they were whatever cursor they are carried out on. The bookmark that an
operation closes is therefore found in the operations before it alone: it is the one behind which they
are nested.
-/

namespace ContextualQuery.Cursor

namespace Operation

/-- The operations that look at the token at the position. -/
def examines : Operation → Bool
  | .peek | .next | .requirePeek | .requireNext => true
  | .get _ | .bookmark | .revert | .drop => false

/-- The operations that take the token at the position. -/
def takes : Operation → Bool
  | .next | .requireNext => true
  | .peek | .requirePeek | .get _ | .bookmark | .revert | .drop => false

/-- The operations that close a bookmark. -/
def closes : Operation → Bool
  | .revert | .drop => true
  | .peek | .next | .requirePeek | .requireNext | .get _ | .bookmark => false

end Operation

variable {cursor : Cursor} {operation : Operation} {operations inner : List Operation}

/-! ### One operation -/

/-- The cursor behind the next token, or where it was if there is none. In both cases it has looked. -/
theorem next_eq (cursor : Cursor) :
    cursor.next.2 = { cursor.looked with
      position := if cursor.hasNext then cursor.position + 1 else cursor.position } := by
  rw [next, hasNext]
  split
  case h_1 absent =>
    have atEnd := (current?_eq_none_iff cursor).mp absent
    rw [decide_eq_false (Nat.not_lt.mpr atEnd)]
    rfl
  case h_2 token present =>
    have before : ¬ cursor.size ≤ cursor.position := by
      rw [← current?_eq_none_iff, present]
      exact nofun
    rw [decide_eq_true (Nat.lt_of_not_le before)]
    rfl

/-- Returning sets the place to the last bookmark, or keeps it where there is none. -/
theorem revert_eq (cursor : Cursor) :
    cursor.revert = { cursor with
      position := cursor.bookmarks.headD cursor.position
      bookmarks := cursor.bookmarks.tail } := by
  obtain ⟨tokens, position, bookmarks, furthest⟩ := cursor
  cases bookmarks <;> rfl

/-- The cursor after an operation. -/
def step (cursor : Cursor) (operation : Operation) : Cursor := (cursor.perform operation).2

/-- No operation changes the tokens. -/
theorem tokens_step (cursor : Cursor) (operation : Operation) :
    (cursor.step operation).tokens = cursor.tokens := by
  cases operation with
  | next | requireNext => rw [step, perform, next_eq]; rfl
  | revert => rw [step, perform, revert_eq]
  | _ => rfl

/-- No operation changes the number of tokens. -/
@[simp] theorem size_step (cursor : Cursor) (operation : Operation) :
    (cursor.step operation).size = cursor.size :=
  congrArg Array.size (tokens_step cursor operation)

/-- Only a look at the position can raise the furthest place, also where no token is left. -/
theorem furthest_step (cursor : Cursor) (operation : Operation) :
    (cursor.step operation).furthest =
      if operation.examines then max cursor.furthest cursor.position else cursor.furthest := by
  cases operation with
  | next | requireNext => exact furthest_next cursor
  | revert => rw [step, perform, revert_eq]; rfl
  | _ => rfl

/-- Taking a token moves the cursor on by one place, but not beyond the place behind the tokens. -/
theorem position_next (within : cursor.position ≤ cursor.size) :
    cursor.next.2.position = min (cursor.position + 1) cursor.size := by
  rw [next_eq, hasNext]
  dsimp only
  by_cases before : cursor.position < cursor.size
  · rw [if_pos (by simpa using before), Nat.min_eq_left before]
  · rw [if_neg (by simpa using before)]
    omega

/-- Only taking a token and returning move the cursor. -/
theorem position_step (within : cursor.position ≤ cursor.size) (returns : operation ≠ .revert) :
    (cursor.step operation).position =
      if operation.takes then min (cursor.position + 1) cursor.size else cursor.position := by
  cases operation with
  | next | requireNext => exact position_next within
  | revert => contradiction
  | _ => rfl

/-- With a bookmark on top, returning goes to its place and forgets it. -/
theorem step_revert {place : Nat} {rest : List Nat} (stack : cursor.bookmarks = place :: rest) :
    cursor.step .revert = { cursor with position := place, bookmarks := rest } := by
  rw [step, perform, revert_eq, stack]
  rfl

/-- A closed bookmark is the last that was made. -/
theorem bookmarks_step_of_closes (closes : operation.closes = true) :
    (cursor.step operation).bookmarks = cursor.bookmarks.tail := by
  cases operation with
  | revert => rw [step, perform, revert_eq]
  | drop => rfl
  | _ => contradiction

/-- What neither makes nor closes a bookmark keeps all of them. -/
theorem bookmarks_step_of_keeps (marks : operation ≠ .bookmark) (closes : operation.closes = false) :
    (cursor.step operation).bookmarks = cursor.bookmarks := by
  cases operation with
  | next | requireNext => rw [step, perform, next_eq]; rfl
  | bookmark | revert | drop => contradiction
  | _ => rfl

/-! ### Runs -/

/-- The cursor after some operations. -/
def after (cursor : Cursor) (operations : List Operation) : Cursor := operations.foldl step cursor

/-- Without operations the cursor stays as it is. -/
@[simp] theorem after_nil (cursor : Cursor) : cursor.after [] = cursor := rfl

/-- The operations are carried out from the first to the last. -/
@[simp] theorem after_cons (cursor : Cursor) (operation : Operation) (rest : List Operation) :
    cursor.after (operation :: rest) = (cursor.step operation).after rest := rfl

/-- Operations can be carried out in two parts. -/
@[simp] theorem after_append (cursor : Cursor) (front back : List Operation) :
    cursor.after (front ++ back) = (cursor.after front).after back :=
  List.foldl_append

/-- A bookmark is there whenever one of the operations closes it. -/
def Allows : Cursor → List Operation → Prop
  | _, [] => True
  | cursor, operation :: rest =>
    (operation.closes = true → cursor.bookmarks ≠ []) ∧ (cursor.step operation).Allows rest

/-- Whether every closing operation finds a bookmark is decided by carrying the operations out. -/
instance decidableAllows : (cursor : Cursor) → (operations : List Operation) →
    Decidable (cursor.Allows operations)
  | _, [] => isTrue trivial
  | cursor, operation :: rest =>
    have := decidableAllows (cursor.step operation) rest
    inferInstanceAs (Decidable ((_ → _) ∧ _))

/-- Operations are allowed if the first part is, and the second part where the first one ends. -/
theorem allows_append (cursor : Cursor) (front back : List Operation) :
    cursor.Allows (front ++ back) ↔ cursor.Allows front ∧ (cursor.after front).Allows back := by
  induction front generalizing cursor with
  | nil => simp [Allows]
  | cons operation rest inductionHypothesis => simp [Allows, inductionHypothesis, and_assoc]

/-- Where a bookmark is closed, there is one. -/
theorem Allows.marked {done : List Operation} (allowed : cursor.Allows operations)
    (follows : done ++ [operation] <+: operations) (closes : operation.closes = true) :
    (cursor.after done).bookmarks ≠ [] := by
  obtain ⟨rest, rfl⟩ := follows
  rw [allows_append, allows_append] at allowed
  exact allowed.1.2.1 closes

/-- Each operation changes the number of bookmarks by what it opens and closes. -/
theorem length_bookmarks_step (present : operation.closes = true → cursor.bookmarks ≠ []) :
    (cursor.step operation).bookmarks.length + (if operation.closes then 1 else 0) =
      cursor.bookmarks.length + if operation == .bookmark then 1 else 0 := by
  by_cases closes : operation.closes = true
  · have marks : (operation == .bookmark) = false := by cases operation <;> trivial
    have positive := List.length_pos_iff.mpr (present closes)
    rw [bookmarks_step_of_closes closes, List.length_tail, if_pos closes, marks]
    simp only [Bool.false_eq_true, if_false]
    omega
  · by_cases marks : operation = .bookmark
    · subst marks
      rfl
    · rw [bookmarks_step_of_keeps marks (by simpa using closes), if_neg closes,
        if_neg (by simpa using marks)]

/-- The bookmarks that are there are those that were made less those that were closed. -/
theorem length_bookmarks_after (allowed : cursor.Allows operations) :
    (cursor.after operations).bookmarks.length + operations.countP Operation.closes =
      cursor.bookmarks.length + operations.count .bookmark := by
  induction operations generalizing cursor with
  | nil => rfl
  | cons operation rest inductionHypothesis =>
    have first := length_bookmarks_step allowed.1
    have later := inductionHypothesis allowed.2
    rw [after_cons, List.countP_cons, List.count_cons]
    omega

/-! ### Bounds -/

/-- The places that a cursor knows of are tokens or the place behind them. -/
structure Within (cursor : Cursor) : Prop where
  position : cursor.position ≤ cursor.size
  furthest : cursor.furthest ≤ cursor.size
  bookmarks : ∀ place ∈ cursor.bookmarks, place ≤ cursor.size

/-- At the start the cursor stands within its tokens. -/
theorem within_start (tokens : List Token) : (start tokens).Within where
  position := Nat.zero_le _
  furthest := Nat.zero_le _
  bookmarks := nofun

/-- An operation keeps the cursor within its tokens. Only `revert` moves the cursor back, and it does so
to a bookmark, which is within the tokens by hypothesis. -/
theorem Within.step (within : cursor.Within) (operation : Operation) :
    (cursor.step operation).Within where
  position := by
    rw [size_step]
    by_cases returns : operation = .revert
    · subst returns
      cases stack : cursor.bookmarks with
      | nil =>
        rw [Cursor.step, perform, revert_eq, stack]
        exact within.position
      | cons place rest =>
        rw [step_revert stack]
        exact within.bookmarks place (by simp [stack])
    · rw [position_step within.position returns]
      split
      · exact Nat.min_le_right _ _
      · exact within.position
  furthest := by
    rw [size_step, furthest_step]
    split
    · exact Nat.max_le.mpr ⟨within.furthest, within.position⟩
    · exact within.furthest
  bookmarks := by
    intro place member
    rw [size_step]
    by_cases closes : operation.closes = true
    · rw [bookmarks_step_of_closes closes] at member
      exact within.bookmarks place (List.mem_of_mem_tail member)
    · by_cases marks : operation = .bookmark
      · subst marks
        rcases List.mem_cons.mp member with rfl | kept
        · exact within.position
        · exact within.bookmarks place kept
      · rw [bookmarks_step_of_keeps marks (by simpa using closes)] at member
        exact within.bookmarks place member

/-- Operations keep the cursor within its tokens. -/
theorem Within.after (within : cursor.Within) (operations : List Operation) :
    (cursor.after operations).Within := by
  induction operations generalizing cursor with
  | nil => exact within
  | cons operation rest inductionHypothesis => exact inductionHypothesis (within.step operation)

/-- Operations do not change the tokens. -/
theorem tokens_after (cursor : Cursor) (operations : List Operation) :
    (cursor.after operations).tokens = cursor.tokens := by
  induction operations generalizing cursor with
  | nil => rfl
  | cons operation rest inductionHypothesis =>
    rw [after_cons, inductionHypothesis, tokens_step]

/-! ### The furthest place -/

/-- The positions at which a token was looked at, in their order. -/
def examined : Cursor → List Operation → List Nat
  | _, [] => []
  | cursor, operation :: rest =>
    if operation.examines then cursor.position :: (cursor.step operation).examined rest
    else (cursor.step operation).examined rest

/-- The largest of a list with a place in front is the larger of the place and the largest
before. -/
theorem max?_cons_getD_zero (place : Nat) (rest : List Nat) :
    (place :: rest).max?.getD 0 = max place (rest.max?.getD 0) := by
  rw [List.max?_cons]
  cases rest.max? <;> simp

/-- The furthest place is the largest of the one before and of those looked at since. -/
theorem furthest_after (cursor : Cursor) (operations : List Operation) :
    (cursor.after operations).furthest =
      max cursor.furthest ((cursor.examined operations).max?.getD 0) := by
  induction operations generalizing cursor with
  | nil => simp [examined]
  | cons operation rest inductionHypothesis =>
    rw [after_cons, inductionHypothesis, furthest_step, examined]
    split
    · rw [max?_cons_getD_zero, Nat.max_assoc]
    · rfl

/-- The furthest place never falls. -/
theorem furthest_le_after (cursor : Cursor) (operations : List Operation) :
    cursor.furthest ≤ (cursor.after operations).furthest := by
  rw [furthest_after]
  exact Nat.le_max_left _ _

/-! ### Bookmarks -/

/-- Operations that close the bookmarks they make, and no other. -/
inductive Nested : List Operation → Prop where
  | nil : Nested []
  | single {operation : Operation} (marks : operation ≠ .bookmark)
      (closes : operation.closes = false) : Nested [operation]
  | enclosed {inner : List Operation} {closing : Operation} (nested : Nested inner)
      (closes : closing.closes = true) : Nested (.bookmark :: (inner ++ [closing]))
  | append {front back : List Operation} (first : Nested front) (second : Nested back) :
      Nested (front ++ back)

/-- Nested operations leave every cursor with the bookmarks it had. -/
theorem Nested.bookmarks_after (nested : Nested inner) (cursor : Cursor) :
    (cursor.after inner).bookmarks = cursor.bookmarks := by
  induction nested generalizing cursor with
  | nil => rfl
  | single marks closes => exact bookmarks_step_of_keeps marks closes
  | @enclosed inner closing _ closes inductionHypothesis =>
    rw [after_cons, after_append, after_cons, after_nil, bookmarks_step_of_closes closes,
      inductionHypothesis]
    rfl
  | append _ _ firstHypothesis secondHypothesis =>
    rw [after_append, secondHypothesis, firstHypothesis]

/-- The bookmark made behind `front` is the last one that the operations leave open. -/
def OpenLast (front operations : List Operation) : Prop :=
  ∃ inner, Nested inner ∧ operations = front ++ .bookmark :: inner

/-- The last open bookmark keeps the position behind the operations in front of it. -/
theorem OpenLast.bookmarks_after {front : List Operation} (isOpen : OpenLast front operations)
    (cursor : Cursor) :
    (cursor.after operations).bookmarks =
      (cursor.after front).position :: (cursor.after front).bookmarks := by
  obtain ⟨inner, nested, rfl⟩ := isOpen
  rw [after_append, after_cons, nested.bookmarks_after]
  rfl

/-- Nested operations have no bookmark that nested operations follow. A cursor without bookmarks shows
it, which has none behind the whole and that one behind the last part. -/
theorem Nested.not_openLast {front : List Operation} (nested : Nested operations) :
    ¬ OpenLast front operations := by
  intro isOpen
  have none := nested.bookmarks_after (start [])
  rw [isOpen.bookmarks_after (start [])] at none
  exact List.cons_ne_nil _ _ none

/-- Two bookmarks behind which all is nested are one: the later one would otherwise lie within what is
nested behind the earlier. -/
theorem Nested.between_eq_nil {later between : List Operation} (nested : Nested inner)
    (nestedLater : Nested later) (same : .bookmark :: inner = between ++ .bookmark :: later) :
    between = [] := by
  cases between with
  | nil => rfl
  | cons mark tail =>
    obtain ⟨-, rfl⟩ := List.cons.inj same
    exact absurd ⟨later, nestedLater, rfl⟩ nested.not_openLast

/-- Operations leave at most one bookmark open last. -/
theorem OpenLast.unique {front other : List Operation} (isOpen : OpenLast front operations)
    (isOpenToo : OpenLast other operations) : other = front := by
  obtain ⟨inner, nested, rfl⟩ := isOpen
  obtain ⟨innerToo, nestedToo, same⟩ := isOpenToo
  rcases List.append_eq_append_iff.mp same with ⟨between, rfl, rest⟩ | ⟨between, rfl, rest⟩
  · rw [nested.between_eq_nil nestedToo rest, List.append_nil]
  · rw [nestedToo.between_eq_nil nested rest, List.append_nil]

/-- A bookmark that was just made is the last that is open. -/
theorem openLast_bookmark (operations : List Operation) :
    OpenLast operations (operations ++ [.bookmark]) :=
  ⟨[], .nil, rfl⟩

/-- An operation that makes and closes no bookmark leaves the last one open. -/
theorem OpenLast.concat {front : List Operation} (isOpen : OpenLast front operations)
    (marks : operation ≠ .bookmark) (closes : operation.closes = false) :
    OpenLast front (operations ++ [operation]) := by
  obtain ⟨inner, nested, rfl⟩ := isOpen
  exact ⟨inner ++ [operation], .append nested (.single marks closes), by simp⟩

/-- Behind a bookmark that is closed, the one is open again that was open in front of it. -/
theorem OpenLast.concat_closing {front closed : List Operation}
    (isOpen : OpenLast closed operations) (isOpenBefore : OpenLast front closed)
    (closes : operation.closes = true) : OpenLast front (operations ++ [operation]) := by
  obtain ⟨inner, nested, rfl⟩ := isOpen
  obtain ⟨between, nestedBetween, rfl⟩ := isOpenBefore
  exact ⟨between ++ .bookmark :: (inner ++ [operation]),
    .append nestedBetween (.enclosed nested closes), by simp⟩

/-- An open bookmark was made before the last of the operations was done. -/
theorem OpenLast.length_lt {front : List Operation} (isOpen : OpenLast front operations) :
    front.length < operations.length := by
  obtain ⟨inner, -, rfl⟩ := isOpen
  simp

/-- A cursor that has a bookmark now and had none at first owes it to one of the operations. -/
theorem exists_openLast (vacant : cursor.bookmarks = []) (operations : List Operation)
    (marked : (cursor.after operations).bookmarks ≠ []) :
    ∃ front, OpenLast front operations := by
  rcases List.eq_nil_or_concat operations with rfl | ⟨earlier, operation, rfl⟩
  · exact absurd vacant marked
  · simp only [List.concat_eq_append, after_append, after_cons, after_nil] at marked ⊢
    by_cases closes : operation.closes = true
    -- The bookmark that was closed leads to the operations in front of it, which made the one left.
    · rw [bookmarks_step_of_closes closes] at marked
      have markedEarlier : (cursor.after earlier).bookmarks ≠ [] := fun none => marked (by simp [none])
      obtain ⟨closed, closedOpen⟩ := exists_openLast vacant earlier markedEarlier
      rw [closedOpen.bookmarks_after, List.tail_cons] at marked
      have shorter := closedOpen.length_lt
      obtain ⟨front, isOpen⟩ := exists_openLast vacant closed marked
      exact ⟨front, closedOpen.concat_closing isOpen closes⟩
    · by_cases marks : operation = .bookmark
      · exact ⟨earlier, marks ▸ openLast_bookmark earlier⟩
      · have plain : operation.closes = false := by simpa using closes
        rw [bookmarks_step_of_keeps marks plain] at marked
        obtain ⟨front, isOpen⟩ := exists_openLast vacant earlier marked
        exact ⟨front, isOpen.concat marks plain⟩
termination_by operations.length
decreasing_by
  all_goals
    subst_vars
    simp only [List.concat_eq_append, List.length_append, List.length_singleton]
    omega

/-! ### Runs from the start of some tokens -/

/-- The cursor after operations that begin at the first of some tokens. -/
def run (tokens : List Token) (operations : List Operation) : Cursor :=
  (start tokens).after operations

/-- A run with one more operation is the run, and then the operation. -/
theorem run_concat (tokens : List Token) (done : List Operation) (operation : Operation) :
    run tokens (done ++ [operation]) = (run tokens done).step operation := by
  rw [run, after_append]
  rfl

/-- In every run the cursor has the tokens it started with. -/
theorem size_run (tokens : List Token) (operations : List Operation) :
    (run tokens operations).size = tokens.length := by
  rw [size, run, tokens_after]
  simp [start]

/-- In every run the cursor stays within its tokens. -/
theorem within_run (tokens : List Token) (operations : List Operation) :
    (run tokens operations).Within :=
  (within_start tokens).after operations

/-- The furthest place of a run is the largest that any operation examined. -/
theorem furthest_run (tokens : List Token) (operations : List Operation) :
    (run tokens operations).furthest = ((start tokens).examined operations).max?.getD 0 := by
  rw [run, furthest_after]
  exact Nat.zero_max _

/-- The last open bookmark is on top of the stack, with the place where it was made. -/
theorem OpenLast.bookmarks_run {front : List Operation} (isOpen : OpenLast front operations)
    (tokens : List Token) :
    (run tokens operations).bookmarks =
      (run tokens front).position :: (run tokens front).bookmarks :=
  isOpen.bookmarks_after (start tokens)

/-- Returning restores the whole cursor as the last open bookmark found it, but for the furthest
place. -/
theorem OpenLast.run_revert {front : List Operation} (isOpen : OpenLast front operations)
    (tokens : List Token) :
    run tokens (operations ++ [.revert]) =
      { run tokens front with furthest := (run tokens operations).furthest } := by
  have same : (run tokens operations).tokens = (run tokens front).tokens := by
    rw [run, run, tokens_after, tokens_after]
  rw [run_concat, step_revert (isOpen.bookmarks_run tokens), same]

/-- Dropping takes the last open bookmark away and nothing else. -/
theorem OpenLast.run_drop {front : List Operation} (isOpen : OpenLast front operations)
    (tokens : List Token) :
    run tokens (operations ++ [.drop]) =
      { run tokens operations with bookmarks := (run tokens front).bookmarks } := by
  rw [run_concat, step, perform, dropBookmark, isOpen.bookmarks_run tokens, List.tail_cons]

/-- A run in which every bookmark that is closed is there, after each of its operations. All places are
within the tokens or behind them, and the bookmarks are those made less those closed. The furthest place
is the largest position at which a token was looked at or taken, and zero before that, so it never
decreases. Taking moves the cursor on where a token is left, and nothing else but a return moves it. An
operation that closes a bookmark has exactly one that it belongs to, behind which the operations are
nested: a return restores the cursor as it was there, except for the furthest place, and a drop takes only
the bookmark away.

Proof: each operation keeps the cursor within its tokens and changes the furthest place only upwards. The
last open bookmark is found from the end of the run, where a closed one takes the operations nested behind
it along. -/
theorem run_exact (tokens : List Token) (operations : List Operation)
    (allowed : (start tokens).Allows operations) :
    ∀ done, done <+: operations →
      ((run tokens done).position ≤ tokens.length ∧
        (run tokens done).furthest ≤ tokens.length ∧
        (∀ place ∈ (run tokens done).bookmarks, place ≤ tokens.length) ∧
        (run tokens done).bookmarks.length + done.countP Operation.closes =
          done.count .bookmark) ∧
      ((run tokens done).furthest = ((start tokens).examined done).max?.getD 0 ∧
        ∀ earlier, earlier <+: done →
          (run tokens earlier).furthest ≤ (run tokens done).furthest) ∧
      (∀ operation, done ++ [operation] <+: operations → operation ≠ .revert →
        (run tokens (done ++ [operation])).position =
          if operation.takes then min ((run tokens done).position + 1) tokens.length
          else (run tokens done).position) ∧
      ∀ closing, done ++ [closing] <+: operations → closing.closes = true →
        ∃ front, (OpenLast front done ∧ ∀ other, OpenLast other done → other = front) ∧
          (closing = .revert →
            run tokens (done ++ [closing]) =
              { run tokens front with furthest := (run tokens done).furthest }) ∧
          (closing = .drop →
            run tokens (done ++ [closing]) =
              { run tokens done with bookmarks := (run tokens front).bookmarks }) := by
  intro done isFront
  have within := within_run tokens done
  have size := size_run tokens done
  refine ⟨⟨size ▸ within.position, size ▸ within.furthest, size ▸ within.bookmarks, ?_⟩,
    ⟨furthest_run tokens done, ?_⟩, ?_, ?_⟩
  · obtain ⟨rest, rfl⟩ := isFront
    have counted := length_bookmarks_after ((allows_append _ _ _).mp allowed).1
    exact counted.trans (Nat.zero_add _)
  · rintro earlier ⟨later, rfl⟩
    rw [run, run, after_append]
    exact furthest_le_after _ later
  · intro operation _ returns
    rw [run_concat, position_step within.position returns, size]
  · intro closing follows closes
    obtain ⟨front, isOpen⟩ := exists_openLast rfl done (allowed.marked follows closes)
    refine ⟨front, ⟨isOpen, fun other => isOpen.unique⟩, ?_, ?_⟩
    · rintro rfl
      exact isOpen.run_revert tokens
    · rintro rfl
      exact isOpen.run_drop tokens

/-- A token is asked for behind the last one before the inner bookmark is returned to, and the outer
one is dropped after another look. -/
theorem run_exact_nested :
    let tokens : List Token := [⟨"a"⟩, ⟨"b"⟩]
    let front : List Operation := [.bookmark, .next]
    let inner : List Operation := front ++ [.bookmark, .requireNext, .next]
    let operations : List Operation := inner ++ [.revert, .peek, .drop]
    (start tokens).Allows operations ∧
      (start tokens).examined operations = [0, 1, 2, 1] ∧
      (run tokens operations).furthest = ([0, 1, 2, 1] : List Nat).max?.getD 0 ∧
      (run tokens inner).position = 2 ∧ (run tokens front).position = 1 ∧
      OpenLast front inner ∧
      run tokens (inner ++ [.revert]) = { run tokens front with furthest := 2 } := by
  intro tokens front inner operations
  have allowed : (start tokens).Allows operations := by decide
  have nested : Nested ([.requireNext] ++ [.next]) :=
    .append (.single (by decide) rfl) (.single (by decide) rfl)
  have isOpen : OpenLast front inner := ⟨_, nested, rfl⟩
  obtain ⟨-, ⟨furthest, -⟩, -⟩ := run_exact tokens operations allowed operations List.prefix_rfl
  obtain ⟨-, -, -, closing⟩ := run_exact tokens operations allowed inner (List.prefix_append _ _)
  obtain ⟨found, ⟨-, unique⟩, returned, -⟩ := closing .revert ⟨[.peek, .drop], rfl⟩ rfl
  obtain rfl := unique front isOpen
  exact ⟨allowed, rfl, furthest, rfl, rfl, isOpen, returned rfl⟩

end ContextualQuery.Cursor
