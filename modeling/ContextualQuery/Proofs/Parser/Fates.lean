import ContextualQuery.Proofs.Parser.Completeness
import ContextualQuery.Proofs.Parser.Follows

/-!
# The fate of a query

The parser tries alternatives and goes back, but it ends as the walk through the tokens says: it
rejects what the walk rejects, and where it does not match, the furthest place it has looked at is
the place where the walk stops. The reason is that an alternative that fails behind a token that
the walk has passed cannot be made up for. If the relation of a clause does not match behind its
comparitor, the index is read as a term, but then the comparitor that follows fits nowhere; and if
the clause behind a boolean does not match, the boolean is left over.

So a production that matches leaves the cursor in one of two kinds of places. Either the walk has
come as far as the cursor and nothing behind the next token was looked at, or the cursor is
stranded: the walk has stopped further on, and the next token is one that nothing can be done with.
-/

namespace ContextualQuery.Grammar

open Production ParserState

variable {options : Options} {fate : Fate} {standing next : Standing} {depth : Nat}
  {state : ParserState}

/-! ### Terms and relations -/

/-- A term takes the next token if that is a term, and looks at it in any case. -/
theorem follows_token (state : ParserState) :
    Follows fate term state
      (fun tree view => ∃ token, state.remaining.head? = some token ∧ token.IsTerm ∧
        tree = Tree.term token.unquote ∧ view = state.view.stepped)
      (fun furthest => (∀ token ∈ state.remaining.head?, ¬ token.IsTerm) ∧
        furthest = state.view.looked.furthest) := by
  refine Follows.peek (fun absent => ?_) fun token first => ?_
  · exact Follows.fail ⟨by simp [absent], rfl⟩
  · dsimp only
    split
    case isTrue structural =>
      exact Follows.fail ⟨by simp [first, Token.IsTerm, structural], rfl⟩
    case isFalse isTerm =>
      refine Follows.next first (Follows.pure ⟨token, first, ?_, rfl, ?_⟩)
      · simpa [Token.IsTerm] using isTerm
      · rw [view_stepped, view_looked, View.stepped_looked]

/-- A term takes the next token inside of an index and of a search term as well. -/
theorem follows_wrapped_token (wrap : Tree → Tree) (state : ParserState) :
    Follows fate (wrap <$> term) state
      (fun _ view => ∃ token, state.remaining.head? = some token ∧ token.IsTerm ∧
        view = state.view.stepped)
      (fun furthest => (∀ token ∈ state.remaining.head?, ¬ token.IsTerm) ∧
        furthest = state.view.looked.furthest) := by
  refine Follows.map ((follows_token state).weaken ?_ fun _ missed => missed)
  rintro _ _ _ ⟨token, first, isTerm, _, seen⟩
  exact ⟨token, first, isTerm, seen⟩

/-- A search term is read where it has to come next. -/
theorem follows_searchTerm (stands : Stands options fate ⟨.term, depth⟩ state.view) :
    Follows fate searchTerm state (fun _ => Stands options fate ⟨.clauseEnd, depth⟩)
      (fate = .stopped ·) := by
  refine (follows_wrapped_token Tree.searchTerm state).weaken ?_ ?_
  · rintro _ after _ ⟨token, first, isTerm, seen⟩
    rw [seen]
    exact stands.stepped first (by simp [Standing.step, Step.searchTerm, isTerm])
  · rintro _ ⟨noTerm, rfl⟩
    refine stands.stopped_looked fun token first => ?_
    simp [Standing.step, Step.searchTerm, noTerm token first]

/-- The value of a boost is read as a term, and checked behind it. -/
theorem follows_boost (stands : Stands options fate ⟨.equals, depth⟩ state.view)
    (wrap : Tree → Tree) :
    Follows fate
      (do
        let value ← term
        if value.text?.any isBoostValue then return wrap value
        else fail)
      state (fun _ => Stands options fate ⟨.boost, depth⟩) (fate = .stopped ·) := by
  refine Follows.bind ((follows_token state).miss ?_) ?_
  · rintro _ ⟨noTerm, rfl⟩
    refine stands.stopped_looked fun token first => ?_
    simp [Standing.step, Token.IsBoost, noTerm token first]
  · rintro _ middle _ ⟨token, first, isTerm, rfl, seen⟩
    by_cases value : isBoostValue token.unquote = true
    · rw [if_pos (by simpa [Tree.text?_term] using value)]
      refine Follows.pure ?_
      rw [seen]
      exact stands.stepped first (by simp [Standing.step, Token.IsBoost, isTerm, value])
    · rw [if_neg (by simpa [Tree.text?_term] using value)]
      refine Follows.fail ?_
      have furthest : middle.cursor.furthest = state.view.looked.furthest :=
        congrArg View.furthest seen
      rw [furthest]
      exact stands.stopped_looked (by simp [first, Standing.step, Token.IsBoost, value])

/-- A modifier is read as the walk over its tokens goes, or the walk stops within it. The slash, the name
and the `=` are read one by one, each with the step of the walk that it takes, and the boost behind them
by `follows_boost`. -/
theorem follows_modifier (stands : Stands options fate ⟨.relation, depth⟩ state.view)
    (slash : state.remaining.head? = some ⟨"/"⟩) :
    Follows fate (modifier options) state (fun _ => Stands options fate ⟨.boost, depth⟩)
      (fate = .stopped ·) := by
  have leads : Standing.step options ⟨.relation, depth⟩ ⟨"/"⟩ = .on ⟨.modifier, depth⟩ := by
    simp [Standing.step]
  refine Follows.bind (Follows.expect (Stands options fate ⟨.modifier, depth⟩)
    (fun _ => stands.stepped slash leads) fun absent => absurd rfl (absent _ slash)) ?_
  intro _ atName _ stands
  refine Follows.peek (fun absent => ?_) fun name first => ?_
  · exact Follows.fail (stands.stopped_looked (by simp [absent]))
  · dsimp only
    split
    case isTrue structural =>
      refine Follows.fail (stands.stopped_looked ?_)
      simp [first, Standing.step, Token.IsTerm, structural]
    case isFalse isTerm =>
      split
      case isTrue unsupported =>
        refine Follows.reject (stands.rejected first ?_)
        simp_all [Standing.step, Token.IsTerm]
      case isFalse supported =>
        split
        case isTrue other =>
          refine Follows.reject (stands.rejected first ?_)
          simp_all [Standing.step, Token.IsTerm]
        case isFalse boost =>
          have fits : Standing.step options ⟨.modifier, depth⟩ name = .on ⟨.name, depth⟩ := by
            simp_all [Standing.step, Token.IsTerm]
          have atEquals : Stands options fate ⟨.name, depth⟩ atName.looked.stepped.view := by
            rw [view_stepped]
            exact stands.looked.stepped first fits
          refine Follows.next first (Follows.bind (Follows.expect
            (Stands options fate ⟨.equals, depth⟩) (fun equals => ?_) fun absent => ?_) ?_)
          · exact atEquals.stepped equals (by simp [Standing.step])
          · refine atEquals.stopped_looked fun token head => ?_
            simp [Standing.step, absent token head]
          · exact fun _ middle _ stands => follows_boost stands _

/-- A list of modifiers is read as the walk over its tokens goes, or the walk stops within it. -/
theorem follows_modifierList (stands : Stands options fate ⟨.relation, depth⟩ state.view)
    (slash : state.remaining.head? = some ⟨"/"⟩) :
    Follows fate (modifierList options) state (fun _ => Stands options fate ⟨.term, depth⟩)
      (fate = .stopped ·) := by
  refine Follows.bind (follows_modifier stands slash) fun _ middle _ stands => ?_
  refine Follows.sees (fun seen => ?_) fun unseen => ?_
  · exact Follows.reject (stands.rejected seen (by simp [Standing.step]))
  · refine Follows.pure (Stands.relabel stands.looked fun token first => ?_)
    simp [Standing.step, unseen token first]

/-- A comparitor is missed without reading anything. -/
theorem follows_comparitor (stands : Stands options fate ⟨.word, depth⟩ state.view) :
    Follows fate (comparitor options) state
      (fun _ view => Stands options fate ⟨.relation, depth⟩ view ∧ ¬ EndsClause state.remaining)
      (fun furthest => EndsClause state.remaining ∧ furthest = state.cursor.position) := by
  refine Follows.peek (fun absent => ?_) fun token first => ?_
  · exact Follows.fail ⟨by simp [EndsClause, absent], stands.furthest_looked⟩
  · dsimp only
    split
    case isTrue unknown =>
      refine Follows.fail ⟨?_, stands.furthest_looked⟩
      simpa [EndsClause, first] using unknown
    case isFalse known =>
      split
      case isTrue unsupported =>
        refine Follows.reject (stands.rejected first ?_)
        simp_all [Standing.step]
      case isFalse supported =>
        refine Follows.next first (Follows.pure ⟨?_, ?_⟩)
        · rw [view_stepped]
          refine stands.looked.stepped first ?_
          simp_all [Standing.step]
        · simpa [EndsClause, first] using known

/-- A relation is missed at its comparitor, or the tokens stop behind it. -/
theorem follows_relation (stands : Stands options fate ⟨.word, depth⟩ state.view) :
    Follows fate (relation options) state
      (fun _ view => Stands options fate ⟨.term, depth⟩ view ∧ ¬ EndsClause state.remaining)
      (fun furthest => (EndsClause state.remaining ∧ furthest = state.cursor.position) ∨
        (¬ EndsClause state.remaining ∧ fate = .stopped furthest)) := by
  refine Follows.bind ((follows_comparitor stands).miss fun _ missed => .inl missed) ?_
  rintro _ middle _ ⟨stands, known⟩
  refine Follows.sees (fun seen => ?_) fun unseen => ?_
  · have behind : Stands options fate ⟨.relation, depth⟩ middle.looked.view := stands.looked
    refine Follows.bind ((follows_modifierList behind seen).miss ?_) ?_
    · exact fun _ stops => .inr ⟨known, stops⟩
    · exact fun _ _ _ stands => Follows.pure ⟨stands, known⟩
  · refine Follows.pure ⟨Stands.relabel stands.looked fun token first => ?_, known⟩
    simp [Standing.step, unseen token first]

/-! ### Clauses -/

/-- The walk has stopped at the furthest place looked at, and the cursor stands before it. -/
structure Stranded (fate : Fate) (view : View) : Prop where
  stopped : fate = .stopped view.furthest
  position_le : view.position ≤ view.furthest

/-- A stranded cursor stays so when the next token is looked at. -/
theorem Stranded.looked {view : View} (stranded : Stranded fate view) :
    view.looked.furthest = view.furthest := Nat.max_eq_left stranded.position_le

/-- Where the cursor stands behind a clause: the walk has come there, or it has stopped further on
and a comparitor is left over. -/
inductive ClauseRead (options : Options) (fate : Fate) (depth : Nat) (view : View) : Prop
  | stands (stands : Stands options fate ⟨.clauseEnd, depth⟩ view)
  | stranded (stranded : Stranded fate view) (comparitor : ¬ EndsClause view.remaining)

/-- Why a clause with an index was not read. -/
inductive IndexMissed (fate : Fate) (view : View) (furthest : Nat) : Prop
  | noTerm (noTerm : ∀ token ∈ view.remaining.head?, ¬ token.IsTerm)
      (stopped : fate = .stopped furthest)
  | noRelation {token : Token} {rest : List Token} (front : view.remaining = token :: rest)
      (isTerm : token.IsTerm) (ends : EndsClause rest) (seen : furthest = view.position + 1)
  | behindComparitor {token : Token} {rest : List Token} (front : view.remaining = token :: rest)
      (isTerm : token.IsTerm) (comparitor : ¬ EndsClause rest) (stopped : fate = .stopped furthest)

/-- At the start of a clause that is no group the next token has to be a term. -/
theorem step_clause {token : Token} (ungrouped : token.text ≠ "(") :
    Standing.step options ⟨.clause, depth⟩ token =
      if token.IsTerm then .on ⟨.word, depth⟩ else .stuck := by
  simp [Standing.step, Step.clause, ungrouped]

/-- A clause with an index is read as the walk over its tokens goes, or it is known why it was missed. It
is missed before the index, between index and comparitor, or behind the comparitor, and only in the last
case does the word that is read next fall behind the walk. -/
theorem follows_indexedClause (stands : Stands options fate ⟨.clause, depth⟩ state.view)
    (ungrouped : ∀ token ∈ state.remaining.head?, token.text ≠ "(") :
    Follows fate (indexedClause options) state
      (fun _ => Stands options fate ⟨.clauseEnd, depth⟩) (IndexMissed fate state.view) := by
  refine Follows.bind ((follows_wrapped_token Tree.index state).miss ?_) ?_
  · rintro _ ⟨noTerm, rfl⟩
    refine .noTerm noTerm (stands.stopped_looked fun token first => ?_)
    rw [step_clause (ungrouped token first), if_neg (noTerm token first)]
  · rintro _ middle _ ⟨token, first, isTerm, seen⟩
    obtain ⟨rest, front⟩ := List.head?_eq_some_iff.mp first
    have atWord : Stands options fate ⟨.word, depth⟩ middle.view := by
      rw [seen]
      refine stands.stepped first ?_
      rw [step_clause (ungrouped token first), if_pos isTerm]
    have behind : middle.remaining = rest := by
      have same := congrArg View.remaining seen
      simpa [View.stepped, front] using same
    have position : middle.cursor.position = state.cursor.position + 1 :=
      congrArg View.position seen
    have follows := follows_relation atWord
    rw [behind, position] at follows
    refine Follows.bind (follows.miss ?_) ?_
    · rintro furthest (⟨ends, rfl⟩ | ⟨comparitor, stopped⟩)
      · exact .noRelation front isTerm ends rfl
      · exact .behindComparitor front isTerm comparitor stopped
    · rintro _ atTerm _ ⟨stands, comparitor⟩
      refine Follows.bind ((follows_searchTerm stands).miss ?_) ?_
      · exact fun _ stopped => .behindComparitor front isTerm comparitor stopped
      · exact fun _ _ _ stands => Follows.pure stands

/-- A clause without an index, where the clause with one was missed. If the relation was missed at its
comparitor, the walk stands behind the word. If it was missed later, the walk has gone on with the
comparitor, which is left over when the word alone is read. -/
theorem follows_word {middle : ParserState}
    (stands : Stands options fate ⟨.clause, depth⟩ state.view)
    (ungrouped : ∀ token ∈ state.remaining.head?, token.text ≠ "(") (back : Moves [] state middle)
    (missed : IndexMissed fate state.view middle.cursor.furthest) :
    Follows fate (Tree.searchClause <$> searchTerm) middle
      (fun _ => ClauseRead options fate depth) (fate = .stopped ·) := by
  refine Follows.map ((follows_wrapped_token Tree.searchTerm middle).weaken ?_ ?_)
  · rintro _ after _ ⟨token, first, isTerm, seen⟩
    rw [back.remaining_nil] at first
    have atWord : Stands options fate ⟨.word, depth⟩ state.view.stepped := by
      refine stands.stepped first ?_
      rw [step_clause (ungrouped token first), if_pos isTerm]
    rw [seen, back.view_eq]
    cases missed with
    | noTerm noTerm => exact absurd isTerm (noTerm token first)
    | noRelation front _ ends furthest =>
      refine .stands (Stands.relabel (atWord.seen ?_) fun token next => ?_)
      · simp [View.stepped, furthest]
      · have unknown : isComparitor token.text = false := by
          refine ends token ?_
          rw [remaining_view] at front
          simpa [View.stepped, front] using next
        simp [Standing.step, unknown]
    | behindComparitor front _ comparitor stopped =>
      -- the word is read, but the walk has gone on with the comparitor, which is left over now
      rw [remaining_view] at front
      have later : state.cursor.position + 1 ≤ middle.cursor.furthest := atWord.position_le stopped
      have furthest : max middle.cursor.furthest state.cursor.position = middle.cursor.furthest :=
        Nat.max_eq_left (by omega)
      refine .stranded ⟨?_, ?_⟩ ?_
      · simpa [View.stepped, furthest] using stopped
      · simpa [View.stepped, furthest] using later
      · simpa [View.stepped, front] using comparitor
  · rintro _ ⟨noTerm, rfl⟩
    rw [back.remaining_nil] at noTerm
    rw [back.view_eq]
    cases missed with
    | noTerm _ stopped =>
      have later : state.cursor.position ≤ middle.cursor.furthest := stands.position_le stopped
      simpa [View.looked, later] using stopped
    | noRelation front isTerm | behindComparitor front isTerm =>
      rw [remaining_view] at front
      exact absurd isTerm (noTerm _ (by simp [front]))

/-- The token is no boolean, and not the one that is rejected either. -/
structure NoBoolean (token : Token) : Prop where
  unknown : ¬ token.IsBoolean
  unrejected : Text.lower token.text ≠ "prox"

/-- Where the cursor stands behind a query: the walk has come there and no boolean follows, or it
has stopped further on and a token is left over that closes no group. -/
inductive QueryRead (options : Options) (fate : Fate) (depth : Nat) (view : View) : Prop
  | stands (stands : Stands options fate ⟨.clauseEnd, depth⟩ view)
      (ends : ∀ token ∈ view.remaining.head?, NoBoolean token)
  | stranded (stranded : Stranded fate view) {token : Token}
      (first : view.remaining.head? = some token) (leftOver : token.text ≠ ")")

/-- Within a number of tokens, the production reads queries and follows their fate. -/
def FollowsQuery (options : Options) (bound : Nat) (production : Production Tree) : Prop :=
  ∀ {fate : Fate} {depth : Nat} {state : ParserState}, state.remaining.length < bound →
    Stands options fate ⟨.query, depth⟩ state.view →
    Follows fate production state (fun _ => QueryRead options fate depth) (fate = .stopped ·)

/-- Within a number of tokens, the production reads clauses and follows their fate. -/
def FollowsClause (options : Options) (bound : Nat) (production : Production Tree) : Prop :=
  ∀ {fate : Fate} {depth : Nat} {state : ParserState}, state.remaining.length ≤ bound →
    Stands options fate ⟨.clause, depth⟩ state.view →
    Follows fate production state (fun _ => ClauseRead options fate depth) (fate = .stopped ·)

variable {bound : Nat} {inner clause : Production Tree}

/-- A closing parenthesis closes the innermost group. -/
theorem step_closing :
    Standing.step options ⟨.clauseEnd, depth + 1⟩ ⟨")"⟩ = .on ⟨.clauseEnd, depth⟩ := by
  have lower : Text.lower ")" = ")" := Token.lower_stable ")" (by simp)
  simp [Standing.step, Step.clauseEnd, Token.IsBoolean, lower]

/-- A group is closed behind its query, or the tokens have stopped. -/
theorem follows_group (followsInner : FollowsQuery options bound inner)
    (enough : state.remaining.length ≤ bound)
    (stands : Stands options fate ⟨.clause, depth⟩ state.view)
    (opened : state.remaining.head? = some ⟨"("⟩) :
    Follows fate (group inner) state (fun _ => Stands options fate ⟨.clauseEnd, depth⟩)
      (fate = .stopped ·) := by
  have atQuery : Stands options fate ⟨.query, depth + 1⟩ state.stepped.view := by
    rw [view_stepped]
    exact stands.stepped opened (by simp [Standing.step, Step.clause])
  have fewer : state.stepped.remaining.length < bound := by
    obtain ⟨rest, front⟩ := List.head?_eq_some_iff.mp opened
    have behind := (moves_stepped front).remaining_eq
    rw [behind, List.length_append, List.length_singleton] at enough
    omega
  refine Follows.next opened (Follows.bind (followsInner fewer atQuery) ?_)
  intro _ middle _ read
  refine Follows.bind (Follows.expect (Stands options fate ⟨.clauseEnd, depth⟩)
    (fun closed => ?_) fun unclosed => ?_) fun _ _ _ stands => Follows.pure stands
  · cases read with
    | stands stands => exact stands.stepped closed step_closing
    | stranded _ first leftOver =>
      obtain rfl := Option.some.inj (first.symm.trans closed)
      exact absurd rfl leftOver
  · cases read with
    | stands stands ends =>
      refine stands.stopped_looked fun token first => ?_
      have noBoolean := ends token first
      simp [Standing.step, Step.clauseEnd, noBoolean.unknown, noBoolean.unrejected,
        unclosed token first]
    | stranded stranded =>
      have stopped := stranded.stopped
      rw [← stranded.looked] at stopped
      exact stopped

/-- A search clause is read as the walk over its tokens goes, if the queries in groups are. -/
theorem follows_searchClause (followsInner : FollowsQuery options bound inner) :
    FollowsClause options bound (searchClause options inner) := by
  intro fate depth state enough stands
  have looked : Stands options fate ⟨.clause, depth⟩ state.looked.view := stands.looked
  have marked : Stands options fate ⟨.clause, depth⟩ state.looked.marked.view := looked
  refine Follows.sees (fun opened => ?_) fun ungrouped => ?_
  · have group : Follows fate (group inner) state.looked.marked
        (fun _ => Stands options fate ⟨.clauseEnd, depth⟩) (fate = .stopped ·) :=
      follows_group followsInner enough marked opened
    exact group.bookmarked.weaken (fun _ _ _ stands => .stands stands) fun _ stopped => stopped
  · have indexed := follows_indexedClause marked ungrouped
    have first : Follows fate (bookmarked (indexedClause options)) state.looked
        (fun _ => ClauseRead options fate depth) (IndexMissed fate state.looked.view) :=
      indexed.bookmarked.weaken (fun _ _ _ stands => .stands stands) fun _ missed => missed
    refine Follows.orElse first ?_ ?_
    · exact fun ended => (indexed.restores ended).1
    · exact fun middle back missed => follows_word looked ungrouped back missed

/-! ### Chains -/

/-- A comparitor is no boolean. -/
theorem noBoolean_of_isComparitor {token : Token} (known : isComparitor token.text = true) :
    NoBoolean token := by
  refine ⟨fun isBoolean => ?_, fun proximity => ?_⟩
  · rw [isComparitor_of_isBoolean isBoolean] at known
    exact Bool.false_ne_true known
  · rw [isComparitor, proximity] at known
    exact absurd known (by decide)

/-- Behind a clause a boolean is read, or the next token is no boolean. -/
theorem follows_boolean (read : ClauseRead options fate depth state.view) :
    Follows fate boolean state
      (fun _ view => Stands options fate ⟨.operand, depth⟩ view ∧
        view.remaining = state.remaining.tail ∧
        ∃ token, state.remaining.head? = some token ∧ token.IsBoolean)
      (fun furthest => (∀ token ∈ state.remaining.head?, NoBoolean token) ∧
        furthest = state.view.looked.furthest) := by
  refine Follows.peek (fun absent => ?_) fun token first => ?_
  · exact Follows.fail ⟨by simp [absent], rfl⟩
  · dsimp only
    -- a stranded cursor stands before a comparitor, so a boolean is met only on the walk
    have stands (special : token.IsBoolean ∨ Text.lower token.text = "prox") :
        Stands options fate ⟨.clauseEnd, depth⟩ state.view := by
      cases read with
      | stands stands => exact stands
      | stranded _ comparitor =>
        have known : isComparitor token.text = true := by
          simpa [EndsClause, first] using comparitor
        have noBoolean := noBoolean_of_isComparitor known
        exact (special.elim noBoolean.unknown noBoolean.unrejected).elim
    split
    case isTrue proximity =>
      refine Follows.reject ((stands (.inr proximity)).rejected first ?_)
      simp [Standing.step, Step.clauseEnd, proximity]
    case isFalse notProximity =>
      split
      case isTrue operator =>
        have isBoolean : token.IsBoolean := operator
        refine Follows.next first (Follows.pure ⟨?_, ?_, token, first, isBoolean⟩)
        · rw [view_stepped]
          refine (stands (.inl isBoolean)).looked.stepped first ?_
          simp [Standing.step, Step.clauseEnd, notProximity, isBoolean]
        · rw [view_stepped]
          rfl
      case isFalse notBoolean =>
        refine Follows.fail ⟨?_, rfl⟩
        have noBoolean : NoBoolean token := ⟨notBoolean, notProximity⟩
        simpa [first] using noBoolean

/-- Behind a clause a boolean is read, or the next token is none, and the walk has looked no
further. -/
theorem follows_booleanGroup (read : ClauseRead options fate depth state.view) :
    Follows fate booleanGroup state
      (fun _ view => Stands options fate ⟨.clause, depth⟩ view ∧
        view.remaining = state.remaining.tail ∧
        ∃ token, state.remaining.head? = some token ∧ token.IsBoolean)
      (fun furthest => (∀ token ∈ state.remaining.head?, NoBoolean token) ∧
        furthest = state.view.looked.furthest) := by
  refine Follows.bind (follows_boolean read) ?_
  rintro _ middle _ ⟨stands, behind⟩
  refine Follows.sees (fun seen => ?_) fun unseen => ?_
  · exact Follows.reject (stands.rejected seen (by simp [Standing.step]))
  · refine Follows.pure ⟨Stands.relabel stands.looked fun token first => ?_, behind⟩
    simp [Standing.step, unseen token first]

/-- Why a link was not read: no boolean is there, or the walk stops behind the boolean. -/
inductive LinkMissed (fate : Fate) (view : View) (furthest : Nat) : Prop
  | noBoolean (noBoolean : ∀ token ∈ view.remaining.head?, NoBoolean token)
      (seen : furthest = view.looked.furthest)
  | behindBoolean {token : Token} (first : view.remaining.head? = some token)
      (isBoolean : token.IsBoolean) (stopped : fate = .stopped furthest)

/-- A link uses tokens. -/
theorem follows_link (followsClause : FollowsClause options bound clause)
    (enough : state.remaining.length ≤ bound) (read : ClauseRead options fate depth state.view) :
    Follows fate (link clause) state
      (fun _ view => ClauseRead options fate depth view ∧
        view.remaining.length < state.remaining.length)
      (LinkMissed fate state.view) := by
  refine Follows.bind ((follows_booleanGroup read).miss fun _ missed =>
    .noBoolean missed.1 missed.2) ?_
  rintro _ middle _ ⟨stands, behind, token, first, isBoolean⟩
  have fewer : middle.remaining.length < state.remaining.length := by
    obtain ⟨rest, front⟩ := List.head?_eq_some_iff.mp first
    rw [remaining_view] at behind
    simp [behind, front]
  have follows := followsClause (by omega) stands
  have bounded : Follows fate clause middle
      (fun _ view => ClauseRead options fate depth view ∧
        view.remaining.length < state.remaining.length)
      (LinkMissed fate state.view) := by
    refine follows.weaken (fun _ after passes read => ⟨read, ?_⟩) fun _ stopped => ?_
    · have later := passes.length_remaining_le
      rw [remaining_view]
      omega
    · exact .behindBoolean first isBoolean stopped
  exact Follows.bind bounded fun _ _ _ read => Follows.pure read

/-- Where no link is read, the query ends, or the walk has stopped further on. A token that is left over
is a comparitor or a boolean, and so it closes no group. -/
theorem LinkMissed.queryRead {view : View} {furthest : Nat} (missed : LinkMissed fate view furthest)
    (read : ClauseRead options fate depth view) :
    QueryRead options fate depth { view with furthest } := by
  cases missed with
  | noBoolean noBoolean seen =>
    subst seen
    cases read with
    | stands stands => exact .stands stands.looked noBoolean
    | stranded stranded comparitor =>
      have further := stranded.looked
      obtain ⟨token, first, known⟩ : ∃ token, view.remaining.head? = some token ∧
          isComparitor token.text = true := by
        simpa [EndsClause] using comparitor
      refine .stranded ⟨?_, ?_⟩ first fun closing => ?_
      · rw [further]
        exact stranded.stopped
      · rw [further]
        exact stranded.position_le
      · rw [isComparitor, closing, Token.lower_stable ")" (by simp)] at known
        exact absurd known (by decide)
  | behindBoolean first isBoolean stopped =>
    refine .stranded ⟨stopped, ?_⟩ first fun closing => ?_
    · cases read with
      | stands stands => exact stands.position_le stopped
      | stranded stranded =>
        obtain rfl : view.furthest = furthest := by simpa [stopped] using stranded.stopped.symm
        exact stranded.position_le
    · rw [Token.IsBoolean, closing, Token.lower_stable ")" (by simp)] at isBoolean
      exact absurd isBoolean (by decide)

/-- Links are read to the end of the query. -/
theorem follows_links (followsClause : FollowsClause options bound clause) {steps : Nat}
    (enough : state.remaining.length ≤ bound) (enoughSteps : state.remaining.length < steps)
    (read : ClauseRead options fate depth state.view) :
    Follows fate (links clause steps) state (fun _ => QueryRead options fate depth)
      (fate = .stopped ·) := by
  induction steps generalizing state with
  | zero => omega
  | succ steps inductionHypothesis =>
    have followsLink : Follows fate (link clause) state.marked
        (fun _ view => ClauseRead options fate depth view ∧
          view.remaining.length < state.remaining.length)
        (LinkMissed fate state.view) := follows_link followsClause enough read
    refine Follows.bind (Follows.optional (fun first? view =>
      match first? with
      | some _ => ClauseRead options fate depth view ∧
          view.remaining.length < state.remaining.length
      | none => QueryRead options fate depth view)
      followsLink fun _ missed => LinkMissed.queryRead missed read) ?_
    intro first? middle _ found
    cases first? with
    | none => exact Follows.pure found
    | some first =>
      -- a link uses tokens, so the steps that are left are enough for those that remain
      obtain ⟨read, fewer⟩ := found
      rw [remaining_view] at fewer
      refine Follows.bind (inductionHypothesis (by omega) (by omega) read) ?_
      exact fun _ _ _ read => Follows.pure read

/-- A scoped clause is read as the walk over its tokens goes, if its clauses are. -/
theorem follows_scopedClause (followsClause : FollowsClause options bound clause)
    (enough : state.remaining.length ≤ bound)
    (stands : Stands options fate ⟨.clause, depth⟩ state.view) :
    Follows fate (scopedClause clause) state (fun _ => QueryRead options fate depth)
      (fate = .stopped ·) := by
  refine Follows.bind (followsClause enough stands) fun _ middle passes read => ?_
  have fewer := passes.length_remaining_le
  have steps : middle.remaining.length < middle.cursor.size + 1 :=
    Nat.lt_succ_of_le (length_remaining_le middle)
  have follows : Follows fate (withSteps (links clause)) middle
      (fun _ => QueryRead options fate depth) (fate = .stopped ·) :=
    follows_links followsClause (by omega) steps read
  refine Follows.bind follows fun _ after _ read => ?_
  split
  · exact Follows.after rfl ⟨⟨rfl, rfl⟩, Nat.le_refl _⟩ (Follows.pure read)
  · exact Follows.pure read

/-- A prefix assignment is rejected at its term, or the tokens stop there. -/
theorem follows_prefixAssignment (stands : Stands options fate ⟨.query, depth⟩ state.view)
    (mark : state.remaining.head? = some ⟨">"⟩) {Reached : Tree → View → Prop} :
    Follows fate prefixAssignment state Reached (fate = .stopped ·) := by
  have atTerm : Stands options fate ⟨.assignment, depth⟩ state.stepped.view := by
    rw [view_stepped]
    exact stands.stepped mark (by simp [Standing.step])
  refine Follows.next mark (Follows.bind ((follows_token _).miss ?_) ?_)
  · rintro _ ⟨noTerm, rfl⟩
    refine atTerm.stopped_looked fun token first => ?_
    simp [Standing.step, noTerm token first]
  · rintro _ middle _ ⟨token, first, isTerm, _⟩
    exact Follows.reject (atTerm.rejected first (by simp [Standing.step, isTerm]))

/-- A query is read as the walk over its tokens goes, if its clauses are, within one more token. -/
theorem follows_cqlQuery (followsClause : FollowsClause options bound clause) :
    FollowsQuery options (bound + 1) (cqlQuery clause) := by
  intro fate depth state enough stands
  have looked : Stands options fate ⟨.query, depth⟩ state.looked.view := stands.looked
  refine Follows.sees (fun mark => ?_) fun unmarked => ?_
  · have marked : Stands options fate ⟨.query, depth⟩ state.looked.marked.view := looked
    exact (follows_prefixAssignment marked mark).bookmarked
  · have atClause : Stands options fate ⟨.clause, depth⟩ state.looked.view := by
      refine looked.relabel fun token first => ?_
      simp [Standing.step, unmarked token first]
    have fewer : state.looked.remaining.length ≤ bound := Nat.le_of_lt_succ enough
    exact Follows.map (follows_scopedClause followsClause fewer atClause)

/-- A query follows the fate of its tokens, if it may be nested as deep as there are tokens. -/
theorem follows_query (bound : Nat) : FollowsQuery options bound (query options bound) := by
  induction bound with
  | zero =>
    intro fate depth state enough
    omega
  | succ bound inductionHypothesis =>
    exact follows_cqlQuery (follows_searchClause inductionHypothesis)

end ContextualQuery.Grammar
