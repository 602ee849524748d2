import ContextualQuery.Proofs.Token.Layout
import ContextualQuery.Text.Pattern

/-!
# The pattern of tokens

The language gives its tokens as one pattern: blanks, and behind them a mark, a quoted term or a bare
word, in this order of preference. Between the quotes stand characters that are neither quotes nor
backslashes, and runs of backslashes with the character behind each run.

The reader of words computes what a backtracking search for this pattern finds. For the marks and the
bare words it is the first of several ways. A quoted term has one way only: no item between the quotes
starts with a quote, so the items cannot stop before the first quote that is not in one of them and
cannot go on behind it. This quote is the first one without a backslash directly before it.
-/

namespace ContextualQuery.Token

open Text

/-- A character between quotes that stands for itself. -/
def isPlain (c : Char) : Bool := c != '"' && c != '\\'

/-- A piece of a quoted term: a plain character, or a run of backslashes with the character behind. -/
def quotedItem : Pattern :=
  .choice (.one isPlain) (.sequence (.atLeastOnce (.one (· == '\\'))) (.one (· != '\\')))

/-- What stands behind the first quote of a quoted term. -/
def quotedRest : Pattern := .sequence (.many quotedItem) (.one (· == '"'))

/-- A quoted term. -/
def quotedPattern : Pattern := .sequence (.one (· == '"')) quotedRest

/-- The pattern of a token. -/
def pattern : Pattern :=
  .choice (.anyOf (punctuation.map .literal))
    (.choice quotedPattern (.atLeastOnce (.one isBare)))

/-- The ways in which blanks and a token begin a text: the blanks, and the way of the token. -/
def spacedWays (chars : List Char) : List (List Char × Pattern.Way) :=
  ((Pattern.many (.one isBlank)).ways chars).flatMap fun gap =>
    (pattern.ways gap.2).map fun way => (gap.1, way)

/-! ### Quoted terms -/

/-- An item starts with its plain character or with its first backslash. -/
theorem ways_quotedItem (chars : List Char) :
    quotedItem.ways chars = (Pattern.one isPlain).ways chars ++
      Pattern.andThen ((Pattern.one (· == '\\')).ways chars)
        (Pattern.sequence (.many (.one (· == '\\'))) (.one (· != '\\'))).ways := by
  rw [quotedItem, Pattern.ways_choice, Pattern.atLeastOnce, Pattern.ways_sequence_assoc,
    Pattern.ways_sequence]

/-- A run of backslashes is read with the character behind it, and never in parts. -/
theorem ways_quotedItem_slash (rest : List Char) :
    quotedItem.ways ('\\' :: rest) =
      ((Pattern.one (· != '\\')).ways (rest.dropWhile (· == '\\'))).map
        (Pattern.Way.behind ('\\' :: rest.takeWhile (· == '\\'))) := by
  have refused : ∀ (c : Char) (behind : List Char), (c == '\\') = true →
      (Pattern.one (· != '\\')).ways (c :: behind) = [] := by simp
  simp [ways_quotedItem, Pattern.ways_run refused rest, isPlain]

/-- An item reads something. -/
theorem quotedItem_solid (chars : List Char) : ∀ way ∈ quotedItem.ways chars, way.1 ≠ [] := by
  cases chars with
  | nil => simp [ways_quotedItem]
  | cons c rest =>
    by_cases slash : c = '\\'
    · subst slash
      rw [ways_quotedItem_slash]
      intro way member
      obtain ⟨more, _, rfl⟩ := List.mem_map.mp member
      simp [Pattern.Way.behind]
    · simp [ways_quotedItem, slash]

/-- A quote that is not escaped closes; any other character is passed over. -/
theorem closeQuote?_cons (escaped : Bool) (c : Char) (rest : List Char) :
    closeQuote? escaped (c :: rest) =
      if c = '"' ∧ escaped = false then some ([], rest)
      else (closeQuote? (c == '\\') rest).map (Pattern.Way.behind [c]) := rfl

/-- The character behind a run of backslashes closes nothing. -/
theorem closeQuote?_slashes (chars : List Char) :
    closeQuote? true chars =
      match chars.dropWhile (· == '\\') with
      | [] => none
      | c :: rest => (closeQuote? false rest).map
          (Pattern.Way.behind (chars.takeWhile (· == '\\') ++ [c])) := by
  induction chars with
  | nil => rfl
  | cons c rest inductionHypothesis =>
    rw [closeQuote?_cons, if_neg (by simp)]
    by_cases slash : c = '\\'
    · subst slash
      rw [beq_self_eq_true, inductionHypothesis]
      cases shape : rest.dropWhile (· == '\\') <;> simp [shape, Function.comp_def]
    · have other : (c == '\\') = false := by simpa using slash
      simp [other]

/-- The way with the quote that closes at the end of what it reads. -/
def closed (way : Pattern.Way) : Pattern.Way := (way.1 ++ ['"'], way.2)

/-- The closing quote comes at the end, whatever stands in front. -/
@[simp] theorem closed_comp_behind (word : List Char) :
    closed ∘ Pattern.Way.behind word = Pattern.Way.behind word ∘ closed := by
  funext way
  simp [closed, Pattern.Way.behind]

/-- What stands behind the first quote has at most one way, up to the quote that closes. The text starts
with a run of backslashes and the character that they escape, with the quote that closes, or with a plain
character. The first and the last are read as an item and leave a shorter text. -/
theorem ways_quotedRest (chars : List Char) :
    quotedRest.ways chars = ((closeQuote? false chars).map closed).toList := by
  rw [quotedRest, Pattern.ways_sequence_many (quotedItem_solid chars), ← quotedRest]
  cases chars with
  | nil => simp [ways_quotedItem, closeQuote?]
  | cons c rest =>
    by_cases slash : c = '\\'
    · subst slash
      rw [ways_quotedItem_slash, closeQuote?_cons, if_neg (by simp), beq_self_eq_true,
        closeQuote?_slashes]
      cases shape : rest.dropWhile (· == '\\') with
      | nil => simp
      | cons d after =>
        have other : d ≠ '\\' := by
          have stop := List.head?_dropWhile_not (· == '\\') rest
          simpa [shape] using stop
        have shorter : after.length < rest.length := by
          have bound := (List.dropWhile_suffix (l := rest) (· == '\\')).length_le
          rw [shape] at bound
          exact bound
        simp [other, ways_quotedRest after, Pattern.Way.behind, Option.toList_map]
    · by_cases quote : c = '"'
      · subst quote
        simp [ways_quotedItem, isPlain, closeQuote?_cons, closed]
      · have notSlash : (c == '\\') = false := by simpa using slash
        simp [ways_quotedItem, isPlain, slash, quote, closeQuote?_cons, notSlash,
          ways_quotedRest rest, Option.toList_map]
termination_by chars.length

/-- A quoted term has at most one way, so a search that goes on behind it cannot end it elsewhere. -/
theorem ways_quotedPattern (c : Char) (rest : List Char) :
    quotedPattern.ways (c :: rest) =
      if c = '"' then
        ((closeQuote? false rest).map fun way => ('"' :: (way.1 ++ ['"']), way.2)).toList
      else [] := by
  rw [quotedPattern, Pattern.ways_sequence]
  split
  case isTrue quote =>
    subst quote
    have word : Pattern.Way.behind ['"'] ∘ closed =
        fun way => ('"' :: (way.1 ++ ['"']), way.2) := rfl
    simp [ways_quotedRest, ← Option.toList_map, word]
  case isFalse other => simp [other]

/-! ### Words and texts -/

/-- The reader of words finds what the pattern matches. -/
theorem first?_pattern (chars : List Char) : pattern.first? chars = lexeme? chars := by
  rw [pattern, Pattern.first?_choice, Pattern.first?_choice, Pattern.first?_anyOf_literal,
    lexeme?.eq_def]
  cases punctuation.find? (·.isPrefixOf chars) with
  | some mark => rfl
  | none =>
    cases chars with
    | nil => rfl
    | cons c rest =>
      rw [Pattern.first?_atLeastOnce_one, Pattern.first?, ways_quotedPattern]
      by_cases quote : c = '"'
      · subst quote
        cases closing : closeQuote? false rest <;> simp [closing, isBare_quote]
      · simp [quote]

/-- No token starts with a blank. -/
theorem ways_pattern_blank {c : Char} (blank : isBlank c = true) (rest : List Char) :
    pattern.ways (c :: rest) = [] := by
  have nothing : lexeme? (c :: rest) = none := by
    refine Option.eq_none_iff_forall_ne_some.mpr fun way found => ?_
    obtain ⟨split, lexeme, _⟩ := lexeme?_eq_some_iff.mp found
    obtain ⟨first, tail, shape⟩ := List.exists_cons_of_ne_nil lexeme.ne_nil
    rw [shape] at split lexeme
    obtain rfl : c = first := (List.cons.inj split).1
    simp [lexeme.isBlank_head] at blank
  rwa [← first?_pattern, Pattern.first?, List.head?_eq_none_iff] at nothing

/-- The gap in front of a token is the whole run of blanks. -/
theorem spacedWays_eq (chars : List Char) :
    spacedWays chars =
      (pattern.ways (skipBlanks chars)).map fun way => (chars.takeWhile isBlank, way) := by
  induction chars with
  | nil => simp [spacedWays, Pattern.ways_many (Pattern.one_solid isBlank []), skipBlanks]
  | cons c rest inductionHypothesis =>
    rw [spacedWays, Pattern.ways_many (Pattern.one_solid isBlank _)]
    by_cases blank : isBlank c = true
    · -- With fewer blanks the next character would be one, which starts no token.
      have longer := congrArg
        (List.map fun (found : List Char × Pattern.Way) => (c :: found.1, found.2))
        inductionHypothesis
      simpa [spacedWays, blank, ways_pattern_blank blank rest, List.map_flatMap, List.flatMap_map,
        Function.comp_def, Pattern.Way.behind, skipBlanks] using longer
    · simp [blank, skipBlanks]

/-- Behind its blanks a text starts with the token that the reader of words finds. -/
theorem head?_spacedWays (chars : List Char) :
    (spacedWays chars).head? =
      (lexeme? (skipBlanks chars)).map fun way => (chars.takeWhile isBlank, way) := by
  rw [spacedWays_eq, List.head?_map, ← first?_pattern, Pattern.first?]

/-- A text is split by matching the pattern again and again. What is left where it does not match must
be blank. -/
theorem lex_eq_match (chars : List Char) :
    lex chars =
      match (spacedWays chars).head? with
      | some (_, word, after) => (lex after).map (⟨String.ofList word⟩ :: ·)
      | none => if skipBlanks chars = [] then .ok [] else .error (skipBlanks chars) := by
  rw [head?_spacedWays]
  cases shape : skipBlanks chars with
  | nil => rw [lex_nil shape]; rfl
  | cons c rest =>
    rw [lex_cons shape]
    cases lexeme? (c :: rest) with
    | none => simp
    | some way => rfl

end ContextualQuery.Token
