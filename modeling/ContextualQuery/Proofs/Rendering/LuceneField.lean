import ContextualQuery.Proofs.Number.Characters
import ContextualQuery.Proofs.Rendering.Flattened

/-!
# Fields of Lucene queries

A clause without a group is rendered for Lucene as its term, with its index before a colon and its boost
behind a caret where it has them. Index and term are quoted where a query text would quote them, but a
colon and a caret are characters of bare words. So the parts that are not quoted run into one word.
`Field.tokens` are the words of the rendered clause. They can be told apart again if the term is quoted
or has no colon, nor a caret where one would be taken for that of a boost: then the last colon is the one
behind the index, and the last caret the one before the boost.
-/

namespace ContextualQuery

namespace Token

/-- Pieces without gaps between them, behind a gap. -/
def glued (gap : List Char) : List Token → List Piece
  | [] => []
  | token :: rest => ⟨gap, token⟩ :: rest.map fun token => ⟨[], token⟩

/-- Without a gap in front, tokens are glued together as they are. -/
theorem glued_nil_eq_map (tokens : List Token) :
    glued [] tokens = tokens.map fun token => ⟨[], token⟩ := by
  cases tokens <;> rfl

/-- The gap in front does not matter to the words. -/
theorem spaced_glued_iff {gap after : List Char} (blank : IsGap gap) (tokens : List Token) :
    Spaced (glued gap tokens) after ↔ Spaced (glued [] tokens) after := by
  cases tokens with
  | nil => rfl
  | cons token rest =>
    have nothing : IsGap [] := by simp [IsGap]
    simp [glued, Spaced, blank, nothing, Piece.word]

/-- Glued tokens are written after their gap without anything between them. -/
theorem spelled_glued {tokens : List Token} (some : tokens ≠ []) (gap after : List Char) :
    spelled (glued gap tokens) after =
      gap ++ (tokens.flatMap (fun token => token.text.toList) ++ after) := by
  obtain ⟨token, rest, rfl⟩ := List.exists_cons_of_ne_nil some
  simp [glued, spelled, Piece.word, List.flatMap_map]

/-- A term that needs no quotes is written as it is. -/
theorem ofTerm_of_bare {term : String} (bare : needsQuotes term = false) : ofTerm term = ⟨term⟩ := by
  simp [ofTerm, quoteTerm, bare]

/-- Different terms are written differently. -/
theorem ofTerm_injective {term term' : String} (same : ofTerm term = ofTerm term') : term = term' := by
  rw [← unquote_ofTerm term, same, unquote_ofTerm]

/-- A bare word stays one when characters of bare words are added to it. -/
theorem IsBareWord.append {left right : List Char} (leftBare : IsBareWord left)
    (rightBare : ∀ c ∈ right, isBare c = true) : IsBareWord (left ++ right) :=
  ⟨by simp [leftBare.1], List.forall_mem_append.mpr ⟨leftBare.2, rightBare⟩⟩

end Token

namespace Lucene

open Token (needsQuotes)

/-- A clause without a group as Lucene has it: an index and a boost if there are such, and a term. -/
structure Field where
  index? : Option String
  value : String
  boost? : Option String

namespace Field

/-- The boost of a field behind its term. -/
def suffix : Option String → String
  | none => ""
  | some boost => "^" ++ boost

/-- The words of a term and a boost behind the characters that lead to them. -/
def valueTokens (lead value : String) (boost? : Option String) : List Token :=
  if needsQuotes value then
    ⟨lead⟩ :: .ofTerm value :: boost?.toList.map fun boost => ⟨"^" ++ boost⟩
  else [⟨lead ++ value ++ suffix boost?⟩]

/-- The words of a field. -/
def tokens (field : Field) : List Token :=
  match field.index? with
  | none => [.ofTerm field.value]
  | some name =>
    if needsQuotes name then .ofTerm name :: valueTokens ":" field.value field.boost?
    else valueTokens (name ++ ":") field.value field.boost?

/-- The text of a field. -/
def text (field : Field) : String :=
  match field.index? with
  | none => Token.quoteTerm field.value
  | some name =>
    Token.quoteTerm name ++ ":" ++ Token.quoteTerm field.value ++ suffix field.boost?

/-- Index and term can be written, and a boost stands in an indexed field and has a valid value. -/
structure Valid (field : Field) : Prop where
  index : ∀ name ∈ field.index?, Token.IsWritable name
  value : Token.IsWritable field.value
  boost : ∀ boost ∈ field.boost?, Grammar.isBoostValue boost = true
  indexed : field.index? = none → field.boost? = none

/-! ### Words -/

/-- A value is written with at least one token. -/
theorem valueTokens_ne_nil (lead value : String) (boost? : Option String) :
    valueTokens lead value boost? ≠ [] := by
  rw [valueTokens]
  split <;> simp

/-- A field is written with at least one token. -/
theorem tokens_ne_nil (field : Field) : field.tokens ≠ [] := by
  unfold tokens
  split
  · simp
  · split
    · simp
    · exact valueTokens_ne_nil _ _ _

/-- The tokens of a value write the value with its lead and its boost. -/
theorem flatMap_valueTokens (lead value : String) (boost? : Option String) :
    (valueTokens lead value boost?).flatMap (fun token => token.text.toList) =
      (lead ++ Token.quoteTerm value ++ suffix boost?).toList := by
  rw [valueTokens]
  split
  case isTrue => cases boost? <;> simp [suffix, Token.ofTerm]
  case isFalse bare => simp [Token.quoteTerm, bare]

/-- The words of a field make up its text. -/
theorem flatMap_tokens (field : Field) :
    field.tokens.flatMap (fun token => token.text.toList) = field.text.toList := by
  unfold tokens text
  split
  · simp [Token.ofTerm]
  · split
    case isTrue needed => simp [flatMap_valueTokens, Token.ofTerm]
    case isFalse bare => simp [flatMap_valueTokens, Token.quoteTerm, bare]

/-- A colon stands in bare words. -/
theorem isBareWord_colon : Token.IsBareWord ":".toList :=
  (Token.needsQuotes_eq_false_iff ":").mp (by decide)

/-- A caret stands in bare words. -/
theorem isBareWord_caret : Token.IsBareWord "^".toList :=
  (Token.needsQuotes_eq_false_iff "^").mp (by decide)

/-- A bare index leads to the term as a bare word. -/
theorem isBareWord_index {name : String} (bare : ¬ needsQuotes name = true) :
    Token.IsBareWord (name ++ ":").toList := by
  have nameBare := (Token.needsQuotes_eq_false_iff name).mp (by simpa using bare)
  rw [String.toList_append]
  exact nameBare.append isBareWord_colon.2

/-- A word with a bare word at its front is a term. -/
theorem isTerm_append {front : String} (bare : Token.IsBareWord front.toList) (back : String) :
    Token.IsTerm ⟨front ++ back⟩ := by
  obtain ⟨c, rest, shape⟩ := List.exists_cons_of_ne_nil bare.1
  have plain := ((Token.isBare_iff c).mp (bare.2 c (by simp [shape]))).2.1
  rw [Token.IsTerm, Token.startsStructural_eq (by rw [String.toList_append, shape]; rfl), plain]

/-- The tokens of a value are terms, so no boolean is made of them. -/
theorem isTerm_of_mem_valueTokens {lead : String} (leadBare : Token.IsBareWord lead.toList)
    (value : String) (boost? : Option String) :
    ∀ token ∈ valueTokens lead value boost?, token.IsTerm := by
  rw [valueTokens]
  split
  case isTrue =>
    have boostTerms : ∀ boost ∈ boost?.toList, Token.IsTerm ⟨"^" ++ boost⟩ := fun boost _ =>
      isTerm_append isBareWord_caret boost
    simp only [List.forall_mem_cons, List.forall_mem_map]
    exact ⟨Token.isTerm_of_word (.inl leadBare), Token.isTerm_ofTerm value, boostTerms⟩
  case isFalse =>
    rw [List.forall_mem_singleton, String.append_assoc]
    exact isTerm_append leadBare _

/-- The words of a field are terms. -/
theorem isTerm_of_mem_tokens (field : Field) : ∀ token ∈ field.tokens, token.IsTerm := by
  unfold tokens
  split
  case h_1 => simpa using Token.isTerm_ofTerm field.value
  case h_2 name _ =>
    split
    case isTrue =>
      rw [List.forall_mem_cons]
      exact ⟨Token.isTerm_ofTerm name, isTerm_of_mem_valueTokens isBareWord_colon _ _⟩
    case isFalse bare => exact isTerm_of_mem_valueTokens (isBareWord_index bare) _ _

/-! ### Spacing -/

variable {after : List Char} {value : String} {boost? : Option String}

/-- A boost behind a quoted term is a bare word. -/
theorem isBareWord_boost {boost : String} (isBoost : Grammar.isBoostValue boost = true) :
    Token.IsBareWord ("^" ++ boost).toList := by
  rw [String.toList_append]
  exact isBareWord_caret.append (Grammar.isBareWord_of_isBoostValue isBoost).2

/-- A boost behind a value consists of characters of bare words. -/
theorem isBare_suffix (isBoost : ∀ boost ∈ boost?, Grammar.isBoostValue boost = true) :
    ∀ c ∈ (suffix boost?).toList, Token.isBare c = true := by
  cases boost? with
  | none => simp [suffix]
  | some boost => exact (isBareWord_boost (isBoost boost rfl)).2

/-- The words behind a bare lead are spaced. A quote may follow a bare lead without a gap, and a bare
value makes one word with the lead and the boost. -/
theorem spaced_valueTokens {lead : String} (leadBare : Token.IsBareWord lead.toList)
    (writable : Token.IsWritable value)
    (isBoost : ∀ boost ∈ boost?, Grammar.isBoostValue boost = true)
    (separated : Clause.Separated after) :
    Token.Spaced (Token.glued [] (valueTokens lead value boost?)) after := by
  rw [valueTokens]
  split
  case isTrue needed =>
    have quoted := writable.isQuotedWord needed
    have boostSpaced : Token.Spaced
        ((boost?.toList.map fun boost => (⟨"^" ++ boost⟩ : Token)).map fun token => ⟨[], token⟩)
        after := by
      cases boost? with
      | none => trivial
      | some boost =>
        have bare := isBareWord_boost (isBoost boost rfl)
        exact ⟨Clause.isGap_nil, .inr (.inl bare), Token.stops_of_separator bare.1 separated, trivial⟩
    refine ⟨Clause.isGap_nil, .inr (.inl leadBare), ?_, Clause.isGap_nil, .inr (.inr quoted),
      quoted.stops _, boostSpaced⟩
    rw [List.map_cons, Token.spelled_cons]
    change Token.Stops lead.toList ((Token.ofTerm value).text.toList ++ _)
    rw [Token.toList_ofTerm_of_needsQuotes needed]
    exact Token.stops_quote _ _
  case isFalse bare =>
    have valueBare := (Token.needsQuotes_eq_false_iff value).mp (by simpa using bare)
    have word : Token.IsBareWord (lead ++ value ++ suffix boost?).toList := by
      rw [String.toList_append, String.toList_append]
      exact (leadBare.append valueBare.2).append (isBare_suffix isBoost)
    exact ⟨Clause.isGap_nil, .inr (.inl word), Token.stops_of_separator word.1 separated, trivial⟩

/-- The words of a field are spaced. -/
theorem Valid.spaced_tokens {field : Field} (valid : field.Valid) {gap : List Char}
    (blank : Token.IsGap gap) (separated : Clause.Separated after) :
    Token.Spaced (Token.glued gap field.tokens) after := by
  rw [Token.spaced_glued_iff blank]
  unfold tokens
  split
  case h_1 =>
    have lexeme := valid.value.isLexeme
    exact ⟨Clause.isGap_nil, lexeme, Token.stops_of_separator lexeme.ne_nil separated, trivial⟩
  case h_2 name isIndex =>
    have nameWritable := valid.index name isIndex
    split
    case isTrue needed =>
      have quoted := nameWritable.isQuotedWord needed
      have behind : Token.Spaced (Token.glued [] (valueTokens ":" field.value field.boost?)) after :=
        spaced_valueTokens isBareWord_colon valid.value valid.boost separated
      rw [Token.glued_nil_eq_map] at behind
      exact ⟨Clause.isGap_nil, .inr (.inr quoted), quoted.stops _, behind⟩
    case isFalse bare =>
      exact spaced_valueTokens (isBareWord_index bare) valid.value valid.boost separated

end Field

end Lucene

end ContextualQuery
