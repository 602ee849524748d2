import ContextualQuery.Proofs.Rendering.LuceneField

/-!
# Reading fields of Lucene queries

The words of a field determine its index, its term and its boost, if the term is quoted or free of the
marks that would be taken for those of the field: a colon, and a caret where there is an index but no
boost. A quoted index or term is a word of its own. Otherwise the parts are told apart by the last colon
and the last caret of the word that they run into, since the value of a boost has neither.
-/

namespace ContextualQuery.Lucene

open Token (needsQuotes)

/-- A text is cut at the last of its marks in one way only. -/
theorem append_cons_inj_of_last {mark : Char} {front back front' back' : List Char}
    (last : mark ∉ back) (last' : mark ∉ back')
    (same : front ++ mark :: back = front' ++ mark :: back') : front = front' ∧ back = back' := by
  rcases List.append_eq_append_iff.mp same with ⟨middle, rfl, cut⟩ | ⟨middle, rfl, cut⟩
  · cases middle with
    | nil => simpa using cut
    | cons c rest =>
      obtain ⟨_, rfl⟩ := List.cons.inj cut
      simp at last
  · cases middle with
    | nil => simpa [eq_comm] using cut
    | cons c rest =>
      obtain ⟨_, rfl⟩ := List.cons.inj cut
      simp at last'

namespace Field

/-- The term is quoted, or none of its characters is taken for the colon behind an index or, where there
is an index, for the caret before a boost. -/
def Distinct (field : Field) : Prop :=
  needsQuotes field.value = true ∨
    ':' ∉ field.value.toList ∧
      (field.index?.isSome = true → field.boost? = none → '^' ∉ field.value.toList)

/-- A term in front of which an index can stand: it is quoted, or has no marks of a field. -/
def Marked (value : String) (boost? : Option String) : Prop :=
  needsQuotes value = true ∨
    ':' ∉ value.toList ∧ (boost? = none → '^' ∉ value.toList)

variable {value value' : String} {boost? boost?' : Option String}

/-- The value of a boost has no marks of a field. -/
theorem not_mem_boost {boost : String} (isBoost : Grammar.isBoostValue boost = true) :
    ':' ∉ boost.toList ∧ '^' ∉ boost.toList := by
  have plain := Grammar.isPart_of_isBoostValue isBoost
  exact ⟨fun member => (plain _ member).plain.2.1 rfl, fun member => (plain _ member).plain.2.2 rfl⟩

/-- A bare term is separated from the boost behind it by the last caret. A boost has no caret of its own,
and a term without a boost has none at all. -/
theorem append_suffix_inj (isBoost : ∀ boost ∈ boost?, Grammar.isBoostValue boost = true)
    (isBoost' : ∀ boost ∈ boost?', Grammar.isBoostValue boost = true)
    (noCaret : boost? = none → '^' ∉ value.toList)
    (noCaret' : boost?' = none → '^' ∉ value'.toList)
    (same : (value ++ suffix boost?).toList = (value' ++ suffix boost?').toList) :
    value = value' ∧ boost? = boost?' := by
  cases boost? with
  | none =>
    cases boost?' with
    | none => exact ⟨String.toList_inj.mp (by simpa [suffix] using same), rfl⟩
    | some boost' =>
      have caret : '^' ∈ value.toList := by
        have shape : value.toList = value'.toList ++ '^' :: boost'.toList := by
          simpa [suffix] using same
        simp [shape]
      exact absurd caret (noCaret rfl)
  | some boost =>
    cases boost?' with
    | none =>
      have caret : '^' ∈ value'.toList := by
        have shape : value.toList ++ '^' :: boost.toList = value'.toList := by
          simpa [suffix] using same
        simp [← shape]
      exact absurd caret (noCaret' rfl)
    | some boost' =>
      have shape : value.toList ++ '^' :: boost.toList = value'.toList ++ '^' :: boost'.toList := by
        simpa [suffix] using same
      obtain ⟨values, boosts⟩ := append_cons_inj_of_last (not_mem_boost (isBoost boost rfl)).2
        (not_mem_boost (isBoost' boost' rfl)).2 shape
      exact ⟨String.toList_inj.mp values, by rw [String.toList_inj.mp boosts]⟩

/-- A bare term with its boost has no colon. -/
theorem not_mem_append_suffix (isBoost : ∀ boost ∈ boost?, Grammar.isBoostValue boost = true)
    (noColon : ':' ∉ value.toList) : ':' ∉ (value ++ suffix boost?).toList := by
  cases boost? with
  | none => simpa [suffix] using noColon
  | some boost => simpa [suffix, noColon] using (not_mem_boost (isBoost boost rfl)).1

/-- What leads to a term ends in a colon, and the words determine it, the term and the boost. A quoted
value is a word of its own, so both values are quoted or both are bare. A bare one is divided from the
lead at the last colon, and from its boost at the last caret. -/
theorem valueTokens_inj (front front' : String)
    (isBoost : ∀ boost ∈ boost?, Grammar.isBoostValue boost = true)
    (isBoost' : ∀ boost ∈ boost?', Grammar.isBoostValue boost = true)
    (marked : Marked value boost?) (marked' : Marked value' boost?')
    (same : valueTokens (front ++ ":") value boost? = valueTokens (front' ++ ":") value' boost?') :
    front = front' ∧ value = value' ∧ boost? = boost?' := by
  by_cases needed : needsQuotes value = true
  · by_cases needed' : needsQuotes value' = true
    · rw [valueTokens, valueTokens, if_pos needed, if_pos needed'] at same
      obtain ⟨leads, behind⟩ := List.cons.inj same
      obtain ⟨values, boosts⟩ := List.cons.inj behind
      have fronts : front = front' := by
        have texts := congrArg (fun token : Token => token.text.toList) leads
        exact String.toList_inj.mp (by simpa using texts)
      refine ⟨fronts, Token.ofTerm_injective values, ?_⟩
      cases boost? with
      | none => cases boost?' <;> simp_all
      | some boost =>
        cases boost?' with
        | none => simp at boosts
        | some boost' =>
          have same : boost = boost' := by simpa using boosts
          rw [same]
    · simp [valueTokens, needed, needed'] at same
  · by_cases needed' : needsQuotes value' = true
    · simp [valueTokens, needed, needed'] at same
    · obtain ⟨noColon, noCaret⟩ := marked.resolve_left needed
      obtain ⟨noColon', noCaret'⟩ := marked'.resolve_left needed'
      rw [valueTokens, valueTokens, if_neg needed, if_neg needed', List.singleton_inj] at same
      have texts := congrArg (fun token : Token => token.text.toList) same
      have shape : front.toList ++ ':' :: (value ++ suffix boost?).toList =
          front'.toList ++ ':' :: (value' ++ suffix boost?').toList := by
        simpa using texts
      obtain ⟨fronts, values⟩ := append_cons_inj_of_last (not_mem_append_suffix isBoost noColon)
        (not_mem_append_suffix isBoost' noColon') shape
      exact ⟨String.toList_inj.mp fronts, append_suffix_inj isBoost isBoost' noCaret noCaret' values⟩

/-- The first word behind a lead starts with the lead. -/
theorem exists_of_head_valueTokens {lead : String} {first : Token} {rest : List Token}
    (shape : valueTokens lead value boost? = first :: rest) :
    ∃ tail, first.text.toList = lead.toList ++ tail := by
  rw [valueTokens] at shape
  split at shape
  case isTrue =>
    obtain ⟨rfl, _⟩ := List.cons.inj shape
    exact ⟨[], by simp⟩
  case isFalse =>
    obtain ⟨rfl, _⟩ := List.cons.inj shape
    exact ⟨(value ++ suffix boost?).toList, by simp⟩

/-- A word that starts with a bare index is not that of a quoted term. -/
theorem head_valueTokens_ne_quoted {name quoted : String} {rest : List Token}
    (bare : ¬ needsQuotes name = true) (needed : needsQuotes quoted = true) :
    valueTokens (name ++ ":") value boost? ≠ .ofTerm quoted :: rest := by
  intro shape
  obtain ⟨tail, starts⟩ := exists_of_head_valueTokens shape
  have nameBare := (Token.needsQuotes_eq_false_iff name).mp (by simpa using bare)
  obtain ⟨c, others, isName⟩ := List.exists_cons_of_ne_nil nameBare.1
  have isBare : Token.isBare c = true := nameBare.2 c (by simp [isName])
  rw [Token.toList_ofTerm_of_needsQuotes needed, String.toList_append, isName] at starts
  obtain ⟨rfl, _⟩ := List.cons.inj starts
  exact absurd isBare (by decide)

/-- A term alone is not read as a field with an index. -/
theorem tokens_ne_of_index {field field' : Field} {name : String} (alone : field.index? = none)
    (indexed : field'.index? = some name) (distinct : field.Distinct) :
    field.tokens ≠ field'.tokens := by
  intro same
  rw [tokens, tokens, alone, indexed] at same
  dsimp only at same
  split at same
  case isTrue =>
    obtain ⟨_, behind⟩ := List.cons.inj same
    exact valueTokens_ne_nil _ _ _ behind.symm
  case isFalse bare =>
    obtain ⟨tail, starts⟩ := exists_of_head_valueTokens same.symm
    rcases distinct with needed | ⟨noColon, _⟩
    · exact head_valueTokens_ne_quoted bare needed same.symm
    · by_cases needed : needsQuotes field.value = true
      · exact head_valueTokens_ne_quoted bare needed same.symm
      · rw [Token.ofTerm_of_bare (by simpa using needed)] at starts
        exact noColon (by simp [starts])

/-- The words of a field with an index determine its parts. -/
theorem indexTokens_inj {name name' : String}
    (isBoost : ∀ boost ∈ boost?, Grammar.isBoostValue boost = true)
    (isBoost' : ∀ boost ∈ boost?', Grammar.isBoostValue boost = true)
    (marked : Marked value boost?) (marked' : Marked value' boost?')
    (same : tokens ⟨some name, value, boost?⟩ = tokens ⟨some name', value', boost?'⟩) :
    name = name' ∧ value = value' ∧ boost? = boost?' := by
  rw [tokens, tokens] at same
  dsimp only at same
  by_cases needed : needsQuotes name = true
  · by_cases needed' : needsQuotes name' = true
    · rw [if_pos needed, if_pos needed'] at same
      obtain ⟨names, behind⟩ := List.cons.inj same
      have parts := valueTokens_inj "" "" isBoost isBoost' marked marked' behind
      exact ⟨Token.ofTerm_injective names, parts.2⟩
    · rw [if_pos needed, if_neg needed'] at same
      exact absurd same.symm (head_valueTokens_ne_quoted needed' needed)
  · by_cases needed' : needsQuotes name' = true
    · rw [if_neg needed, if_pos needed'] at same
      exact absurd same (head_valueTokens_ne_quoted needed needed')
    · rw [if_neg needed, if_neg needed'] at same
      exact valueTokens_inj name name' isBoost isBoost' marked marked' same

/-- The words of a field determine it. -/
theorem Valid.tokens_inj {field field' : Field} (valid : field.Valid) (valid' : field'.Valid)
    (distinct : field.Distinct) (distinct' : field'.Distinct)
    (same : field.tokens = field'.tokens) : field = field' := by
  obtain ⟨index?, value, boost?⟩ := field
  obtain ⟨index?', value', boost?'⟩ := field'
  cases index? with
  | none =>
    cases index?' with
    | none =>
      obtain rfl : boost? = none := valid.indexed rfl
      obtain rfl : boost?' = none := valid'.indexed rfl
      obtain rfl : value = value' := Token.ofTerm_injective (List.singleton_inj.mp same)
      rfl
    | some name' => exact absurd same (tokens_ne_of_index rfl rfl distinct)
  | some name =>
    cases index?' with
    | none => exact absurd same.symm (tokens_ne_of_index rfl rfl distinct')
    | some name' =>
      have marked : Marked value boost? := distinct.imp_right fun plain => ⟨plain.1, plain.2 rfl⟩
      have marked' : Marked value' boost?' :=
        distinct'.imp_right fun plain => ⟨plain.1, plain.2 rfl⟩
      obtain ⟨rfl, rfl, rfl⟩ := indexTokens_inj valid.boost valid'.boost marked marked' same
      rfl

end Field

end ContextualQuery.Lucene
