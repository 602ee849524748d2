import ContextualQuery.Proofs.Text.LetterCase
import ContextualQuery.Text.Search

/-!
# Where a fragment can occur

A mark that is no part of a fragment keeps its occurrences apart: in a text that is enclosed by marks, a
fragment occurs within, before or behind them. A fragment in small letters that occurs in a text also
occurs in the lower case of the text.
-/

namespace ContextualQuery.Text

/-- No occurrence of a word reaches across a mark that is not in the word. -/
theorem infix_append_cons_iff {α : Type} {word front back : List α} {mark : α}
    (absent : mark ∉ word) :
    word <:+: front ++ mark :: back ↔ word <:+: front ∨ word <:+: back := by
  have nothing : ∀ part ⊆ word, part <+: mark :: back → part = [] := by
    intro part inside begins
    rcases List.prefix_cons_iff.mp begins with rfl | ⟨tail, rfl, _⟩
    · rfl
    · exact absurd (inside List.mem_cons_self) absent
  constructor
  · intro occurs
    rcases List.infix_append_iff.mp occurs with before | behind | ⟨left, right, rfl, ends, begins⟩
    · exact .inl before
    · rcases List.infix_cons_iff.mp behind with begins | behind
      · rw [nothing word (List.Subset.refl word) begins]
        exact .inr List.nil_infix
      · exact .inr behind
    · rw [nothing right (List.subset_append_right left right) begins, List.append_nil]
      exact .inl ends.isInfix
  · rintro (before | behind)
    · exact before.trans (List.prefix_append front _).isInfix
    · exact behind.trans ((List.suffix_cons mark back).trans (List.suffix_append front _)).isInfix

variable {fragment lead inner rest : String}

/-- In a text that is enclosed by a mark, a fragment without the mark occurs in one of the three parts. -/
theorem occursIn_enclosed {mark : Char} (absent : mark ∉ fragment.toList)
    (before : lead.toList.getLast? = some mark) (behind : rest.toList.head? = some mark) :
    occursIn fragment (lead ++ inner ++ rest) =
      (occursIn fragment lead || occursIn fragment inner || occursIn fragment rest) := by
  obtain ⟨front, leads⟩ := List.getLast?_eq_some_iff.mp before
  obtain ⟨back, ends⟩ := List.head?_eq_some_iff.mp behind
  have characters : (lead ++ inner ++ rest).toList =
      front ++ mark :: (inner.toList ++ mark :: back) := by
    simp [leads, ends]
  have inLead : fragment.toList <:+: lead.toList ↔ fragment.toList <:+: front := by
    rw [leads, infix_append_cons_iff absent, List.infix_nil]
    exact or_iff_left_of_imp fun empty => empty ▸ List.nil_infix
  have inRest : fragment.toList <:+: rest.toList ↔ fragment.toList <:+: back := by
    rw [ends, ← List.nil_append (mark :: back), infix_append_cons_iff absent, List.infix_nil]
    exact or_iff_right_of_imp fun empty => empty ▸ List.nil_infix
  rw [Bool.eq_iff_iff, Bool.or_eq_true, Bool.or_eq_true, occursIn_iff, occursIn_iff, occursIn_iff,
    occursIn_iff, characters, infix_append_cons_iff absent, infix_append_cons_iff absent, inLead, inRest,
    or_assoc]

/-! ### Fragments in small letters -/

/-- A small Latin letter is the image of the capital one, thirty-two points below it. -/
theorem isSettled_of_isLower {c : Char} (small : c.isLower = true) : IsSettled c := by
  have letters : (decide (0x61 ≤ c.val) && decide (c.val ≤ 0x7a)) = true := small
  have bounds : 0x61 ≤ c.toNat ∧ c.toNat ≤ 0x7a := by
    simpa [UInt32.le_iff_toNat_le] using letters
  have listed : CaseRun.mk 0x41 0x5a 1 0x61 ∈ lowerRuns := List.mem_cons_self
  have found : (CaseRun.mk 0x41 0x5a 1 0x61).image? (c.toNat - 0x20) = some c.toNat := by
    rw [CaseRun.image?_eq_some_iff]
    dsimp only
    omega
  simpa using isSettled_image listed found

variable {word chars before : List Char}

/-- A word that is settled stays at the front of a text in lower case. -/
theorem prefix_lowerAfter (settled : ∀ c ∈ word, IsSettled c) (begins : word <+: chars) :
    word <+: lowerAfter before chars := by
  induction word generalizing chars before with
  | nil => exact List.nil_prefix
  | cons c word inductionHypothesis =>
    obtain ⟨⟨same, notSigma⟩, others⟩ := List.forall_mem_cons.mp settled
    obtain ⟨after, rfl⟩ := begins
    rw [List.cons_append, lowerAfter, lowerBetween, if_neg notSigma, same, List.singleton_append,
      List.prefix_cons_inj]
    exact inductionHypothesis others (List.prefix_append word after)

/-- A word that is settled stays within a text in lower case. -/
theorem infix_lowerAfter (settled : ∀ c ∈ word, IsSettled c) (occurs : word <:+: chars) :
    word <:+: lowerAfter before chars := by
  induction chars generalizing before with
  | nil =>
    rw [List.infix_nil.mp occurs]
    exact List.nil_infix
  | cons c rest inductionHypothesis =>
    rcases List.infix_cons_iff.mp occurs with begins | later
    · exact (prefix_lowerAfter settled begins).isInfix
    · rw [lowerAfter]
      exact (inductionHypothesis later).trans (List.suffix_append _ _).isInfix

/-- A fragment in small letters that occurs in a text occurs in the lower case of the text. -/
theorem occursIn_lower {text : String} (small : fragment.toList.all Char.isLower = true)
    (occurs : occursIn fragment text = true) : occursIn fragment (lower text) = true := by
  have settled : ∀ c ∈ fragment.toList, IsSettled c := fun c member =>
    isSettled_of_isLower (List.all_eq_true.mp small c member)
  rw [occursIn_iff] at occurs ⊢
  rw [lower, String.toList_ofList]
  exact infix_lowerAfter settled occurs

end ContextualQuery.Text
