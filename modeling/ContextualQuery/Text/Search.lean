/-!
# Fragments of a text

The first place at which a fragment occurs in a text.
-/

namespace ContextualQuery.Text

/-- The characters before the first occurrence of a fragment, and those behind it. -/
def splitAtFirst? (fragment : List Char) : List Char → Option (List Char × List Char)
  | [] => if fragment.isEmpty then some ([], []) else none
  | c :: rest =>
    if fragment.isPrefixOf (c :: rest) then some ([], (c :: rest).drop fragment.length)
    else (splitAtFirst? fragment rest).map fun (before, after) => (c :: before, after)

/-- The fragment occurs in the text. -/
def occursIn (fragment text : String) : Bool := (splitAtFirst? fragment.toList text.toList).isSome

/-- The parts around an occurrence and the fragment between them are the text. -/
theorem splitAtFirst?_eq {fragment chars before after : List Char}
    (found : splitAtFirst? fragment chars = some (before, after)) :
    chars = before ++ fragment ++ after := by
  induction chars generalizing before after with
  | nil =>
    rw [splitAtFirst?] at found
    split at found
    case isTrue empty =>
      simp only [Option.some.injEq, Prod.mk.injEq] at found
      obtain ⟨rfl, rfl⟩ := found
      simp [List.isEmpty_iff.mp empty]
    case isFalse => simp at found
  | cons c rest inductionHypothesis =>
    rw [splitAtFirst?] at found
    split at found
    case isTrue begins =>
      simp only [Option.some.injEq, Prod.mk.injEq] at found
      obtain ⟨rfl, rfl⟩ := found
      exact (List.prefix_iff_eq_append.mp (List.isPrefixOf_iff_prefix.mp begins)).symm
    case isFalse =>
      obtain ⟨⟨tail, after'⟩, later, same⟩ := Option.map_eq_some_iff.mp found
      simp only [Prod.mk.injEq] at same
      obtain ⟨rfl, rfl⟩ := same
      simpa using inductionHypothesis later

/-- A fragment that stands somewhere in the text is found. -/
theorem isSome_splitAtFirst? (before fragment after : List Char) :
    (splitAtFirst? fragment (before ++ fragment ++ after)).isSome = true := by
  induction before with
  | nil =>
    cases fragment with
    | nil => cases after <;> simp [splitAtFirst?]
    | cons c tail =>
      have begins : (c :: tail).isPrefixOf (c :: (tail ++ after)) = true :=
        List.isPrefixOf_iff_prefix.mpr ⟨after, by simp⟩
      simp only [List.nil_append, List.cons_append]
      rw [splitAtFirst?, if_pos begins]
      rfl
  | cons c tail inductionHypothesis =>
    simp only [List.cons_append]
    rw [splitAtFirst?]
    split
    · rfl
    · simpa using inductionHypothesis

/-- A fragment occurs in a text exactly if the text has it as a contiguous part. -/
theorem occursIn_iff {fragment text : String} :
    occursIn fragment text = true ↔ fragment.toList <:+: text.toList := by
  constructor
  · intro found
    obtain ⟨⟨before, after⟩, split⟩ := Option.isSome_iff_exists.mp found
    exact ⟨before, after, (splitAtFirst?_eq split).symm⟩
  · rintro ⟨before, after, same⟩
    rw [occursIn, ← same]
    exact isSome_splitAtFirst? before fragment.toList after

end ContextualQuery.Text
