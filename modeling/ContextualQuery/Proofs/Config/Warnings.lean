import ContextualQuery.Config.Warning
import ContextualQuery.Proofs.Config.Merge
import ContextualQuery.Proofs.Parser.Acceptance
import ContextualQuery.Proofs.Token.Splitting
import ContextualQuery.Proofs.Rendering.Spacing
import ContextualQuery.Proofs.Tree.Modifiers
import ContextualQuery.Proofs.Tree.Relations
import Mathlib

/-!
# What the warnings about modifiers mean for the parser

The warnings look at the list of modifier names alone, and yet they are exact. The parser accepts a
modifier only if its name is that of the boost and the options allow this name. If they do, a boosted
clause with any enabled comparitor is accepted, and merged configurations always enable one. Since
their names are in lower case, the name is allowed exactly if it is in the list as it stands.
-/

namespace ContextualQuery.Config

variable {config : Config} {options : Options}

/-- It is reported that boosts are not allowed if there are modifier names without that of the
boost. -/
theorem boostNotAllowed_mem_warnings :
    .boostNotAllowed ∈ config.warnings ↔
      ∃ names, config.modifierNames? = some names ∧ boostModifier ∉ names := by
  have noEquals : Warning.boostNotAllowed ∉
      if config.comparitors.contains "=" then [] else [Warning.equalsDisabled] := by
    split <;> simp
  rw [warnings, List.mem_append, or_iff_left noEquals]
  cases config.modifierNames? with
  | none => simp
  | some names =>
    by_cases listed : boostModifier ∈ names <;> simp [nameWarnings, listed]

/-- Only names other than that of the boost are reported. -/
theorem ne_boost_of_modifierNeverAccepted {name : String}
    (reported : .modifierNeverAccepted name ∈ config.warnings) : name ≠ boostModifier := by
  have noEquals : Warning.modifierNeverAccepted name ∉
      if config.comparitors.contains "=" then [] else [Warning.equalsDisabled] := by
    split <;> simp
  rw [warnings, List.mem_append, or_iff_left noEquals] at reported
  cases defined : config.modifierNames? with
  | none => simp [defined] at reported
  | some names =>
    have noMissing : Warning.modifierNeverAccepted name ∉
        if names.contains boostModifier then [] else [Warning.boostNotAllowed] := by
      split <;> simp
    rw [defined, Option.elim_some, nameWarnings, List.mem_append, or_iff_right noMissing] at reported
    obtain ⟨other, listed, same⟩ := List.mem_map.mp reported
    obtain rfl : other = name := by simpa using same
    simpa using (List.mem_filter.mp listed).2

/-- The options of a checked configuration allow boosts unless the opposite is reported. -/
theorem Checked.supportsBoost_iff (checked : config.Checked) :
    config.options.supportsModifierName boostModifier = true ↔
      .boostNotAllowed ∉ config.warnings := by
  have lowered : Text.lower boostModifier = boostModifier := by decide +kernel
  rw [boostNotAllowed_mem_warnings]
  cases defined : config.modifierNames? with
  | none => simp [options, defined, Options.supportsModifierName, Options.withModifierNames,
      AllowList.contains]
  | some names =>
    have allowed : config.options.supportsModifierName boostModifier =
        (NameSet.ofList names).contains boostModifier := by
      simp [options, defined, Options.supportsModifierName, Options.withModifierNames,
        AllowList.ofNames, AllowList.contains]
    have listed : (∃ name ∈ names, Text.lower name = Text.lower boostModifier) ↔
        boostModifier ∈ names := by
      rw [lowered]
      constructor
      · rintro ⟨name, member, same⟩
        rwa [← same, checked.lowered names defined name member]
      · exact fun member => ⟨boostModifier, member, lowered⟩
    rw [allowed, NameSet.contains_ofList, listed]
    simp

/-- The comparitors of a checked configuration are comparitors that its options support. -/
theorem Checked.isComparitor (checked : config.Checked) {name : String}
    (listed : name ∈ config.comparitors) : Token.IsComparitor config.options ⟨name⟩ := by
  have supported : config.options.supportsComparitor name = true :=
    (NameSet.contains_ofList _ _).mpr ⟨name, listed, rfl⟩
  exact ⟨Options.isComparitor_of_mem (checked.known name listed), supported⟩

/-- If boosts are allowed, a boosted clause is accepted with every comparitor that is enabled. -/
theorem Checked.accepts_boost_with (checked : config.Checked)
    (allowed : config.options.supportsModifierName boostModifier = true) {name : String}
    (listed : name ∈ config.comparitors) :
    ∃ text tree, Tree.parseWith config.options text = .ok tree ∧ tree.hasModifierList = true ∧
      tree.relationComparitors = [name] := by
  let chain : Chain := ⟨.boosted ⟨"a"⟩ ⟨name⟩ ⟨"1"⟩ ⟨"b"⟩, []⟩
  have formed : chain.Formed config.options :=
    ⟨.boosted (by decide) (checked.isComparitor listed) allowed (by decide +kernel) (by decide),
      by simp [chain], by simp [chain]⟩
  have plain : ∀ word ∈ ["a", "/", boostModifier, "=", "1", "b"],
      word.toList ∈ Token.punctuation ∨ Token.needsQuotes word = false := by decide
  have lexemes : ∀ token ∈ chain.tokens, Token.IsLexeme token.text.toList := by
    intro token member
    by_cases isComparitor : token = ⟨name⟩
    · rw [isComparitor]
      exact Token.isLexeme_comparitor name (checked.known name listed)
    · apply Token.isLexeme_of_plain
      apply plain
      simp only [chain, Chain.tokens, Clause.tokens, Clause.linkTokens, List.append_nil,
        List.mem_cons, List.not_mem_nil, or_false, isComparitor, false_or] at member
      rcases member with rfl | rfl | rfl | rfl | rfl | rfl <;> simp
  obtain ⟨text, split⟩ := Token.exists_tokenize lexemes
  exact ⟨text, chain.tree, parseWith_of_chain split formed, rfl, rfl⟩

/-- If boosts are allowed, a boosted clause with the first enabled comparitor is accepted. -/
theorem Checked.accepts_boost (checked : config.Checked)
    (allowed : config.options.supportsModifierName boostModifier = true) :
    ∃ text tree, Tree.parseWith config.options text = .ok tree ∧ tree.hasModifierList = true := by
  obtain ⟨name, listed⟩ := List.exists_mem_of_ne_nil _ checked.enabled
  obtain ⟨text, tree, accepted, hasList, -⟩ := checked.accepts_boost_with allowed listed
  exact ⟨text, tree, accepted, hasList⟩

/-- The warnings about modifiers are exact. For the configuration of any files, it is reported that boosts
are not allowed exactly if no text with a list of modifiers is accepted under its options, and no text
with a modifier of a name that is reported as never accepted is.

Proof: an accepted text has a list of modifiers only if the options allow boosts, and then every modifier
is a boost. If they allow boosts, a text with one is accepted under any enabled comparitor. -/
theorem modifierWarnings_exact (sources : List Source) (config : Config)
    (merged : merge sources = .ok config) :
    (.boostNotAllowed ∈ config.warnings ↔
      ¬ ∃ text tree, Tree.parseWith config.options text = .ok tree ∧
        tree.hasModifierList = true) ∧
    ∀ name, .modifierNeverAccepted name ∈ config.warnings →
      ∀ text tree, Tree.parseWith config.options text = .ok tree → name ∉ tree.modifierNames := by
  have checked := checked_of_merge merged
  constructor
  · constructor
    · rintro reported ⟨text, tree, accepted, hasList⟩
      obtain ⟨chain, _, formed, rfl⟩ := exists_chain_of_parseWith accepted
      obtain ⟨list, within, isList⟩ := List.any_eq_true.mp hasList
      have allowed := (formed.boostsOnly list within).1 isList
      exact checked.supportsBoost_iff.mp allowed reported
    · intro noList
      by_contra unreported
      exact noList (checked.accepts_boost (checked.supportsBoost_iff.mpr unreported))
  · intro name reported text tree accepted listed
    obtain ⟨chain, _, formed, rfl⟩ := exists_chain_of_parseWith accepted
    obtain ⟨modifier, within, named⟩ := List.mem_filterMap.mp listed
    exact ne_boost_of_modifierNeverAccepted reported ((formed.boostsOnly modifier within).2 name named)

/-- A closer file with a modifier name in upper case replaces the boost that a farther one allows: both
warnings are due. -/
theorem modifierWarnings_exact_relevance :
    let closer : Source :=
      ⟨Path.ofText "/a/.cql.toml", .mk none (some ⟨none, some ["RELEVANCE"]⟩) none⟩
    let farther : Source :=
      ⟨Path.ofText "/.cql.toml", .mk none (some ⟨some ["ANY", "="], some ["boost"]⟩) none⟩
    ∃ config, merge [closer, farther] = .ok config ∧
      config.warnings = [.boostNotAllowed, .modifierNeverAccepted "relevance"] ∧
      (¬ ∃ text tree, Tree.parseWith config.options text = .ok tree ∧
        tree.hasModifierList = true) ∧
      ∀ text tree, Tree.parseWith config.options text = .ok tree →
        "relevance" ∉ tree.modifierNames := by
  intro closer farther
  let config : Config :=
    { comparitors := ["any", "="]
      modifierNames? := some ["relevance"]
      format := .pretty
      sources := [closer.path, farther.path] }
  have merged : merge [closer, farther] = .ok config := by cbv
  have reported : config.warnings = [.boostNotAllowed, .modifierNeverAccepted "relevance"] := by cbv
  obtain ⟨exactBoost, exactNames⟩ := modifierWarnings_exact [closer, farther] config merged
  exact ⟨config, merged, reported, exactBoost.mp (by simp [reported]),
    exactNames "relevance" (by simp [reported])⟩

end ContextualQuery.Config
