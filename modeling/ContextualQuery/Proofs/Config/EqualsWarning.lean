import ContextualQuery.Proofs.Config.Warnings
import ContextualQuery.Proofs.Rendering.LuceneRelations
import Mathlib

/-!
# What the warning about `=` means

The parser meets `=` in two places: as the comparitor of a relation, which must be enabled, and between
the name and the value of a modifier, where it is part of the grammar. Only the first place matters for
the rendering as a Lucene query, which knows no relation but `=`. So the warning is exact about Lucene
queries: it is given just if no accepted clause with an index can be rendered. It says nothing about
boosts. These can be written with every enabled comparitor, with `=` among them or not.
-/

namespace ContextualQuery.Config

variable {config : Config}

/-- It is reported that `=` is disabled if it is not among the comparitors. -/
theorem equalsDisabled_mem_warnings :
    .equalsDisabled ∈ config.warnings ↔ "=" ∉ config.comparitors := by
  have noNames : Warning.equalsDisabled ∉ config.modifierNames?.elim [] nameWarnings := by
    cases config.modifierNames? with
    | none => simp
    | some names => by_cases listed : boostModifier ∈ names <;> simp [nameWarnings, listed]
  rw [warnings, List.mem_append, or_iff_right noNames]
  by_cases enabled : "=" ∈ config.comparitors <;> simp [enabled]

/-- The options of a checked configuration support `=` unless the opposite is reported. -/
theorem Checked.supportsEquals_iff (checked : config.Checked) :
    config.options.supportsComparitor "=" = true ↔ .equalsDisabled ∉ config.warnings := by
  rw [equalsDisabled_mem_warnings, not_not]
  constructor
  · intro supported
    obtain ⟨name, listed, same⟩ := (NameSet.contains_ofList _ _).mp supported
    have lowered : Text.lower "=" = "=" := Options.lower_comparitor "=" (by decide)
    rw [Options.lower_comparitor name (checked.known name listed), lowered] at same
    rwa [← same]
  · exact fun enabled => (checked.isComparitor enabled).2

/-- Where `=` is supported, a clause with it is accepted and rendered. -/
theorem Checked.accepts_rendered (checked : config.Checked) (enabled : "=" ∈ config.comparitors) :
    ∃ text tree rendered, Tree.parseWith config.options text = .ok tree ∧
      tree.hasIndexedClause = true ∧ tree.toLucene = .ok rendered := by
  let chain : Chain := ⟨.indexed ⟨"a"⟩ ⟨"="⟩ ⟨"b"⟩, []⟩
  have formed : chain.Formed config.options :=
    ⟨.indexed (by decide) (checked.isComparitor enabled) (by decide), by simp [chain],
      by simp [chain]⟩
  have split : Token.tokenize "a = b" = .ok chain.tokens := by cbv
  have equals : ∀ comparitor ∈ chain.tree.relationComparitors, comparitor = "=" :=
    fun comparitor member => List.mem_singleton.mp member
  obtain ⟨rendered, found⟩ := formed.asksFor.exists_toLucene_iff.mpr equals
  exact ⟨"a = b", chain.tree, rendered, parseWith_of_chain split formed, rfl, found⟩

/-- The warning about `=` is exact about Lucene queries and nothing else. For the configuration of any
files, it is given exactly if no accepted text with an index in one of its clauses can be rendered as a
Lucene query. Whether it is given or not, a modifier is accepted behind every enabled comparitor, unless
it is reported that boosts are not allowed.

Proof: a rendered text with a relation has the comparitor `=` in it, so the options support it. If they
do, a text with this comparitor is accepted and rendered. -/
theorem equalsWarning_exact (sources : List Source) (config : Config)
    (merged : merge sources = .ok config) :
    (.equalsDisabled ∈ config.warnings ↔
      ¬ ∃ text tree rendered, Tree.parseWith config.options text = .ok tree ∧
        tree.hasIndexedClause = true ∧ tree.toLucene = .ok rendered) ∧
    (.boostNotAllowed ∉ config.warnings → ∀ name ∈ config.comparitors,
      ∃ text tree, Tree.parseWith config.options text = .ok tree ∧ tree.hasModifierList = true ∧
        tree.relationComparitors = [name]) := by
  have checked := checked_of_merge merged
  constructor
  · constructor
    · rintro reported ⟨text, tree, rendered, accepted, hasIndexed, found⟩
      obtain ⟨chain, _, formed, rfl⟩ := exists_chain_of_parseWith accepted
      have equals := formed.asksFor.exists_toLucene_iff.mp ⟨rendered, found⟩
      have someRelation := formed.asksFor.hasIndexedClause_iff.mp hasIndexed
      obtain ⟨comparitor, within⟩ := List.exists_mem_of_ne_nil _ someRelation
      obtain rfl := equals comparitor within
      have supported := (formed.supported_relationComparitors "=" within).2
      exact checked.supportsEquals_iff.mp supported reported
    · intro noneRendered
      rw [equalsDisabled_mem_warnings]
      exact fun enabled => noneRendered (checked.accepts_rendered enabled)
  · intro unreported name listed
    exact checked.accepts_boost_with (checked.supportsBoost_iff.mpr unreported) listed

/-- A file that enables `any` alone is warned about, and boosts are accepted behind `any` all the
same. -/
theorem equalsWarning_exact_any :
    let source : Source := ⟨Path.ofText "/.cql.toml", .mk none (some ⟨some ["ANY"], none⟩) none⟩
    ∃ config, merge [source] = .ok config ∧ config.warnings = [.equalsDisabled] ∧
      (¬ ∃ text tree rendered, Tree.parseWith config.options text = .ok tree ∧
        tree.hasIndexedClause = true ∧ tree.toLucene = .ok rendered) ∧
      ∃ text tree, Tree.parseWith config.options text = .ok tree ∧ tree.hasModifierList = true ∧
        tree.relationComparitors = ["any"] := by
  intro source
  let config : Config :=
    { comparitors := ["any"], modifierNames? := none, format := .pretty, sources := [source.path] }
  have merged : merge [source] = .ok config := by cbv
  have reported : config.warnings = [.equalsDisabled] := by decide
  obtain ⟨exactEquals, boosts⟩ := equalsWarning_exact [source] config merged
  exact ⟨config, merged, reported, exactEquals.mp (by simp [reported]),
    boosts (by simp [reported]) "any" (by simp [config])⟩

/-- It is not true that no boost can be written where the warning about `=` is given. -/
theorem equalsDisabled_boosted :
    ¬ ∀ sources config, merge sources = .ok config → .equalsDisabled ∈ config.warnings →
      ∀ text tree, Tree.parseWith config.options text = .ok tree → tree.hasModifierList = false := by
  intro noBoost
  let source : Source := ⟨Path.ofText "/.cql.toml", .mk none (some ⟨some ["any"], none⟩) none⟩
  let config : Config :=
    { comparitors := ["any"], modifierNames? := none, format := .pretty, sources := [source.path] }
  let chain : Chain := ⟨.boosted ⟨"title"⟩ ⟨"any"⟩ ⟨"2"⟩ ⟨"fish"⟩, []⟩
  have merged : merge [source] = .ok config := by cbv
  have reported : .equalsDisabled ∈ config.warnings := by decide
  have formed : chain.Formed config.options := by decide +kernel
  have split : Token.tokenize "title any/boost=2 fish" = .ok chain.tokens := by cbv
  have accepted := parseWith_of_chain split formed
  exact Bool.noConfusion (noBoost [source] config merged reported _ _ accepted)

end ContextualQuery.Config
