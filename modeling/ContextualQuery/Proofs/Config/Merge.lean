import ContextualQuery.Config.Merge
import ContextualQuery.Proofs.Text.LetterCase

/-!
# What merged configurations have in common

The configuration of some files enables at least one comparitor and none that the language does not
have, and its modifier names are in lower case. The files need not say so: a list of comparitors is
checked in every file that has one, and names are put into lower case when a file is taken in. Each
file keeps these facts, whatever was read from the files farther away.
-/

namespace ContextualQuery.Config

/-- The configuration enables comparitors of the language, at least one of them, and its modifier
names are in lower case. -/
structure Checked (config : Config) : Prop where
  enabled : config.comparitors ≠ []
  known : ∀ name ∈ config.comparitors, name ∈ ContextualQuery.comparitors
  lowered : ∀ names, config.modifierNames? = some names → ∀ name ∈ names, Text.lower name = name

/-- The standard configuration passes the checks that configurations of files pass. -/
theorem checked_standard : standard.Checked := by
  constructor
  case enabled => simp [standard, ContextualQuery.comparitors]
  case known => exact fun name member => member
  case lowered => simp [standard]

/-! ### Lists of comparitors -/

/-- The texts kept so far, with one more if it is new. -/
def keep (kept : List String) (text : String) : List String :=
  if kept.contains text then kept else kept ++ [text]

/-- Dropping repeats is keeping the texts one after the other. -/
theorem withoutRepeats_eq (texts : List String) : withoutRepeats texts = texts.foldl keep [] := rfl

/-- A text that was kept before is not kept again. -/
theorem keep_of_mem {kept : List String} {text : String} (member : text ∈ kept) :
    keep kept text = kept :=
  if_pos (List.contains_iff_mem.mpr member)

/-- A text that is new is kept behind the others. -/
theorem keep_of_not_mem {kept : List String} {text : String} (fresh : text ∉ kept) :
    keep kept text = kept ++ [text] :=
  if_neg (mt List.contains_iff_mem.mp fresh)

/-- What is kept afterwards was kept before, or is the new text. -/
theorem mem_keep {kept : List String} {head text : String} :
    text ∈ keep kept head ↔ text ∈ kept ∨ text = head := by
  by_cases member : head ∈ kept
  · rw [keep_of_mem member]
    constructor
    · exact .inl
    · rintro (isKept | rfl)
      · exact isKept
      · exact member
  · rw [keep_of_not_mem member, List.mem_append, List.mem_singleton]

/-- Leaving out repeats leaves out no text. -/
theorem mem_withoutRepeats {text : String} {texts : List String} :
    text ∈ withoutRepeats texts ↔ text ∈ texts := by
  suffices general : ∀ kept : List String, text ∈ texts.foldl keep kept ↔ text ∈ kept ∨ text ∈ texts by
    rw [withoutRepeats_eq, general []]
    simp
  induction texts with
  | nil => simp
  | cons head tail inductionHypothesis =>
    intro kept
    rw [List.foldl_cons, inductionHypothesis, mem_keep, List.mem_cons, or_assoc]

/-- No text is kept twice. -/
theorem nodup_foldl_keep (texts : List String) {kept : List String} (distinct : kept.Nodup) :
    (texts.foldl keep kept).Nodup := by
  induction texts generalizing kept with
  | nil => exact distinct
  | cons head tail inductionHypothesis =>
    rw [List.foldl_cons]
    apply inductionHypothesis
    by_cases member : head ∈ kept
    · rwa [keep_of_mem member]
    · rw [keep_of_not_mem member]
      refine List.nodup_append.mpr ⟨distinct, by simp, ?_⟩
      intro text isKept other isHead
      obtain rfl := List.mem_singleton.mp isHead
      exact fun same => member (same ▸ isKept)

/-- Texts that are all different are kept as they are. -/
theorem foldl_keep_of_nodup {texts kept : List String} (distinct : (kept ++ texts).Nodup) :
    texts.foldl keep kept = kept ++ texts := by
  induction texts generalizing kept with
  | nil => simp
  | cons head tail inductionHypothesis =>
    have fresh : head ∉ kept := fun member =>
      (List.nodup_append.mp distinct).2.2 head member head List.mem_cons_self rfl
    rw [List.foldl_cons, keep_of_not_mem fresh, inductionHypothesis (by simpa using distinct)]
    simp

variable {path : Path} {names checked : List String}

/-- A list passes the check if it has a name, and only names that the language knows. Its names are then
put into lower case, each once. -/
theorem checkComparitors_eq_ok (passed : checkComparitors path names = .ok checked) :
    names ≠ [] ∧ (∀ name ∈ names, isComparitor name = true) ∧
      checked = withoutRepeats (names.map Text.lower) := by
  unfold checkComparitors at passed
  split at passed
  case isTrue => cases passed
  case isFalse nonempty =>
    split at passed
    case h_1 => cases passed
    case h_2 none =>
      refine ⟨by simpa using nonempty, fun name member => ?_, (Except.ok.inj passed).symm⟩
      simpa using List.find?_eq_none.mp none name member

/-- A list that passes the check keeps its names, in lower case. -/
theorem mem_checkComparitors (passed : checkComparitors path names = .ok checked) {name : String} :
    name ∈ checked ↔ ∃ written ∈ names, Text.lower written = name := by
  obtain ⟨_, _, rfl⟩ := checkComparitors_eq_ok passed
  rw [mem_withoutRepeats, List.mem_map]

/-! ### Taking in a file -/

variable {config result : Config} {source : Source} {sources : List Source}

/-- The configuration after a closer file was taken in: its comparitors are those of the file, which
passed the check, or those from before, and its modifier names those of the file in lower case, if it
has some. -/
theorem override_eq_ok (overridden : override config source = .ok result) :
    ((source.settings.comparitors? = none ∧ result.comparitors = config.comparitors) ∨
      ∃ names, source.settings.comparitors? = some names ∧
        checkComparitors source.path names = .ok result.comparitors) ∧
    result.modifierNames? =
      (source.settings.modifierNames?.map (·.map Text.lower)).or config.modifierNames? := by
  rw [override] at overridden
  cases defined : source.settings.comparitors? with
  | none =>
    simp only [defined, pure_bind] at overridden
    obtain rfl := Except.ok.inj overridden
    exact ⟨.inl ⟨rfl, rfl⟩, rfl⟩
  | some names =>
    simp only [defined] at overridden
    cases checks : checkComparitors source.path names with
    | error error =>
      rw [checks] at overridden
      cases overridden
    | ok comparitors =>
      rw [checks] at overridden
      obtain rfl := Except.ok.inj overridden
      exact ⟨.inr ⟨names, rfl, checks⟩, rfl⟩

/-- Taking in a file keeps a configuration checked. A list of comparitors in the file is checked when it
is taken in, and the names of modifiers are lowered then. What the file does not define was checked
before. -/
theorem Checked.override (checked : config.Checked)
    (overridden : Config.override config source = .ok result) : result.Checked := by
  obtain ⟨comparitors, modifierNames⟩ := override_eq_ok overridden
  have comparitorsChecked : result.comparitors ≠ [] ∧
      ∀ name ∈ result.comparitors, name ∈ ContextualQuery.comparitors := by
    obtain ⟨_, same⟩ | ⟨names, _, passed⟩ := comparitors
    · rw [same]
      exact ⟨checked.enabled, checked.known⟩
    · obtain ⟨some, known, _⟩ := checkComparitors_eq_ok passed
      obtain ⟨first, rest, rfl⟩ := List.exists_cons_of_ne_nil some
      constructor
      · exact List.ne_nil_of_mem ((mem_checkComparitors passed).mpr ⟨first, by simp, rfl⟩)
      · intro name member
        obtain ⟨written, isWritten, rfl⟩ := (mem_checkComparitors passed).mp member
        exact List.contains_iff_mem.mp (known written isWritten)
  constructor
  case enabled => exact comparitorsChecked.1
  case known => exact comparitorsChecked.2
  case lowered =>
    intro names allowed name member
    rw [modifierNames] at allowed
    cases defined : source.settings.modifierNames? with
    | none =>
      rw [defined] at allowed
      exact checked.lowered names allowed name member
    | some written =>
      obtain rfl : written.map Text.lower = names := by simpa [defined] using allowed
      obtain ⟨text, _, rfl⟩ := List.mem_map.mp member
      exact Text.lower_lower text

/-- Merging succeeds if the files farther away are merged and the closest one is taken in. -/
theorem merge_cons_eq_ok_iff :
    merge (source :: sources) = .ok result ↔
      ∃ config, merge sources = .ok config ∧ override config source = .ok result := by
  rw [merge]
  cases merge sources with
  | error error => simp [bind, Except.bind]
  | ok config => simp [bind, Except.bind]

/-- The configuration of any files is checked. -/
theorem checked_of_merge (merged : merge sources = .ok config) : config.Checked := by
  induction sources generalizing config with
  | nil =>
    obtain rfl : standard = config := by simpa [merge_nil] using merged
    exact checked_standard
  | cons source farther inductionHypothesis =>
    obtain ⟨before, fartherMerged, overridden⟩ := merge_cons_eq_ok_iff.mp merged
    exact (inductionHypothesis fartherMerged).override overridden

end ContextualQuery.Config
