import ContextualQuery.Config.Document
import ContextualQuery.Proofs.Config.Merge
import ContextualQuery.Proofs.Toml.Lines

/-!
# Effective settings are a fixed point

The settings of a configuration can be printed as a file. Reading that file gives the settings back,
whatever texts are in them, and an empty list of modifier names stays apart from a missing one. Taking
in the file does not change them further: the comparitors of merged files are known, in lower case and
each listed once, and the modifier names are in lower case.
-/

namespace ContextualQuery.Config

open Toml (Entries Statement Table Value)

/-! ### Reading what was printed -/

/-- A list of texts as a value. -/
def texts (items : List String) : Value := .array false (items.map .string)

/-- A list of texts is read back from its TOML value. -/
theorem readTexts?_texts (items : List String) : readTexts? (texts items) = some items := by
  simp only [texts, readTexts?, List.mapM_map]
  induction items with
  | nil => rfl
  | cons item items inductionHypothesis =>
    rw [List.mapM_cons, inductionHypothesis]
    rfl

variable (config : Config)

/-- The settings of a configuration as the settings of a file. -/
def settings : FileSettings where
  parser? := some ⟨some config.comparitors, config.modifierNames?⟩
  output? := some ⟨some config.format⟩

/-- The lines of the printed settings. -/
def statements : List Statement :=
  [.header [] "parser", .assign [] "comparitors" (texts config.comparitors)] ++
    (config.modifierNames?.elim [] fun names => [.assign [] "modifier_names" (texts names)]) ++
    [.header [] "output", .assign [] "format" (.string config.format.name)]

/-- The printed settings line by line. -/
theorem toList_toToml :
    config.toToml.toList =
      Toml.headerLine "parser" (Toml.assignLine "comparitors" (Toml.writeArray config.comparitors)
        (config.modifierNames?.elim id
          (fun names => Toml.assignLine "modifier_names" (Toml.writeArray names))
          ('\n' :: Toml.headerLine "output"
            (Toml.assignLine "format" (Toml.writeString config.format.name) [])))) := by
  unfold toToml
  simp only [String.toList_append, List.append_assoc]
  cases config.modifierNames? with
  | none => simp [Toml.headerLine, Toml.assignLine]
  | some names => simp [Toml.headerLine, Toml.assignLine]

/-- The printed settings are read line by line. -/
theorem readStatements?_toToml :
    Toml.readStatements? config.toToml = some config.statements := by
  have output : Toml.Lines ('\n' :: Toml.headerLine "output"
      (Toml.assignLine "format" (Toml.writeString config.format.name) []))
        [.header [] "output", .assign [] "format" (.string config.format.name)] :=
    .empty (.header (by decide) (.assign_text (by decide) _ .stop))
  have lines : Toml.Lines config.toToml.toList config.statements := by
    rw [toList_toToml, statements]
    apply Toml.Lines.header (by decide)
    apply Toml.Lines.assign_texts (by decide)
    cases config.modifierNames? with
    | none => exact output
    | some names => exact .assign_texts (by decide) names output
  refine lines.readStatements? ?_
  rw [toList_toToml]
  simp [Toml.headerLine]

/-- The entries of the printed settings. -/
def entries : Entries :=
  [("parser", .table .header (("comparitors", texts config.comparitors) ::
      config.modifierNames?.elim [] fun names => [("modifier_names", texts names)])),
    ("output", .table .header [("format", .string config.format.name)])]

/-- The printed settings are a document with two tables. -/
theorem read?_toToml : Toml.read? config.toToml = some config.entries := by
  rw [Toml.read?, readStatements?_toToml]
  cases defined : config.modifierNames? with
  | none => simp only [statements, entries, defined]; rfl
  | some names => simp only [statements, entries, defined]; rfl

/-- The parser settings are read back, with modifier names or without. -/
theorem readParser?_entries :
    readParser? (.table .header (("comparitors", texts config.comparitors) ::
      config.modifierNames?.elim [] fun names => [("modifier_names", texts names)])) =
        some ⟨some config.comparitors, config.modifierNames?⟩ := by
  have comparitors := readTexts?_texts config.comparitors
  cases config.modifierNames? with
  | none => simp [readParser?, readParserParts?, readOptional?, Entries.value?, comparitors]
  | some names =>
    simp [readParser?, readParserParts?, readOptional?, Entries.value?, comparitors,
      readTexts?_texts names]

/-- The output settings are read back. -/
theorem readOutput?_entries :
    readOutput? (.table .header [("format", .string config.format.name)]) =
      some ⟨some config.format⟩ := by
  simp [readOutput?, readOptional?, readFormat?, Entries.value?, OutputFormat.ofName?_name]

/-- The printed settings are read back. -/
theorem ofText?_toToml : FileSettings.ofText? config.toToml = some config.settings := by
  have parser := readParser?_entries config
  have output := readOutput?_entries config
  rw [FileSettings.ofText?, read?_toToml, Option.bind_some]
  simp [FileSettings.ofEntries?, entries, Entries.value?, readOptional?, parser, output, settings]

/-! ### Taking the printed settings in -/

variable {config} {sources : List Source}

/-- Merged files enable each comparitor once. -/
theorem nodup_of_merge (merged : merge sources = .ok config) : config.comparitors.Nodup := by
  induction sources generalizing config with
  | nil =>
    obtain rfl : standard = config := by simpa [merge_nil] using merged
    decide
  | cons source farther inductionHypothesis =>
    obtain ⟨before, fartherMerged, overridden⟩ := merge_cons_eq_ok_iff.mp merged
    obtain ⟨⟨_, same⟩ | ⟨names, _, passed⟩, _⟩ := override_eq_ok overridden
    · rw [same]
      exact inductionHypothesis fartherMerged
    · obtain ⟨_, _, shape⟩ := checkComparitors_eq_ok passed
      rw [shape]
      exact nodup_foldl_keep _ List.nodup_nil

/-- Texts in lower case stay as they are. -/
theorem map_lower {texts : List String} (lowered : ∀ text ∈ texts, Text.lower text = text) :
    texts.map Text.lower = texts :=
  calc texts.map Text.lower = texts.map id := List.map_congr_left lowered
    _ = texts := List.map_id texts

/-- Comparitors of merged files pass the check unchanged. -/
theorem Checked.checkComparitors (checked : config.Checked) (distinct : config.comparitors.Nodup)
    (path : Path) :
    Config.checkComparitors path config.comparitors = .ok config.comparitors := by
  have nonempty : ¬ config.comparitors.isEmpty = true := by simpa using checked.enabled
  have known : (config.comparitors.find? fun name => !isComparitor name) = none := by
    rw [List.find?_eq_none]
    intro name member
    simp [Options.isComparitor_of_mem (checked.known name member)]
  have lowered : config.comparitors.map Text.lower = config.comparitors :=
    map_lower fun name member => Options.lower_comparitor name (checked.known name member)
  have kept : withoutRepeats config.comparitors = config.comparitors :=
    foldl_keep_of_nodup (List.nodup_append.mpr ⟨List.nodup_nil, distinct, by simp⟩)
  rw [Config.checkComparitors, if_neg nonempty, known, lowered, kept]

/-- Taking in the printed settings of merged files gives these settings again. -/
theorem Checked.merge_settings (checked : config.Checked) (distinct : config.comparitors.Nodup)
    (path : Path) :
    merge [⟨path, config.settings⟩] = .ok { config with sources := [path] } := by
  have comparitors := checked.checkComparitors distinct path
  have names : config.modifierNames?.map (·.map Text.lower) = config.modifierNames? := by
    cases defined : config.modifierNames? with
    | none => rfl
    | some names => rw [Option.map_some, map_lower (checked.lowered names defined)]
  have overridden : Config.override standard ⟨path, config.settings⟩ =
      .ok { config with sources := [path] } := by
    rw [Config.override]
    simp only [settings, FileSettings.comparitors?, FileSettings.modifierNames?, FileSettings.format?,
      Option.bind_some, comparitors, names, standard]
    rw [Option.or_none]
    rfl
  exact merge_cons_eq_ok_iff.mpr ⟨standard, merge_nil, overridden⟩

/-- The settings of merged files can be printed and read as a file, and this file alone gives the same
settings and the same parser options again.

Proof: the printed settings are read back as they are, and merging this one file takes them in unchanged,
because merged comparitors are known and have no repetitions, and merged names are in lower case. -/
theorem merge_effective (merged : merge sources = .ok config) (path : Path) :
    ∃ settings, FileSettings.ofText? config.toToml = some settings ∧
      ∃ again, merge [⟨path, settings⟩] = .ok again ∧
        again.comparitors = config.comparitors ∧ again.modifierNames? = config.modifierNames? ∧
        again.format = config.format ∧ again.options = config.options := by
  have again := (checked_of_merge merged).merge_settings (nodup_of_merge merged) path
  exact ⟨config.settings, ofText?_toToml config, _, again, rfl, rfl, rfl, rfl⟩

/-- Modifier names with quotes, apostrophes, a backslash and a line end come back, as do the comparitors
of a farther file. -/
theorem merge_effective_quoted :
    let names := ["boost", "it's \"so\"", "a\n\\\t'''"]
    let files : List Source :=
      [⟨⟨true, ["work", ".cql.toml"]⟩, { parser? := some ⟨none, some names⟩ }⟩,
        ⟨⟨true, [".cql.toml"]⟩,
          { parser? := some ⟨some ["ANY", "=", "any"], some []⟩, output? := some ⟨some .json⟩ }⟩]
    let config : Config := ⟨["any", "="], some names, .json, files.map (·.path)⟩
    merge files = .ok config ∧
      ∃ settings, FileSettings.ofText? config.toToml = some settings ∧
        ∃ again, merge [⟨⟨true, ["printed.toml"]⟩, settings⟩] = .ok again ∧
          again.comparitors = config.comparitors ∧ again.modifierNames? = config.modifierNames? ∧
          again.format = config.format ∧ again.options = config.options := by
  intro names files config
  have merged : merge files = .ok config := rfl
  exact ⟨merged, merge_effective merged _⟩

end ContextualQuery.Config
