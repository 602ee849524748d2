import ContextualQuery.Proofs.Config.Merge

/-!
# The first file that defines a setting

Every setting of merged files is that of the first file that defines it, whatever the files say about
the other settings, and whatever the files behind it say about this one. A list of comparitors is
checked in every file that has one. Files are taken in from the last to the first, so of several files
that fail the check the last one is reported, also where a file in front of it replaces its list.
-/

namespace ContextualQuery.Config

/-! ### Texts without repeats -/

/-- The texts kept so far stay in front, and of the others each new one is kept where it first occurs. -/
theorem foldl_keep_eq (texts kept : List String) :
    texts.foldl keep kept = kept ++ (texts.filter fun text => !kept.contains text).eraseDups := by
  induction texts generalizing kept with
  | nil => simp
  | cons head tail inductionHypothesis =>
    rw [List.foldl_cons, inductionHypothesis]
    by_cases member : head ∈ kept
    · rw [keep_of_mem member, List.filter_cons_of_neg (by simpa using member)]
    · have others : (tail.filter fun text => !(kept ++ [head]).contains text) =
          (tail.filter fun text => !kept.contains text).filter fun text => !text == head := by
        rw [List.filter_filter]
        refine List.filter_congr fun text _ => ?_
        rw [Bool.eq_iff_iff]
        simp [and_comm]
      rw [keep_of_not_mem member, List.filter_cons_of_pos (by simpa using member),
        List.eraseDups_cons, others, List.append_assoc, List.singleton_append]

/-- Dropping repeats in reading order is the duplicate removal of lists. -/
theorem withoutRepeats_eq_eraseDups (texts : List String) :
    withoutRepeats texts = texts.eraseDups := by
  have nothingKept : (texts.filter fun text => !([] : List String).contains text) = texts :=
    List.filter_eq_self.mpr fun text _ => by simp
  rw [withoutRepeats_eq, foldl_keep_eq, nothingKept, List.nil_append]

/-! ### Checking the comparitors of a file -/

/-- If the file has a list of comparitors, there is a name in it, and each name is one of the language in
some mixture of cases. -/
def Source.Sound (source : Source) : Prop :=
  ∀ names, source.settings.comparitors? = some names →
    names ≠ [] ∧ ∀ name ∈ names, Text.lower name ∈ ContextualQuery.comparitors

/-- What is wrong with the comparitors of a file: there is none in the list, or the first name that the
language does not know is the given one, as it is written. -/
inductive Source.Faulty (source : Source) : ConfigError → Prop
  | empty (defined : source.settings.comparitors? = some []) :
      source.Faulty (.noComparitors source.path)
  | unknown {known rest : List String} {name : String}
      (defined : source.settings.comparitors? = some (known ++ name :: rest))
      (before : ∀ earlier ∈ known, Text.lower earlier ∈ ContextualQuery.comparitors)
      (strange : Text.lower name ∉ ContextualQuery.comparitors) :
      source.Faulty (.unknownComparitor name source.path)

variable {path : Path} {names : List String} {source : Source} {sources : List Source}
  {config result : Config} {error : ConfigError}

/-- A comparitor is known exactly if it is, in lower case, on the list of all comparitors. -/
theorem isComparitor_iff {name : String} :
    isComparitor name = true ↔ Text.lower name ∈ ContextualQuery.comparitors :=
  List.contains_iff_mem

/-- Known comparitors are accepted in lower case and each once. -/
theorem checkComparitors_of_known (nonempty : names ≠ [])
    (known : ∀ name ∈ names, Text.lower name ∈ ContextualQuery.comparitors) :
    checkComparitors path names = .ok (names.map Text.lower).eraseDups := by
  have noneStrange : (names.find? fun name => !isComparitor name) = none := by
    rw [List.find?_eq_none]
    intro name member
    simp [isComparitor_iff.mpr (known name member)]
  rw [checkComparitors, if_neg (by simpa using nonempty), noneStrange, withoutRepeats_eq_eraseDups]

/-- The first unknown comparitor is the one that is reported. -/
theorem checkComparitors_of_strange {known rest : List String} {name : String}
    (before : ∀ earlier ∈ known, Text.lower earlier ∈ ContextualQuery.comparitors)
    (strange : Text.lower name ∉ ContextualQuery.comparitors) :
    checkComparitors path (known ++ name :: rest) = .error (.unknownComparitor name path) := by
  have isFirst : ((known ++ name :: rest).find? fun name => !isComparitor name) = some name := by
    rw [List.find?_eq_some_iff_append]
    refine ⟨?_, known, rest, rfl, fun earlier member => ?_⟩
    · simpa using mt isComparitor_iff.mp strange
    · simp [isComparitor_iff.mpr (before earlier member)]
  rw [checkComparitors, if_neg (by simp), isFirst]

/-- A list of names is empty, or all its names are known, or one of them is the first that is not. -/
theorem names_cases (names : List String) :
    names = [] ∨
      (names ≠ [] ∧ ∀ name ∈ names, Text.lower name ∈ ContextualQuery.comparitors) ∨
      ∃ known name rest, names = known ++ name :: rest ∧
        (∀ earlier ∈ known, Text.lower earlier ∈ ContextualQuery.comparitors) ∧
        Text.lower name ∉ ContextualQuery.comparitors := by
  cases found : names.find? fun name => !isComparitor name with
  | none =>
    rw [List.find?_eq_none] at found
    have known : ∀ name ∈ names, Text.lower name ∈ ContextualQuery.comparitors := fun name member =>
      isComparitor_iff.mp (by simpa using found name member)
    exact (Decidable.em (names = [])).imp_right fun nonempty => .inl ⟨nonempty, known⟩
  | some name =>
    obtain ⟨strange, known, rest, shape, before⟩ := List.find?_eq_some_iff_append.mp found
    refine .inr (.inr ⟨known, name, rest, shape, fun earlier member => ?_, ?_⟩)
    · exact isComparitor_iff.mp (by simpa using before earlier member)
    · exact mt isComparitor_iff.mpr (by simpa using strange)

/-- A file is sound, or there is one thing wrong with it. -/
theorem Source.sound_or_faulty (source : Source) : source.Sound ∨ ∃ error, source.Faulty error := by
  cases defined : source.settings.comparitors? with
  | none => exact .inl fun names given => by simp [defined] at given
  | some names =>
    obtain rfl | sound | ⟨known, name, rest, rfl, before, strange⟩ := names_cases names
    · exact .inr ⟨_, .empty defined⟩
    · refine .inl fun names' given => ?_
      obtain rfl := Option.some.inj (defined.symm.trans given)
      exact sound
    · exact .inr ⟨_, .unknown defined before strange⟩

/-! ### Taking in a file -/

/-- The configuration in which each setting is that of the first file that defines it, or the standard
one if no file does. Names are in lower case, and each comparitor stands where it was first listed. -/
def ofFirst (sources : List Source) : Config where
  comparitors := (sources.findSome? (·.settings.comparitors?)).elim standard.comparitors fun names =>
    (names.map Text.lower).eraseDups
  modifierNames? := (sources.findSome? (·.settings.modifierNames?)).map (·.map Text.lower)
  format := (sources.findSome? (·.settings.format?)).getD standard.format
  sources := sources.map (·.path)

/-- A setting that the closest file does not define is that of the files farther away. -/
theorem ofFirst_cons (source : Source) (farther : List Source) :
    ofFirst (source :: farther) =
      { comparitors := source.settings.comparitors?.elim (ofFirst farther).comparitors fun names =>
          (names.map Text.lower).eraseDups
        modifierNames? :=
          (source.settings.modifierNames?.map (·.map Text.lower)).or (ofFirst farther).modifierNames?
        format := source.settings.format?.getD (ofFirst farther).format
        sources := source.path :: (ofFirst farther).sources } := by
  rw [ofFirst, Config.mk.injEq]
  refine ⟨?_, ?_, ?_, rfl⟩
  · cases defined : source.settings.comparitors? <;> simp [ofFirst, defined]
  · cases defined : source.settings.modifierNames? <;> simp [ofFirst, defined]
  · cases defined : source.settings.format? <;> simp [ofFirst, defined]

/-- A sound file in front of others puts the settings that it defines in the place of theirs. -/
theorem Source.Sound.override (sound : source.Sound) (farther : List Source) :
    Config.override (ofFirst farther) source = .ok (ofFirst (source :: farther)) := by
  rw [Config.override, ofFirst_cons]
  cases defined : source.settings.comparitors? with
  | none => rfl
  | some names =>
    obtain ⟨nonempty, known⟩ := sound names defined
    simp only [checkComparitors_of_known nonempty known]
    rfl

/-- What is wrong with a file is reported, whatever it was to be put in front of. -/
theorem Source.Faulty.override (faulty : source.Faulty error) (config : Config) :
    Config.override config source = .error error := by
  cases faulty with
  | empty defined =>
    rw [Config.override, defined]
    rfl
  | unknown defined before strange =>
    rw [Config.override, defined]
    simp only [checkComparitors_of_strange before strange]
    rfl

/-- A closer file is accepted exactly if it is sound, and then its settings take effect before those
of the farther files. -/
theorem override_eq_ok_iff {farther : List Source} :
    override (ofFirst farther) source = .ok result ↔
      source.Sound ∧ result = ofFirst (source :: farther) := by
  constructor
  · intro overridden
    obtain sound | ⟨error, faulty⟩ := source.sound_or_faulty
    · rw [sound.override] at overridden
      exact ⟨sound, (Except.ok.inj overridden).symm⟩
    · rw [faulty.override] at overridden
      cases overridden
  · rintro ⟨sound, rfl⟩
    exact sound.override farther

/-- A closer file is refused exactly for a fault of its own, which is the one that is reported. -/
theorem override_eq_error_iff {farther : List Source} :
    override (ofFirst farther) source = .error error ↔ source.Faulty error := by
  constructor
  · intro failed
    obtain sound | ⟨error', faulty⟩ := source.sound_or_faulty
    · rw [sound.override] at failed
      cases failed
    · rw [faulty.override] at failed
      obtain rfl := Except.error.inj failed
      exact faulty
  · exact fun faulty => faulty.override _

/-! ### Merging -/

/-- Merging fails if the files farther away cannot be merged, or else the closest one cannot be taken
in. -/
theorem merge_cons_eq_error_iff :
    merge (source :: sources) = .error error ↔
      merge sources = .error error ∨
        ∃ config, merge sources = .ok config ∧ override config source = .error error := by
  rw [merge]
  cases merge sources with
  | error error => simp [bind, Except.bind]
  | ok config => simp [bind, Except.bind]

/-- Files are merged exactly if all of them are sound. -/
theorem merge_eq_ok_iff :
    merge sources = .ok config ↔ (∀ source ∈ sources, source.Sound) ∧ config = ofFirst sources := by
  induction sources generalizing config with
  | nil =>
    have standard : ofFirst [] = Config.standard := rfl
    simp [merge_nil, standard, eq_comm]
  | cons source farther inductionHypothesis =>
    rw [merge_cons_eq_ok_iff, List.forall_mem_cons]
    constructor
    · rintro ⟨before, merged, overridden⟩
      obtain ⟨others, rfl⟩ := inductionHypothesis.mp merged
      obtain ⟨sound, rfl⟩ := override_eq_ok_iff.mp overridden
      exact ⟨⟨sound, others⟩, rfl⟩
    · rintro ⟨⟨sound, others⟩, rfl⟩
      exact ⟨_, inductionHypothesis.mpr ⟨others, rfl⟩, sound.override farther⟩

/-- Merging fails exactly with what is wrong with the last file that is not sound. -/
theorem merge_eq_error_iff :
    merge sources = .error error ↔
      ∃ closer source farther, sources = closer ++ source :: farther ∧ source.Faulty error ∧
        ∀ other ∈ farther, other.Sound := by
  induction sources with
  | nil => simp [merge_nil]
  | cons first farther inductionHypothesis =>
    rw [merge_cons_eq_error_iff, inductionHypothesis]
    constructor
    · rintro (⟨closer, source, behind, rfl, faulty, sound⟩ | ⟨before, merged, failed⟩)
      · exact ⟨first :: closer, source, behind, rfl, faulty, sound⟩
      · obtain ⟨sound, rfl⟩ := merge_eq_ok_iff.mp merged
        exact ⟨[], first, farther, rfl, override_eq_error_iff.mp failed, sound⟩
    · rintro ⟨closer, source, behind, shape, faulty, sound⟩
      cases closer with
      | nil =>
        obtain ⟨rfl, rfl⟩ := List.cons.inj shape
        exact .inr ⟨_, merge_eq_ok_iff.mpr ⟨sound, rfl⟩, faulty.override _⟩
      | cons head closer =>
        obtain ⟨rfl, rfl⟩ := List.cons.inj shape
        exact .inl ⟨closer, source, behind, rfl, faulty, sound⟩

/-- Files are merged exactly if none has an empty list of comparitors or one with a name that the
language does not know, and each setting is then that of the first file that defines it. Otherwise the
last file with such a list is reported: that the list is empty, or the first unknown name in it. -/
theorem merge_exact (sources : List Source) :
    (∀ config, merge sources = .ok config ↔
      (∀ source ∈ sources, source.Sound) ∧ config = ofFirst sources) ∧
    (∀ error, merge sources = .error error ↔
      ∃ closer source farther, sources = closer ++ source :: farther ∧ source.Faulty error ∧
        ∀ other ∈ farther, other.Sound) :=
  ⟨fun _ => merge_eq_ok_iff, fun _ => merge_eq_error_iff⟩

/-- The closest file replaces both lists, and the empty one is overtaken by the unknown name farther
away. -/
example :
    merge [⟨⟨true, ["a", "b"]⟩, { parser? := some ⟨some ["="], none⟩ }⟩,
      ⟨⟨true, ["a"]⟩, { parser? := some ⟨some [], none⟩ }⟩,
      ⟨⟨true, []⟩, { parser? := some ⟨some ["ANY", "Near"], none⟩ }⟩] =
        .error (.unknownComparitor "Near" ⟨true, []⟩) := rfl

end ContextualQuery.Config
