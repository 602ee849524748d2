import ContextualQuery.NameSet

/-!
# Parser options

The options say which comparitors a relation may have and which names a modifier may have. A
comparitor that is not one of the language's own is never one, whatever the options say.
-/

namespace ContextualQuery

/-- The comparitors of the language. -/
def comparitors : List String :=
  ["=", ">", "<", ">=", "<=", "<>", "==", "any", "all", "adj", "within", "encloses", "exact"]

/-- The name of the only modifier that is understood. -/
def boostModifier : String := "boost"

/-- The names that are allowed: all, or those of a set. -/
inductive AllowList where
  | any
  | only (names : NameSet)
deriving DecidableEq

namespace AllowList

/-- The list that allows the given names. -/
def ofNames (names : List String) : AllowList := .only (NameSet.ofList names)

/-- A name is allowed. -/
def contains : AllowList → String → Bool
  | .any, _ => true
  | .only names, name => names.contains name

/-- The allowed names in order, if they are limited. -/
def names? : AllowList → Option (List String)
  | .any => none
  | .only names => some names.names

end AllowList

/-- A token is a comparitor of the language, in any mixture of cases. -/
def isComparitor (text : String) : Bool := comparitors.contains (Text.lower text)

/-- The comparitors and modifier names that the parser accepts. -/
structure Options where
  comparitors : NameSet
  modifierNames : AllowList
deriving DecidableEq

namespace Options

/-- The options that accept every comparitor of the language and every modifier name. -/
def standard : Options :=
  { comparitors := NameSet.ofList ContextualQuery.comparitors, modifierNames := .any }

/-- The options with other comparitors. -/
def withComparitors (options : Options) (names : List String) : Options :=
  { options with comparitors := NameSet.ofList names }

/-- The options with other modifier names. -/
def withModifierNames (options : Options) (names : AllowList) : Options :=
  { options with modifierNames := names }

/-- A comparitor is accepted. -/
def supportsComparitor (options : Options) (text : String) : Bool :=
  options.comparitors.contains text

/-- A modifier name is accepted. -/
def supportsModifierName (options : Options) (name : String) : Bool :=
  options.modifierNames.contains name

/-- The standard options accept every modifier name. -/
theorem supportsModifierName_standard (name : String) :
    standard.supportsModifierName name = true := rfl

/-- The comparitors of the language are in lower case. -/
theorem lower_comparitor : ∀ name ∈ ContextualQuery.comparitors, Text.lower name = name := by
  decide +kernel

/-- The comparitors of the language are comparitors as they are listed. -/
theorem isComparitor_of_mem {name : String} (listed : name ∈ ContextualQuery.comparitors) :
    isComparitor name = true := by
  rwa [isComparitor, lower_comparitor name listed, List.contains_iff_mem]

/-- The standard options accept exactly the comparitors of the language. -/
theorem supportsComparitor_standard (text : String) :
    standard.supportsComparitor text = isComparitor text := by
  rw [Bool.eq_iff_iff, supportsComparitor, standard, NameSet.contains_ofList, isComparitor,
    List.contains_iff_mem]
  constructor
  · rintro ⟨name, listed, same⟩
    rw [lower_comparitor name listed] at same
    rwa [← same]
  · intro listed
    exact ⟨Text.lower text, listed, lower_comparitor _ listed⟩

end Options

end ContextualQuery
