import ContextualQuery.Number.Binary64

/-!
# JSON values

A JSON value, with numbers as floating-point numbers and the fields of an object in their order.
-/

namespace ContextualQuery

/-- A JSON value. -/
inductive Json where
  | null
  | bool (value : Bool)
  | number (value : Binary64)
  | string (value : String)
  | array (items : List Json)
  | object (fields : List (String × Json))

namespace Json

/-- The JSON value that stands for nothing. -/
instance : Inhabited Json := ⟨.null⟩

/-- The JSON value of a floating-point number. JSON has no infinities and no number that is not one;
they become `null`. -/
def ofBinary64 (value : Binary64) : Json := if value.isFinite then .number value else .null

/-- A finite number is a number in JSON as well. -/
theorem ofBinary64_finite {value : Binary64} (finite : value.isFinite = true) :
    ofBinary64 value = .number value := by
  simp [ofBinary64, finite]

end Json

end ContextualQuery
