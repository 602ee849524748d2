import ContextualQuery.Number.Binary64

/-!
# TOML values

A TOML document is a table. A table remembers how it came to be, because that decides what a later
line may add to it: a table is named by its header, implied by the header of a table below it, made by
a dotted key, or written inline. An array of tables is extended by later headers, other arrays are
complete as they stand.
-/

namespace ContextualQuery.Toml

/-- How a table came to be. -/
inductive Origin where
  | header
  | implied
  | dotted
  | inline
deriving DecidableEq, Repr

/-- The table exists only because something below it was named. -/
def Origin.isImplicit : Origin → Bool
  | .implied | .dotted => true
  | .header | .inline => false

/-- A TOML value. -/
inductive Value where
  | string (value : String)
  | integer (value : Int)
  | float (value : Binary64)
  | boolean (value : Bool)
  | dateTime (text : String)
  | array (ofTables : Bool) (items : List Value)
  | table (origin : Origin) (entries : List (String × Value))

/-- The entries of a table in the order in which their keys appeared. -/
abbrev Entries := List (String × Value)

namespace Entries

/-- The value of a key. -/
def value? (entries : Entries) (key : String) : Option Value :=
  (entries.find? (·.1 == key)).map Prod.snd

/-- The entries with another value for a key that they have. -/
def replace (entries : Entries) (key : String) (value : Value) : Entries :=
  entries.map fun (other, old) => if other = key then (other, value) else (other, old)

end Entries

/-- A table: how it came to be, and its entries. -/
structure Table where
  origin : Origin
  entries : Entries

namespace Table

/-- The table as a value. -/
def toValue (table : Table) : Value := .table table.origin table.entries

/-- The table without entries. -/
def empty (origin : Origin) : Table := ⟨origin, []⟩

/-- A change of a table, which may be refused. -/
abbrev Change := Table → Option Table

/-- Changes the table at a path of keys. Tables that are missing on the way are made, by a dotted key
or implied by a header. The way leads through the last table of an array of tables. It does not lead
into an inline table, nor does a dotted key lead into a table that was named or written before. -/
def changeAt? (dotted : Bool) (change : Change) : List String → Table → Option Table
  | [], table => change table
  | key :: rest, table =>
    match table.entries.value? key with
    | none => do
      let below ← changeAt? dotted change rest (empty (if dotted then .dotted else .implied))
      return { table with entries := table.entries ++ [(key, below.toValue)] }
    | some (.table origin entries) =>
      if origin = .inline ∨ (dotted = true ∧ origin.isImplicit = false) then none
      else do
        let below ← changeAt? dotted change rest ⟨origin, entries⟩
        return { table with entries := table.entries.replace key below.toValue }
    | some (.array true items) =>
      match items.getLast? with
      | some (.table origin entries) => do
        let below ← changeAt? dotted change rest ⟨origin, entries⟩
        let items := items.dropLast ++ [below.toValue]
        return { table with entries := table.entries.replace key (.array true items) }
      | _ => none
    | some _ => none

/-- Adds an entry. A key that is there already is refused. -/
def add? (key : String) (value : Value) : Change := fun table =>
  if (table.entries.value? key).isSome then none
  else some { table with entries := table.entries ++ [(key, value)] }

/-- Assigns a value to a dotted key. Only dotted keys add to a table that a dotted key made. -/
def assign? (path : List String) (key : String) (value : Value) : Change :=
  changeAt? true
    (fun table => if (table.origin == .dotted) == path.isEmpty then none else add? key value table)
    path

/-- Names a table by its header. A table that was only implied so far is taken over. -/
def openTable? (key : String) : Change := fun table =>
  match table.entries.value? key with
  | none => add? key (.table .header []) table
  | some (.table .implied entries) =>
    some { table with entries := table.entries.replace key (.table .header entries) }
  | some _ => none

/-- Adds a table to an array of tables, which is made where it is missing. -/
def openElement? (key : String) : Change := fun table =>
  match table.entries.value? key with
  | none => add? key (.array true [.table .header []]) table
  | some (.array true items) =>
    let items := items ++ [.table .header []]
    some { table with entries := table.entries.replace key (.array true items) }
  | some _ => none

end Table

end ContextualQuery.Toml
