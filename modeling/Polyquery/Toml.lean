/-!
# Configuration documents

Tables of keys as a TOML document builds them up, line by line.

* `Value` - values, with how each table came about;
* `Table.assign` - a dotted key set in a table;
* `Table.open`, `Table.openNext` - a table, or the next of an array of tables, opened by a header;
* `Table.within` - a change of the table at a path.

A table is opened by a header at most once, a key is set at most once, and dotted keys extend only
tables that dotted keys have made.
-/

namespace Polyquery.Toml

/-- How a table came about. -/
inductive TableForm where
  /-- On the way to another table of a header. -/
  | passed
  /-- On the way to the last name of a dotted key. -/
  | dotted
  /-- By its own header; so does the outermost table. -/
  | opened
  /-- Between braces. -/
  | closed
deriving DecidableEq

/-- A value.  Dates and numbers with fractions are kept as their texts, and an array may have come
about by headers. -/
inductive Value where
  | string (s : String)
  | integer (n : Int)
  | float (text : String)
  | bool (b : Bool)
  | date (text : String)
  | array (ofTables : Bool) (items : List Value)
  | table (form : TableForm) (entries : List (String × Value))
deriving Inhabited

/-- The entries of a table. -/
abbrev Entries := List (String × Value)

/-- The value of a key. -/
def Entries.lookup? (entries : Entries) (key : String) : Option Value :=
  (entries.find? fun e => e.1 == key).map (·.2)

/-- Change the value of a key, which may be missing. -/
def Entries.alter? (key : String) (change : Option Value → Option Value) :
    Entries → Option Entries
  | [] => (change none).map fun v => [(key, v)]
  | e :: rest =>
    if e.1 = key then (change (some e.2)).map fun v => (key, v) :: rest
    else (Entries.alter? key change rest).map fun es => e :: es

/-- A table. -/
structure Table where
  form : TableForm
  entries : Entries

namespace Table

/-- The value of a table. -/
def toValue (t : Table) : Value := .table t.form t.entries

/-- The table without keys. -/
def empty : Table := ⟨.opened, []⟩

/-- Whether a path may pass through a table. -/
def admits (dotted : Bool) : TableForm → Bool
  | .passed | .dotted => true
  | .opened => !dotted
  | .closed => false

/-- Change the table at a path, given by a dotted key or by a header.  Missing tables come about on
the way, and an array of tables stands for its last one. -/
def within (dotted : Bool) (change : Table → Option Table) : List String → Table → Option Table
  | [], t => change t
  | name :: names, t =>
    let step (inner : Table) := (within dotted change names inner).map toValue
    (Entries.alter? name (fun found =>
      match found with
      | none => step ⟨if dotted then .dotted else .passed, []⟩
      | some (.table form entries) =>
        if admits dotted form then step ⟨form, entries⟩ else none
      | some (.array true items) =>
        match items.getLast? with
        | some (.table form entries) =>
          (step ⟨form, entries⟩).map fun v => .array true (items.dropLast ++ [v])
        | _ => none
      | some _ => none) t.entries).map fun entries => { t with entries }

/-- Set a new key. -/
def put (key : String) (value : Value) (t : Table) : Option Table :=
  (Entries.alter? key (fun found => if found.isSome then none else some value) t.entries).map
    fun entries => { t with entries }

/-- Set a dotted key. -/
def assign (path : List String) (key : String) (value : Value) (t : Table) : Option Table :=
  within true
    (fun inner => if !path.isEmpty && inner.form != .dotted then none else inner.put key value)
    path t

/-- Open the table at a path. -/
def «open» (path : List String) (key : String) (t : Table) : Option Table :=
  within false
    (fun inner =>
      (Entries.alter? key (fun found =>
        match found with
        | none => some (.table .opened [])
        | some (.table .passed entries) => some (.table .opened entries)
        | some _ => none) inner.entries).map fun entries => { inner with entries })
    path t

/-- Open the next table of an array at a path. -/
def openNext (path : List String) (key : String) (t : Table) : Option Table :=
  within false
    (fun inner =>
      (Entries.alter? key (fun found =>
        match found with
        | none => some (.array true [.table .opened []])
        | some (.array true items) => some (.array true (items ++ [.table .opened []]))
        | some _ => none) inner.entries).map fun entries => { inner with entries })
    path t

end Table

end Polyquery.Toml
