import Polyquery.OData.Options
import Polyquery.Sql.Dialect
import Polyquery.Toml.Reader

/-!
# Settings

What applications choose, read from a configuration document.

* `SqlSettings`, `Settings` - the choices, with standard ones for all that a document leaves out;
* `Settings.parse?` - the settings of a document such as

  ```
  [sql]
  dialect = "sqlite"
  parser_dialect = "generic"

  [odata]
  count_on_paging = true
  max_expand_depth = 8
  ```

Keys that are not known are left alone.  A section may also be an array of its values in order.
-/

namespace Polyquery

/-- What applications choose about SQL. -/
structure SqlSettings where
  /-- The dialect that is written. -/
  dialect : Sql.DialectName
  /-- The dialect that is read. -/
  parserDialect : Sql.DialectName
deriving DecidableEq

/-- What applications choose. -/
structure Settings where
  sql : SqlSettings
  odata : OData.Settings
deriving DecidableEq

namespace Settings

/-- The settings where an application chooses none. -/
def standard : Settings := ⟨⟨.generic, .generic⟩, OData.Settings.standard⟩

/-! ### Values -/

/-- The dialect of an exact name. -/
def dialectNamed? (name : String) : Option Sql.DialectName :=
  Sql.DialectName.all.find? fun d => d.text == name

/-- A dialect: its name, or a table with an empty entry of that name. -/
def dialect? : Toml.Value → Option Sql.DialectName
  | .string name => dialectNamed? name
  | .table _ [(name, .table _ [])] | .table _ [(name, .array _ [])] => dialectNamed? name
  | _ => none

/-- A truth value. -/
def flag? : Toml.Value → Option Bool
  | .bool b => some b
  | _ => none

/-- A number of levels, of at most 64 bits. -/
def depth? : Toml.Value → Option Nat
  | .integer n => if 0 ≤ n ∧ n < Int.pow 2 64 then some n.toNat else none
  | _ => none

/-- A part of a section: the value of a key, else the standard one.  The value has to be of the
right kind. -/
def part? {α : Type} (read : Toml.Value → Option α) (standard : α) :
    Option Toml.Value → Option α
  | none => some standard
  | some v => read v

/-- The two parts of a section: by their keys, or in order. -/
def parts? (first second : String) : Toml.Value → Option (Option Toml.Value × Option Toml.Value)
  | .table _ entries =>
    some (Toml.Entries.lookup? entries first, Toml.Entries.lookup? entries second)
  | .array _ items => some (items[0]?, items[1]?)
  | .date _ => some (none, none)
  | _ => none

/-- The section about SQL. -/
def sqlSection? (v : Toml.Value) : Option SqlSettings := do
  let (written, read) ← parts? "dialect" "parser_dialect" v
  let dialect ← part? dialect? standard.sql.dialect written
  let parserDialect ← part? dialect? standard.sql.parserDialect read
  return ⟨dialect, parserDialect⟩

/-- The section about query options. -/
def odataSection? (v : Toml.Value) : Option OData.Settings := do
  let (count, depth) ← parts? "count_on_paging" "max_expand_depth" v
  let countOnPaging ← part? flag? standard.odata.countOnPaging count
  let maxExpandDepth ← part? depth? standard.odata.maxExpandDepth depth
  return ⟨countOnPaging, maxExpandDepth⟩

/-- The settings of a configuration document. -/
def parse? (text : String) : Option Settings := do
  let document ← Toml.parse? text
  let sql ← part? sqlSection? standard.sql (Toml.Entries.lookup? document.entries "sql")
  let odata ← part? odataSection? standard.odata (Toml.Entries.lookup? document.entries "odata")
  return ⟨sql, odata⟩

end Settings

end Polyquery
