import Polyquery.Number.BinaryFloat

/-!
# JSON documents

Documents with ordered object keys: a key keeps the place of its first insertion.

* `Json` - the value type; integers and floating-point numbers are apart;
* `Json.insert`, `Json.field?` - writing and reading one key of an object;
* `Json.ofDouble` - a number, or null where JSON has none.
-/

namespace Polyquery

/-- A JSON value. -/
inductive Json where
  | null
  | bool (b : Bool)
  | int (n : Int)
  | float (f : Double)
  | string (s : String)
  | array (items : List Json)
  | object (fields : List (String × Json))
deriving Inhabited

namespace Json

/-- Set a key, in place if the object has it and at the end otherwise. -/
def insert (key : String) (value : Json) : List (String × Json) → List (String × Json)
  | [] => [(key, value)]
  | entry :: rest =>
    if entry.1 = key then (key, value) :: rest else entry :: insert key value rest

/-- The value of a key. -/
def lookup? (key : String) : List (String × Json) → Option Json
  | [] => none
  | entry :: rest => if entry.1 = key then some entry.2 else lookup? key rest

/-- The value of a key, if the document is an object that has it. -/
def field? (key : String) : Json → Option Json
  | .object fields => lookup? key fields
  | _ => none

/-- An object with the given keys set in turn. -/
def ofFields (entries : List (String × Json)) : Json :=
  .object (entries.foldl (fun acc e => insert e.1 e.2 acc) [])

/-- The number of a double; infinities and not-a-number have no JSON number and become null. -/
def ofDouble (f : Double) : Json := if f.isFinite then .float f else .null

/-- A signed 64-bit integer, if the document is one. -/
def toInt64? : Json → Option Int64
  | .int n => if -Int.pow 2 63 ≤ n ∧ n < Int.pow 2 63 then some (Int64.ofInt n) else none
  | _ => none

end Json

end Polyquery
