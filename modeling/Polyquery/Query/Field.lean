import Polyquery.Expr.Document
import Polyquery.Json.Printer

/-!
# Fields and collections

* `Field` - a projected field: an output name, and an expression unless the field passes through;
* `Field.toDocument`, `Field.ofDocument` - the document form;
* `Entity` - a collection with an optional alias.
-/

namespace Polyquery

/-- A projected field.  Without an expression the field of that name passes through. -/
structure Field where
  name : String
  expr : Option Expr
deriving Inhabited

namespace Field

/-- A field that passes through. -/
def named (name : String) : Field := ⟨name, none⟩

/-- A field that holds an expression; the field of the same name passes through. -/
def computed (name : String) (expr : Expr) : Field :=
  match expr with
  | .field path => if path = name then ⟨name, none⟩ else ⟨name, some expr⟩
  | _ => ⟨name, some expr⟩

/-- Whether the field passes through. -/
def isPassThrough (f : Field) : Bool := f.expr.isNone

/-- The value of the field as an operand. -/
def value (f : Field) : Expr := f.expr.getD (.field f.name)

/-- The field of a collection; computed and qualified fields cannot be moved. -/
def fromCollection (f : Field) (collection : String) : QueryResult Field :=
  if f.expr.isSome then
    .error (.invalidExpression ("cannot qualify computed field '" ++ f.name ++ "'"))
  else if f.name.toList.contains '.' then
    .error (.invalidExpression ("field '" ++ f.name ++ "' is already qualified"))
  else .ok (named (collection ++ "." ++ f.name))

/-- The same value under another name. -/
def aliased (f : Field) (name : String) : Field := computed name f.value

/-- A function of the value, under the same name. -/
def wrap (f : Field) (func : Func) (extra : List Expr) : Field :=
  ⟨f.name, some (.call func (f.value :: extra))⟩

/-- An arithmetic operation on the value, under the same name. -/
def arithmetic (f : Field) (op : ArithmeticOp) (operand : Expr) : Field :=
  ⟨f.name, some (.arithmetic op f.value operand)⟩

/-- A part of a text value: a start from zero and an optional length. -/
def substr (f : Field) (start : Int64) (length : Option Int64) : Field :=
  f.wrap .substr (.int start :: length.toList.map .int)

/-- A rounded value. -/
def round (f : Field) (digits : Option Int64) : Field := f.wrap .round (digits.toList.map .int)

/-- Remove leading dollar signs. -/
def dropDollars (s : String) : String := String.ofList (s.toList.dropWhile (· = '$'))

/-- A field of an expression: field paths keep their path, other expressions take their tag. -/
def ofExpr (expr : Expr) : Field :=
  match expr with
  | .field path => named path
  | _ => computed (dropDollars (expr.tag?.getD "value")) expr

/-- The document value of a field: a marker for a field that passes through. -/
def documentValue (f : Field) : Json :=
  match f.expr with
  | some expr => expr.toDocument
  | none => .int 1

/-- The document of a field: one key with its value. -/
def toDocument (f : Field) : Json := .object [(f.name, f.documentValue)]

/-- The field of a document: a name, or one key with a marker or an expression. -/
def ofDocument (document : Json) : QueryResult Field :=
  match document with
  | .string name => .ok (named name)
  | .object [(name, spec)] =>
    if spec.toInt64? = some 1 then .ok (named name)
    else (Expr.ofDocument spec).map (computed name)
  | other =>
    .error (.invalidField ("expected a single-key field document, found " ++ other.compact))

/-- Equality of fields up to numerical equality of constants. -/
def eqv (a b : Field) : Bool := a.name == b.name && Expr.eqvOption a.expr b.expr

end Field

/-- A collection, under an alias if it has one. -/
structure Entity where
  collection : String
  aliasName : Option String
deriving DecidableEq, Inhabited

namespace Entity

/-- A collection without an alias. -/
def named (collection : String) : Entity := ⟨collection, none⟩

/-- The name by which other clauses refer to the collection. -/
def reference (e : Entity) : String := e.aliasName.getD e.collection

/-- The document of a collection. -/
def toDocument (e : Entity) : Json :=
  match e.aliasName with
  | some aliasName => .object [(aliasName, .string ("$" ++ e.collection))]
  | none => .object [(e.collection, .int 1)]

end Entity

end Polyquery
