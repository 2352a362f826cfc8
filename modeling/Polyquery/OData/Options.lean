import Polyquery.OData.Node
import Polyquery.OData.Printer
import Polyquery.Text.FormEncoded

/-!
# Query options

* `OptionValue` - a text, a number or a flag;
* `Settings` - what applications choose about query options;
* `Writer` - a dialect, and whether paging asks for a count;
* `Writer.options` - the options of a query; `Writer.expandedOptions` - those of a node;
* `Writer.expandItem` - the text of one expansion;
* `queryString` - options as one form-encoded text.
-/

namespace Polyquery.OData

/-- The value of a query option. -/
inductive OptionValue where
  | text (s : String)
  | number (n : Int64)
  | flag (b : Bool)

/-- The text of a value. -/
def OptionValue.toText : OptionValue → String
  | .text s => s
  | .number n => Integer.text64 n
  | .flag true => "true"
  | .flag false => "false"

/-- The document of a value. -/
def OptionValue.toDocument : OptionValue → Json
  | .text s => .string s
  | .number n => .int n.toInt
  | .flag b => .bool b

/-- Options in the order they are written. -/
abbrev Options := List (String × OptionValue)

/-- The document of options. -/
def Options.toDocument (options : Options) : Json :=
  .object (options.map fun o => (o.1, o.2.toDocument))

/-- Options as a form-encoded text. -/
def queryString (options : Options) : String :=
  Text.formText (options.map fun o => (o.1, o.2.toText))

/-- What applications choose about query options. -/
structure Settings where
  /-- Whether a bound on the rows asks for their count too. -/
  countOnPaging : Bool
  /-- How deep expansions may nest. -/
  maxExpandDepth : Nat
deriving DecidableEq

/-- The settings where an application chooses none. -/
def Settings.standard : Settings := ⟨true, 8⟩

/-- How queries become options. -/
structure Writer where
  dialect : Dialect
  countOnPaging : Bool

/-- The writer of the standard dialect with some settings. -/
def Writer.ofSettings (s : Settings) : Writer := ⟨.standard, s.countOnPaging⟩

/-- The writer of the standard dialect with the standard settings. -/
def Writer.standard : Writer := .ofSettings .standard

namespace Writer

/-- An entry of a projection. -/
def selectItem (w : Writer) (f : Field) : QueryResult String :=
  match f.expr with
  | none => .ok (w.dialect.fieldText f.name)
  | some expr => (w.dialect.render expr).map fun text => text ++ " as " ++ f.name

/-- A term of an ordering. -/
def orderItem (w : Writer) (t : OrderTerm) : QueryResult String :=
  (w.dialect.render t.expr).map fun text => if t.descending then text ++ " desc" else text

/-- An option of items with commas between them, if there are any. -/
def listOption (key : String) (items : List String) : Options :=
  if items.isEmpty then [] else [(key, .text (",".intercalate items))]

/-- The option of a filter, if there is one. -/
def filterOption (w : Writer) : Option Expr → QueryResult Options
  | none => .ok []
  | some filter => (w.dialect.render filter).map fun text => [("$filter", .text text)]

/-- A bound, if it is positive. -/
def boundOption (key : String) (n : Int64) : Options := if 0 < n then [(key, .number n)] else []

/-- The options of a query, from the texts of its expansions. -/
def optionsWith (w : Writer) (q : Query) (expand : QueryResult (List String))
    (levels : Option Levels) (count : Bool) : QueryResult Options :=
  if q.kind ≠ .select then
    .error (.unsupportedStatement
      ("OData options cannot express " ++ q.kind.inspect ++ " statements"))
  else if !q.lookups.isEmpty then .error (.unsupported "joins have no OData query option")
  else do
    let fields ← q.fields.mapM w.selectItem
    let filter ← w.filterOption q.effectiveFilter
    let terms ← q.ordering.mapM w.orderItem
    let keys ← q.grouping.mapM w.dialect.render
    let items ← expand
    .ok (listOption "$select" fields ++ filter ++ listOption "$orderby" terms ++
      listOption "$groupby" keys ++ listOption "$expand" items ++ boundOption "$top" q.limit ++
      boundOption "$skip" q.offset ++ (if count then [("$count", .flag true)] else []) ++
      levels.toList.map fun l => ("$levels", .text l.text))

/-- The text of an expansion from its name and options. -/
def itemText (w : Writer) (name : String) (options : Options) : String :=
  if options.isEmpty then w.dialect.fieldText name
  else
    w.dialect.fieldText name ++ "(" ++
      ";".intercalate (options.map fun o => o.1 ++ "=" ++ o.2.toText) ++ ")"

mutual

/-- The text of an expansion. -/
def expandItem (w : Writer) : Node → QueryResult String
  | ⟨query, expand, levels, count⟩ =>
    match query.collection with
    | none => .error (.invalidExpression "expanded navigation has no name")
    | some entity =>
      (w.optionsWith query (expandItems w expand) levels count).map (w.itemText entity.collection)

/-- The texts of expansions. -/
def expandItems (w : Writer) : List Node → QueryResult (List String)
  | [] => .ok []
  | n :: rest => do
    let item ← expandItem w n
    let items ← expandItems w rest
    .ok (item :: items)

end

/-- Whether a query at the top asks for a count. -/
def countsRows (w : Writer) (q : Query) (count : Bool) : Bool :=
  count || (w.countOnPaging && decide (0 < q.limit))

/-- The options of a query. -/
def options (w : Writer) (q : Query) : QueryResult Options :=
  w.optionsWith q (.ok []) none (w.countsRows q false)

/-- The options of a query with its expansions. -/
def expandedOptions (w : Writer) (n : Node) : QueryResult Options :=
  w.optionsWith n.query (w.expandItems n.expand) n.levels (w.countsRows n.query n.count)

end Writer

end Polyquery.OData
