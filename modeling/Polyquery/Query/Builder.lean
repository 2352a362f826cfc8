import Polyquery.Expr.TextPattern
import Polyquery.Query
import Polyquery.Text.Delimited

/-!
# Building queries

Each step takes a query and gives the query after it.  A step that fails gives no query, so a
failure never changes one.

* `fromCollection`, `select`, `selectDocument`, `selectAll`, `withDistinct` - source and projection;
* `whereField`, `whereExpr`, `andAlso`, `orElse`, `compare`, `between`, `test`, `prepare` - filters;
* `wrapPending`, `callPending`, `arithmeticPending` - work on the pending operand;
* `joinWith`, `onQuery`, `onFields`, `onExpr` - joins, in two steps;
* `orderBy`, `thenBy`, `orderByTerms`, `groupBy`, `take`, `skip` - ordering, grouping and paging;
* `insert`, `into`, `update`, `set`, `delete` - write statements.

A write statement has no projection and no joins: setting one drops the other.
-/

namespace Polyquery

/-- Whether a text is a letter or underscore with letters, digits and underscores behind it. -/
def isSimpleName : List Char → Bool
  | [] => false
  | c :: rest =>
    (Text.isAsciiLetter c || c = '_') &&
      rest.all fun c => Text.isAsciiLetter c || Text.isAsciiDigit c || c = '_'

/-- The collection a write statement names: a simple name, or two with a point between them. -/
def Entity.validated (name : String) : QueryResult Entity :=
  let parts := Text.splitOn '.' name.toList
  if parts.length ≤ 2 ∧ parts.all isSimpleName then .ok (Entity.named name)
  else .error (.invalidCollectionName name)

/-! ### Documents of projections and assignments -/

mutual

/-- The fields of a document: a name, an object of fields, or a list of such documents. -/
def Field.fragment : Json → QueryResult (List Field)
  | .string name => .ok [Field.named name]
  | .array items => Field.fragments items
  | .object fields => Field.entries fields
  | other =>
    .error (.unsupportedArgument ("select expects names or field documents, found " ++
      other.compact))

/-- The fields of a list of documents. -/
def Field.fragments : List Json → QueryResult (List Field)
  | [] => .ok []
  | item :: items => do
    let fields ← Field.fragment item
    return fields ++ (← Field.fragments items)

/-- The fields of the entries of an object; a zero ends them. -/
def Field.entries : List (String × Json) → QueryResult (List Field)
  | [] => .ok []
  | (name, spec) :: rest =>
    if spec.toInt64? = some 0 then .ok []
    else do
      let field ←
        if spec.toInt64? = some 1 then .ok (Field.named name)
        else (Expr.ofDocument spec).map (Field.computed name)
      return field :: (← Field.entries rest)

end

/-- The value a document assigns to a column; texts stand for themselves. -/
def Assignment.valueOf (column : String) : Json → QueryResult Expr
  | .string s => .ok (.literal (.string s))
  | .array _ => .error (.unsupportedArgument ("column '" ++ column ++ "' cannot hold an array"))
  | other => Expr.ofDocument other

/-- The assignments of an object of column values. -/
def Assignment.ofDocument : Json → QueryResult (List Assignment)
  | .object fields =>
    fields.mapM fun entry => (Assignment.valueOf entry.1 entry.2).map (Assignment.mk entry.1)
  | other =>
    .error (.unsupportedArgument ("expected an object of column values, found " ++ other.compact))

namespace Query

/-! ### Source and projection -/

/-- Read from a collection. -/
def fromCollection (q : Query) (entity : Entity) : Query := { q with collection := some entity }

/-- Put a field in the place of the one with its name, or at the end. -/
def mergeField (field : Field) : List Field → List Field
  | [] => [field]
  | f :: rest => if f.name = field.name then field :: rest else f :: mergeField field rest

/-- Merge fields into a projection in turn. -/
def mergeFields (fields more : List Field) : List Field :=
  more.foldl (fun fields field => mergeField field fields) fields

/-- Project further fields; a field replaces an earlier one of its name. -/
def select (q : Query) (fields : List Field) : Query :=
  { q with payload := none, fields := mergeFields q.fields fields }

/-- Project the fields of a document. -/
def selectDocument (q : Query) (document : Json) : QueryResult Query :=
  (Field.fragment document).map q.select

/-- Project everything. -/
def selectAll (q : Query) : Query := { q with payload := none, fields := [] }

/-- Drop duplicate rows, or keep them. -/
def withDistinct (q : Query) (flag : Bool) : Query := { q with distinct := flag }

/-! ### Filters -/

/-- Start a new filter with a pending operand. -/
def whereField (q : Query) (field : Field) : Query :=
  { q with filter := none, connective := none, pending := some field.value }

/-- Replace the filter. -/
def whereExpr (q : Query) (filter : Expr) : Query :=
  { q with filter := some filter, connective := none, pending := none }

/-- Continue the filter with a connective and a pending operand. -/
def continueWith (q : Query) (op : LogicalOp) (field : Field) : Query :=
  { q with connective := some op, pending := some field.value }

/-- Continue the filter with a condition that must hold too. -/
def andAlso (q : Query) (field : Field) : Query := q.continueWith .and field

/-- Continue the filter with a condition that may hold instead. -/
def orElse (q : Query) (field : Field) : Query := q.continueWith .or field

/-- The filter with a further condition: a filter that is a chain of the connective grows, any other
is joined by the connective, or by a conjunction if there is none. -/
def foldFilter (filter : Option Expr) (connective : Option LogicalOp) (condition : Expr) : Expr :=
  match filter, connective with
  | none, _ => condition
  | some (.logical op args), some connective =>
    if op = connective then .logical op (args ++ [condition])
    else .logical connective [.logical op args, condition]
  | some existing, connective => .logical (connective.getD .and) [existing, condition]

/-- Complete the pending operand to a condition of the filter. -/
def complete (q : Query) (condition : Expr → Expr) : QueryResult Query :=
  match q.pending with
  | none => .error .noPendingOperand
  | some left =>
    .ok { q with
      pending := none
      filter := some (foldFilter q.filter q.connective (condition left)) }

/-- Compare the pending operand. -/
def compare (q : Query) (op : ComparisonOp) (value : Expr) : QueryResult Query :=
  q.complete fun left => .compare op left value

/-- Test the pending operand for null. -/
def isNull (q : Query) : QueryResult Query := q.compare .eq Expr.null

/-- Test the pending operand for a range. -/
def between (q : Query) (low high : Expr) : QueryResult Query :=
  q.complete fun left => Expr.between left low high

/-- Test the pending operand for a literal text. -/
def test (q : Query) (pattern : TextPattern) : QueryResult Query :=
  q.complete fun left => Expr.textMatch left pattern

/-- Set the filter aside, joined with what has been set aside before. -/
def prepare (q : Query) (either : Bool) : Query :=
  let prepared := match q.prepared, q.filter with
    | prepared, none => prepared
    | none, some filter => some filter
    | some before, some filter => some (.logical (if either then .or else .and) [before, filter])
  { q with prepared, filter := none, connective := none, pending := none }

/-! ### The pending operand -/

/-- Change the pending operand. -/
def wrapPending (q : Query) (wrap : Expr → Expr) : QueryResult Query :=
  match q.pending with
  | none => .error .noPendingOperand
  | some left => .ok { q with pending := some (wrap left) }

/-- Apply a function to the pending operand. -/
def callPending (q : Query) (func : Func) (extra : List Expr) : QueryResult Query :=
  q.wrapPending fun left => .call func (left :: extra)

/-- Apply an arithmetic operator to the pending operand. -/
def arithmeticPending (q : Query) (op : ArithmeticOp) (operand : Expr) : QueryResult Query :=
  q.wrapPending fun left => .arithmetic op left operand

/-! ### Joins -/

/-- The alias of the collection that is joined. -/
def targetAlias : JoinTarget Query → Option String
  | .collection entity => entity.aliasName
  | .query _ => none

/-- Stage a join; its condition finishes it. -/
def joinWith (q : Query) (target : JoinTarget Query) (direction : JoinDirection)
    (aliasName : Option String) : Query :=
  { q with staged := some ⟨target, direction, aliasName <|> targetAlias target⟩ }

/-- Stage an inner join. -/
def join (q : Query) (target : JoinTarget Query) : Query := q.joinWith target .inner none

/-- Finish the staged join. -/
def finishJoin (q : Query) (condition : JoinCondition) : QueryResult Query :=
  match q.staged with
  | none => .error .joinNotStaged
  | some staged =>
    .ok { q with
      staged := none
      payload := none
      lookups := q.lookups ++ [staged.finish condition] }

/-- Finish the staged join by equality of two fields. -/
def onFields (q : Query) (localField foreignField : String) : QueryResult Query :=
  q.finishJoin (.fields localField foreignField)

/-- Finish the staged join by a filter. -/
def onExpr (q : Query) (filter : Expr) : QueryResult Query := q.finishJoin (.filter filter)

/-- Finish the staged join by the filter of another query. -/
def onQuery (q condition : Query) : QueryResult Query :=
  match q.staged, condition.effectiveFilter with
  | none, _ => .error .joinNotStaged
  | some _, none => .error (.invalidExpression "join condition has no filter")
  | some _, some filter => q.onExpr filter

/-! ### Ordering, grouping and paging -/

/-- Order by some terms only. -/
def orderByTerms (q : Query) (terms : List OrderTerm) : Query := { q with ordering := terms }

/-- Order by a field only. -/
def orderBy (q : Query) (field : Field) (descending : Bool) : Query :=
  q.orderByTerms [⟨field.value, descending⟩]

/-- Order by further terms. -/
def thenByTerms (q : Query) (terms : List OrderTerm) : QueryResult Query :=
  if q.ordering.isEmpty then .error .orderingNotStarted
  else .ok { q with ordering := q.ordering ++ terms }

/-- Order by a further field. -/
def thenBy (q : Query) (field : Field) (descending : Bool) : QueryResult Query :=
  q.thenByTerms [⟨field.value, descending⟩]

/-- Group by some fields only. -/
def groupBy (q : Query) (fields : List Field) : Query :=
  { q with grouping := fields.map Field.value }

/-- Group by some expressions only. -/
def groupByExprs (q : Query) (keys : List Expr) : Query := { q with grouping := keys }

/-- Bound the number of rows. -/
def take (q : Query) (n : Int64) : Query := { q with limit := n }

/-- Leave rows out in front. -/
def skip (q : Query) (n : Int64) : Query := { q with offset := n }

/-! ### Write statements -/

/-- The query as a write statement. -/
def writing (q : Query) (payload : Payload) : Query :=
  { q with payload := some payload, fields := [], lookups := [], staged := none }

/-- Insert a row of values. -/
def insertValues (q : Query) (values : List Assignment) : Query := q.writing (.insert values)

/-- Insert the row of an object. -/
def insert (q : Query) (row : Json) : QueryResult Query :=
  (Assignment.ofDocument row).map q.insertValues

/-- Name the collection rows are inserted into. -/
def into (q : Query) (collection : String) : QueryResult Query :=
  (Entity.validated collection).map q.fromCollection

/-- The payload of an update: the one there is, or an empty one. -/
def updatePayload : Option Payload → Payload
  | some (.update values) => .update values
  | _ => .update []

/-- Update a collection. -/
def update (q : Query) (collection : String) : QueryResult Query :=
  (Entity.validated collection).map fun entity =>
    (q.fromCollection entity).writing (updatePayload q.payload)

/-- Update the given columns. -/
def setValues (q : Query) (values : List Assignment) : Query := q.writing (.update values)

/-- Update the columns of an object. -/
def set (q : Query) (values : Json) : QueryResult Query :=
  (Assignment.ofDocument values).map q.setValues

/-- Delete from a collection. -/
def delete (q : Query) (collection : String) : QueryResult Query :=
  (Entity.validated collection).map fun entity => (q.fromCollection entity).writing .delete

end Query

end Polyquery
