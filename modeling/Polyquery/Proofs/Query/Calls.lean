import Polyquery.Proofs.Outcome
import Polyquery.Proofs.Query.Projection
import Polyquery.Query.ByClosure

/-!
# Calls of the builder

The public calls of the builder as data, and what every sequence of them keeps.

* `FilterCall`, `Call` - the calls that build a filter, and all calls;
* `Query.settled`, `Query.run` - the query after one call or many; a failing call changes nothing;
* `Query.Consistent` - fields have names of their own, a statement that writes reads nothing, and
  an operand that waits beside a filter has its connective;
* `run_consistent` - the query is consistent after any calls.
-/

namespace Polyquery

/-! ### Calls -/

/-- Calls that build a filter. -/
inductive FilterCall where
  | whereField (field : Field)
  | whereExpr (filter : Expr)
  | andAlso (field : Field)
  | orElse (field : Field)
  | callPending (func : Func) (extra : List Expr)
  | arithmeticPending (op : ArithmeticOp) (operand : Expr)
  | compare (op : ComparisonOp) (value : Expr)
  | isNull
  | between (low high : Expr)
  | test (pattern : TextPattern)
  | prepare (either : Bool)

/-- The outcome of a call that builds a filter. -/
def FilterCall.perform (q : Query) : FilterCall → QueryResult Query
  | .whereField field => .ok (q.whereField field)
  | .whereExpr filter => .ok (q.whereExpr filter)
  | .andAlso field => .ok (q.andAlso field)
  | .orElse field => .ok (q.orElse field)
  | .callPending func extra => q.callPending func extra
  | .arithmeticPending op operand => q.arithmeticPending op operand
  | .compare op value => q.compare op value
  | .isNull => q.isNull
  | .between low high => q.between low high
  | .test pattern => q.test pattern
  | .prepare either => .ok (q.prepare either)

/-- Calls of the builder. -/
inductive Call where
  | withResolvers (resolvers : Resolvers)
  | fromCollection (entity : Entity)
  | select (fields : List Field)
  | selectDocument (document : Json)
  | selectClosure (f : Closure.Lambda) (named : List (String × Expr))
  | selectAll
  | withDistinct (flag : Bool)
  | filtering (call : FilterCall)
  | whereClosure (f : Closure.Lambda) (named : List (String × Expr))
  | join (target : JoinTarget Query)
  | joinWith (target : JoinTarget Query) (direction : JoinDirection) (aliasName : Option String)
  | onQuery (condition : Query)
  | onClosure (f : Closure.Lambda) (named : List (String × Expr))
  | onFields (localField foreignField : String)
  | onExpr (filter : Expr)
  | orderBy (field : Field) (descending : Bool)
  | orderByTerms (terms : List OrderTerm)
  | orderByClosure (f : Closure.Lambda) (descending : Bool)
  | thenBy (field : Field) (descending : Bool)
  | thenByClosure (f : Closure.Lambda) (descending : Bool)
  | groupBy (fields : List Field)
  | groupByClosure (f : Closure.Lambda)
  | take (n : Int64)
  | skip (n : Int64)
  | insert (row : Json)
  | insertValues (values : List Assignment)
  | into (collection : String)
  | update (collection : String)
  | set (values : Json)
  | setValues (values : List Assignment)
  | delete (collection : String)

/-- The outcome of a call. -/
def Call.perform (q : Query) : Call → QueryResult Query
  | .withResolvers resolvers => .ok { q with resolvers }
  | .fromCollection entity => .ok (q.fromCollection entity)
  | .select fields => .ok (q.select fields)
  | .selectDocument document => q.selectDocument document
  | .selectClosure f named => q.selectClosure f named
  | .selectAll => .ok q.selectAll
  | .withDistinct flag => .ok (q.withDistinct flag)
  | .filtering call => call.perform q
  | .whereClosure f named => q.whereClosure f named
  | .join target => .ok (q.join target)
  | .joinWith target direction aliasName => .ok (q.joinWith target direction aliasName)
  | .onQuery condition => q.onQuery condition
  | .onClosure f named => q.onClosure f named
  | .onFields localField foreignField => q.onFields localField foreignField
  | .onExpr filter => q.onExpr filter
  | .orderBy field descending => .ok (q.orderBy field descending)
  | .orderByTerms terms => .ok (q.orderByTerms terms)
  | .orderByClosure f descending => q.orderByClosure f descending
  | .thenBy field descending => q.thenBy field descending
  | .thenByClosure f descending => q.thenByClosure f descending
  | .groupBy fields => .ok (q.groupBy fields)
  | .groupByClosure f => q.groupByClosure f
  | .take n => .ok (q.take n)
  | .skip n => .ok (q.skip n)
  | .insert row => q.insert row
  | .insertValues values => .ok (q.insertValues values)
  | .into collection => q.into collection
  | .update collection => q.update collection
  | .set values => q.set values
  | .setValues values => .ok (q.setValues values)
  | .delete collection => q.delete collection

namespace Query

/-- The query after a call that may fail; a failing call leaves it as it was. -/
def settled (q : Query) : QueryResult Query → Query
  | .ok q' => q'
  | .error _ => q

/-- The query after some calls. -/
def run (q : Query) (calls : List Call) : Query :=
  calls.foldl (fun q call => q.settled (call.perform q)) q

/-! ### What every call keeps -/

/-- What holds of a query between any two calls. -/
structure Consistent (q : Query) : Prop where
  /-- No two fields have the same name. -/
  fieldNames : (q.fields.map Field.name).Nodup
  /-- A statement that writes reads nothing. -/
  writesOnly : q.payload ≠ none → q.fields = [] ∧ q.lookups = []
  /-- An operand that waits to continue a filter has its connective. -/
  connected : q.pending ≠ none → q.filter ≠ none → q.connective ≠ none

theorem consistent_empty : Consistent empty := by
  constructor
  · exact List.nodup_nil
  · intro h
    exact absurd rfl h
  · intro h
    exact absurd rfl h

namespace Consistent

variable {q : Query} (h : Consistent q)

include h

theorem settled {outcome : QueryResult Query} (hgives : Gives Consistent outcome) :
    Consistent (q.settled outcome) := by
  cases outcome with
  | ok q' => exact hgives q' rfl
  | error e => exact h

/-! Reading drops the payload, writing drops what was read. -/

theorem select (fields : List Field) : Consistent (q.select fields) :=
  ⟨mergeFields_nodup h.fieldNames fields, fun hp => absurd rfl hp, h.connected⟩

theorem selectAll : Consistent q.selectAll :=
  ⟨List.nodup_nil, fun hp => absurd rfl hp, h.connected⟩

theorem finishJoin (condition : JoinCondition) : Gives Consistent (q.finishJoin condition) := by
  rw [Query.finishJoin]
  cases q.staged with
  | none => exact .error _ _
  | some staged => exact .ok ⟨h.fieldNames, fun hp => absurd rfl hp, h.connected⟩

theorem writing (payload : Payload) : Consistent (q.writing payload) :=
  ⟨List.nodup_nil, fun _ => ⟨rfl, rfl⟩, h.connected⟩

/-! A filter starts without a connective and without a waiting operand, or with one of the two. -/

theorem whereField (field : Field) : Consistent (q.whereField field) :=
  ⟨h.fieldNames, h.writesOnly, fun _ hf => absurd rfl hf⟩

theorem whereExpr (filter : Expr) : Consistent (q.whereExpr filter) :=
  ⟨h.fieldNames, h.writesOnly, fun hp => absurd rfl hp⟩

theorem continueWith (op : LogicalOp) (field : Field) : Consistent (q.continueWith op field) :=
  ⟨h.fieldNames, h.writesOnly, fun _ _ => Option.some_ne_none op⟩

theorem prepare (either : Bool) : Consistent (q.prepare either) :=
  ⟨h.fieldNames, h.writesOnly, fun hp => absurd rfl hp⟩

theorem complete (condition : Expr → Expr) : Gives Consistent (q.complete condition) := by
  rw [Query.complete]
  cases q.pending with
  | none => exact .error _ _
  | some left => exact .ok ⟨h.fieldNames, h.writesOnly, fun hp => absurd rfl hp⟩

theorem wrapPending (wrap : Expr → Expr) : Gives Consistent (q.wrapPending wrap) := by
  have hconnected := h.connected
  rw [Query.wrapPending]
  cases hp : q.pending with
  | none => exact .error _ _
  | some left =>
    rw [hp] at hconnected
    exact .ok ⟨h.fieldNames, h.writesOnly, fun _ => hconnected (Option.some_ne_none left)⟩

/-! Clauses that none of this is about. -/

theorem fromCollection (entity : Entity) : Consistent (q.fromCollection entity) :=
  ⟨h.fieldNames, h.writesOnly, h.connected⟩

theorem orderByTerms (terms : List OrderTerm) : Consistent (q.orderByTerms terms) :=
  ⟨h.fieldNames, h.writesOnly, h.connected⟩

theorem thenByTerms (terms : List OrderTerm) : Gives Consistent (q.thenByTerms terms) := by
  rw [Query.thenByTerms]
  split
  · exact .error _ _
  · exact .ok ⟨h.fieldNames, h.writesOnly, h.connected⟩

theorem groupBy (fields : List Field) : Consistent (q.groupBy fields) :=
  ⟨h.fieldNames, h.writesOnly, h.connected⟩

end Consistent

/-- A call that builds a filter keeps the query consistent. -/
theorem filterCall_consistent {q : Query} (h : Consistent q) (call : FilterCall) :
    Gives Consistent (call.perform q) := by
  cases call with
  | whereField field => exact .ok (h.whereField field)
  | whereExpr filter => exact .ok (h.whereExpr filter)
  | andAlso field => exact .ok (h.continueWith .and field)
  | orElse field => exact .ok (h.continueWith .or field)
  | callPending func extra => exact h.wrapPending _
  | arithmeticPending op operand => exact h.wrapPending _
  | compare op value => exact h.complete _
  | isNull => exact h.complete _
  | between low high => exact h.complete _
  | test pattern => exact h.complete _
  | prepare either => exact .ok (h.prepare either)

/-- A call keeps the query consistent. -/
theorem call_consistent {q : Query} (h : Consistent q) (call : Call) :
    Gives Consistent (call.perform q) := by
  cases call with
  | withResolvers resolvers => exact .ok ⟨h.fieldNames, h.writesOnly, h.connected⟩
  | fromCollection entity => exact .ok (h.fromCollection entity)
  | select fields => exact .ok (h.select fields)
  | selectDocument document => exact Gives.mapped h.select _
  | selectClosure f named => exact Gives.mapped h.select _
  | selectAll => exact .ok h.selectAll
  | withDistinct flag => exact .ok ⟨h.fieldNames, h.writesOnly, h.connected⟩
  | filtering call => exact filterCall_consistent h call
  | whereClosure f named => exact Gives.mapped h.whereExpr _
  | join target => exact .ok ⟨h.fieldNames, h.writesOnly, h.connected⟩
  | joinWith target direction aliasName => exact .ok ⟨h.fieldNames, h.writesOnly, h.connected⟩
  | onQuery condition =>
    show Gives Consistent (q.onQuery condition)
    rw [onQuery]
    split
    · exact .error _ _
    · exact .error _ _
    · exact h.finishJoin _
  | onClosure f named =>
    show Gives Consistent (q.onClosure f named)
    rw [onClosure]
    split
    · exact .error _ _
    · exact (Gives.any _).bind fun filter _ => h.finishJoin (.filter filter)
  | onFields localField foreignField => exact h.finishJoin _
  | onExpr filter => exact h.finishJoin _
  | orderBy field descending => exact .ok (h.orderByTerms _)
  | orderByTerms terms => exact .ok (h.orderByTerms terms)
  | orderByClosure f descending => exact Gives.mapped h.orderByTerms _
  | thenBy field descending => exact h.thenByTerms _
  | thenByClosure f descending =>
    show Gives Consistent (q.thenByClosure f descending)
    rw [thenByClosure]
    split
    · exact .error _ _
    · exact (Gives.any _).bind fun terms _ => h.thenByTerms terms
  | groupBy fields => exact .ok (h.groupBy fields)
  | groupByClosure f => exact Gives.mapped h.groupBy _
  | take n => exact .ok ⟨h.fieldNames, h.writesOnly, h.connected⟩
  | skip n => exact .ok ⟨h.fieldNames, h.writesOnly, h.connected⟩
  | insert row => exact Gives.mapped (fun values => h.writing (.insert values)) _
  | insertValues values => exact .ok (h.writing _)
  | into collection => exact Gives.mapped h.fromCollection _
  | update collection => exact Gives.mapped (fun entity => (h.fromCollection entity).writing _) _
  | set values => exact Gives.mapped (fun values => h.writing (.update values)) _
  | setValues values => exact .ok (h.writing _)
  | delete collection => exact Gives.mapped (fun entity => (h.fromCollection entity).writing _) _

/-- Calls keep the query consistent, those that fail among them. -/
theorem Consistent.run {q : Query} (h : Consistent q) (calls : List Call) :
    Consistent (q.run calls) := by
  induction calls generalizing q with
  | nil => exact h
  | cons call rest ih => exact ih (h.settled (call_consistent h call))

/-- Whatever is called, in whatever order, the query is consistent afterwards. -/
theorem run_consistent (calls : List Call) : Consistent (empty.run calls) :=
  consistent_empty.run calls

end Query

end Polyquery
