import Polyquery.Closure.Meaning
import Polyquery.Query.Builder

/-!
# Building queries with closures

A closure of several parameters ranges over the base collection and then the joined ones in order;
the parameter of any other closure has no qualifier.

* `Query.selectClosure`, `Query.whereClosure` - projections and filters;
* `Query.onClosure` - conditions of joins, over the base and the joined collection;
* `Query.orderByClosure`, `Query.thenByClosure`, `Query.groupByClosure` - orderings and groupings.
-/

namespace Polyquery.Query

/-- The collections that the parameters of a closure range over. -/
def closureBindings (q : Query) (f : Closure.Lambda) : List (Option String) :=
  if 1 < f.params.length then
    q.collection.map Entity.reference :: q.lookups.map Lookup.reference?
  else []

/-- The fields of a closure. -/
def closureFields (q : Query) (f : Closure.Lambda) (named : List (String × Expr)) :
    QueryResult (List Field) :=
  f.projection (q.closureBindings f) named q.resolvers

/-- Project the fields of a closure. -/
def selectClosure (q : Query) (f : Closure.Lambda) (named : List (String × Expr)) :
    QueryResult Query :=
  (q.closureFields f named).map q.select

/-- Replace the filter by a closure. -/
def whereClosure (q : Query) (f : Closure.Lambda) (named : List (String × Expr)) :
    QueryResult Query :=
  (f.filter (q.closureBindings f) named q.resolvers).map q.whereExpr

/-- Finish the staged join by a closure over the base and the joined collection. -/
def onClosure (q : Query) (f : Closure.Lambda) (named : List (String × Expr)) :
    QueryResult Query :=
  match q.staged with
  | none => .error .joinNotStaged
  | some staged => do
    let bindings := [q.collection.map Entity.reference, staged.reference?]
    q.onExpr (← f.filter bindings named q.resolvers)

/-- The ordering terms of a closure. -/
def closureTerms (q : Query) (f : Closure.Lambda) (descending : Bool) :
    QueryResult (List OrderTerm) :=
  (q.closureFields f []).map fun fields => fields.map fun field => ⟨field.value, descending⟩

/-- Order by the fields of a closure only. -/
def orderByClosure (q : Query) (f : Closure.Lambda) (descending : Bool) : QueryResult Query :=
  (q.closureTerms f descending).map q.orderByTerms

/-- Order by the further fields of a closure. -/
def thenByClosure (q : Query) (f : Closure.Lambda) (descending : Bool) : QueryResult Query :=
  if q.ordering.isEmpty then .error .orderingNotStarted
  else do q.thenByTerms (← q.closureTerms f descending)

/-- Group by the fields of a closure only. -/
def groupByClosure (q : Query) (f : Closure.Lambda) : QueryResult Query :=
  (q.closureFields f []).map q.groupBy

end Polyquery.Query
