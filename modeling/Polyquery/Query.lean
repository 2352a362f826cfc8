import Polyquery.Query.Lookup
import Polyquery.Resolve

/-!
# Queries

The dialect-neutral query that every reader builds and every writer reads, together with the state
of its fluent builder.

* `Query` - clauses, joins, write payload, and the pending operand, connective and join;
* `Query.kind` - the statement kind, derived from the payload;
* `Query.effectiveFilter` - the filter with everything prepared before;
* `Query.eqv` - equality up to numerical equality of constants.
-/

namespace Polyquery

/-- A term of an ordering. -/
structure OrderTerm where
  expr : Expr
  descending : Bool
deriving Inhabited

/-- Equality of ordering terms up to numerical equality of constants. -/
def OrderTerm.eqv (a b : OrderTerm) : Bool := a.expr.eqv b.expr && a.descending == b.descending

/-- A column and the value written to it. -/
structure Assignment where
  column : String
  value : Expr

/-- Equality of assignments up to numerical equality of constants. -/
def Assignment.eqv (a b : Assignment) : Bool := a.column == b.column && a.value.eqv b.value

/-- What a write statement writes. -/
inductive Payload where
  | insert (values : List Assignment)
  | update (values : List Assignment)
  | delete

/-- Statement kinds. -/
inductive StatementKind where
  | select | insert | update | delete
deriving DecidableEq

/-- The name of a statement kind in SQL. -/
def StatementKind.sqlName : StatementKind → String
  | .select => "SELECT"
  | .insert => "INSERT"
  | .update => "UPDATE"
  | .delete => "DELETE"

/-- The name of a statement kind in messages. -/
def StatementKind.inspect : StatementKind → String
  | .select => "Select"
  | .insert => "Insert"
  | .update => "Update"
  | .delete => "Delete"

/-- A query and the state of its builder. -/
structure Query where
  collection : Option Entity
  fields : List Field
  filter : Option Expr
  /-- Filters set aside by `prepare`. -/
  prepared : Option Expr
  ordering : List OrderTerm
  grouping : List Expr
  lookups : List (Lookup Query)
  /-- Rows at most; no bound unless positive. -/
  limit : Int64
  /-- Rows left out in front; none unless positive. -/
  offset : Int64
  distinct : Bool
  payload : Option Payload
  /-- The left operand that waits for a comparison. -/
  pending : Option Expr
  /-- The connective before the pending operand. -/
  connective : Option LogicalOp
  staged : Option (StagedJoin Query)
  resolvers : Resolvers

/-- The name by which other clauses refer to a join target. -/
def JoinTarget.reference? : JoinTarget Query → Option String
  | .collection entity => some entity.reference
  | .query q => q.collection.map Entity.reference

/-- The name by which other clauses refer to a join: its alias, else its target. -/
def Lookup.reference? (l : Lookup Query) : Option String := l.aliasName <|> l.target.reference?

/-- The name by which a condition refers to a staged join. -/
def StagedJoin.reference? (s : StagedJoin Query) : Option String :=
  s.aliasName <|> s.target.reference?

namespace Query

/-- The query without any clause. -/
def empty : Query :=
  ⟨none, [], none, none, [], [], [], 0, 0, false, none, none, none, none, Resolvers.empty⟩

instance : Inhabited Query := ⟨empty⟩

/-- The statement kind. -/
def kind (q : Query) : StatementKind :=
  match q.payload with
  | some (.insert _) => .insert
  | some (.update _) => .update
  | some .delete => .delete
  | none => .select

/-- The prepared filter and the current one, joined if both are there. -/
def effectiveFilter (q : Query) : Option Expr :=
  match q.prepared, q.filter with
  | some prepared, some filter => some (prepared.and filter)
  | some only, none | none, some only => some only
  | none, none => none

/-! ### Equality -/

/-- Equality of lists by an equality of their items. -/
def eqvBy {α : Type} (eq : α → α → Bool) : List α → List α → Bool
  | [], [] => true
  | a :: as, b :: bs => eq a b && eqvBy eq as bs
  | _, _ => false

/-- Equality of payloads. -/
def eqvPayload : Option Payload → Option Payload → Bool
  | none, none => true
  | some (.insert a), some (.insert b) => eqvBy Assignment.eqv a b
  | some (.update a), some (.update b) => eqvBy Assignment.eqv a b
  | some .delete, some .delete => true
  | _, _ => false

/-- Equality of everything but joins and resolvers. -/
def eqvClauses (a b : Query) : Bool :=
  a.collection == b.collection && eqvBy Field.eqv a.fields b.fields &&
    Expr.eqvOption a.filter b.filter && Expr.eqvOption a.prepared b.prepared &&
    eqvBy OrderTerm.eqv a.ordering b.ordering && eqvBy Expr.eqv a.grouping b.grouping &&
    a.limit == b.limit && a.offset == b.offset && a.distinct == b.distinct &&
    eqvPayload a.payload b.payload && Expr.eqvOption a.pending b.pending &&
    a.connective == b.connective

mutual

/-- Equality of queries up to numerical equality of constants; resolvers are not compared. -/
def eqv (a b : Query) : Bool :=
  match a with
  | { collection, fields, filter, prepared, ordering, grouping, lookups, limit, offset, distinct,
      payload, pending, connective, staged, resolvers } =>
    eqvClauses ⟨collection, fields, filter, prepared, ordering, grouping, [], limit, offset,
      distinct, payload, pending, connective, none, resolvers⟩ b &&
      eqvLookups lookups b.lookups && eqvStaged staged b.staged

/-- Equality of joins. -/
def eqvLookups : List (Lookup Query) → List (Lookup Query) → Bool
  | [], [] => true
  | ⟨target, direction, aliasName, condition⟩ :: as, b :: bs =>
    eqvTarget target b.target && direction == b.direction && aliasName == b.aliasName &&
      condition.eqv b.condition && eqvLookups as bs
  | _, _ => false

/-- Equality of staged joins. -/
def eqvStaged : Option (StagedJoin Query) → Option (StagedJoin Query) → Bool
  | none, none => true
  | some ⟨target, direction, aliasName⟩, some b =>
    eqvTarget target b.target && direction == b.direction && aliasName == b.aliasName
  | _, _ => false

/-- Equality of join targets. -/
def eqvTarget : JoinTarget Query → JoinTarget Query → Bool
  | .collection a, .collection b => a == b
  | .query a, .query b => eqv a b
  | _, _ => false

end

end Query

end Polyquery
