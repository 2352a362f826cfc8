import Polyquery.Closure.Meaning
import Polyquery.Query.Builder

/-!
# Queries with expansions

A query, the navigations it expands, and the options that only query options have.

* `Levels` - how deep an expansion repeats;
* `Node` - a query with its expansions; that of an expansion is named by its collection;
* `Node.expandWith` - add an expansion, merged into the one of its name;
* `Node.expandAll` - add expansions in turn up to the first that conflicts;
* `Node.expandPath`, `Node.expandClosure` - add the expansions of dotted paths;
* `Node.eqv` - equality up to numerical equality of constants.
-/

namespace Polyquery.OData

/-- How deep an expansion repeats. -/
inductive Levels where
  | count (n : UInt32)
  | max
deriving DecidableEq

/-- The text of a depth. -/
def Levels.text : Levels → String
  | .count n => Integer.natText n.toNat
  | .max => "max"

/-- A query with its expansions. -/
structure Node where
  query : Query
  expand : List Node
  levels : Option Levels
  /-- Whether a count is asked for. -/
  count : Bool
deriving Inhabited

namespace Node

/-- A query without expansions. -/
def ofQuery (q : Query) : Node := ⟨q, [], none, false⟩

/-- The expansion of one navigation. -/
def navigation (name : String) : Node := ofQuery (Query.empty.fromCollection (Entity.named name))

/-- The name of the collection or navigation. -/
def name? (n : Node) : Option String := n.query.collection.map Entity.collection

/-! ### Conflicts -/

/-- The failure of merging two different values of an option. -/
def conflict (option : String) (n : Node) : QueryError :=
  .unsupported ("conflicting " ++ option ++ " for expanded '" ++ n.name?.getD "" ++ "'")

/-- Whether two lists are both there and differ. -/
def differ {α : Type} (eq : α → α → Bool) (a b : List α) : Bool :=
  !a.isEmpty && !b.isEmpty && !Query.eqvBy eq a b

/-- Whether two bounds are both positive and differ. -/
def boundsDiffer (a b : Int64) : Bool := decide (0 < a) && decide (0 < b) && a != b

/-- Whether two filters are both there and differ. -/
def filtersDiffer : Option Expr → Option Expr → Bool
  | some a, some b => !a.eqv b
  | _, _ => false

/-- Whether two depths are both there and differ. -/
def levelsDiffer : Option Levels → Option Levels → Bool
  | some a, some b => a ≠ b
  | _, _ => false

/-- The first option on which two nodes conflict. -/
def conflict? (ours theirs : Node) : Option String :=
  if filtersDiffer ours.query.filter theirs.query.filter then some "$filter"
  else if differ OrderTerm.eqv ours.query.ordering theirs.query.ordering then some "$orderby"
  else if differ Expr.eqv ours.query.grouping theirs.query.grouping then some "$groupby"
  else if boundsDiffer ours.query.limit theirs.query.limit then some "$top"
  else if boundsDiffer ours.query.offset theirs.query.offset then some "$skip"
  else if levelsDiffer ours.levels theirs.levels then some "$levels"
  else none

/-! ### Merging -/

/-- A query with the clauses of another added. -/
def mergeQuery (ours theirs : Query) : Query :=
  let q := ours.select theirs.fields
  let q := (theirs.filter.map q.whereExpr).getD q
  let q := if theirs.ordering.isEmpty then q else q.orderByTerms theirs.ordering
  let q := if theirs.grouping.isEmpty then q else q.groupByExprs theirs.grouping
  let q := if 0 < theirs.limit then q.take theirs.limit else q
  if 0 < theirs.offset then q.skip theirs.offset else q

/-- A node with the options of another added, expansions apart. -/
def mergeOptions (ours theirs : Node) : Node :=
  { ours with
    query := mergeQuery ours.query theirs.query
    levels := ours.levels <|> theirs.levels
    count := ours.count || theirs.count }

/-- Whether a node has a name, and it is that of another. -/
def sameName (a b : Node) : Bool := a.name?.isSome && a.name? == b.name?

/-- Change the first item that is like the new one, or put the new one at the end. -/
def place {α : Type} (like : α → Bool) (change : α → QueryResult α) (new : α) :
    List α → QueryResult (List α)
  | [] => .ok [new]
  | x :: rest =>
    if like x then (change x).map fun y => y :: rest
    else (place like change new rest).map fun ys => x :: ys

mutual

/-- Merge a node into one of the same name. -/
def merge (ours : Node) : Node → QueryResult Node
  | ⟨query, expand, levels, count⟩ =>
    match conflict? ours ⟨query, expand, levels, count⟩ with
    | some option => .error (conflict option ours)
    | none => do
      let merged ← mergeAll ours expand
      .ok (mergeOptions merged ⟨query, expand, levels, count⟩)

/-- Add expansions in turn; all of them, or none if one conflicts. -/
def mergeAll (ours : Node) : List Node → QueryResult Node
  | [] => .ok ours
  | child :: rest => do
    let siblings ← place (sameName · child) (fun sibling => merge sibling child) child ours.expand
    mergeAll { ours with expand := siblings } rest

end

/-- Add an expansion, merged into the first one of its name.  Projections and expansions are joined,
and any other option that both have must be the same. -/
def expandWith (n child : Node) : QueryResult Node := mergeAll n [child]

/-- Add expansions in turn.  The node after a conflict keeps the ones added before. -/
def expandAll (n : Node) : List Node → Node × QueryResult Unit
  | [] => (n, .ok ())
  | child :: rest =>
    match n.expandWith child with
    | .ok n => expandAll n rest
    | .error e => (n, .error e)

/-- The expansion of a path that ends in a node: each name but the last expands the next. -/
def nest (names : List String) (leaf : Node) : Node :=
  names.foldr (fun name inner => { navigation name with expand := [inner] }) leaf

/-- Add the expansions of a dotted path. -/
def expandPath (n : Node) (path : String) : QueryResult Node :=
  let names := Text.segments path
  if names.any String.isEmpty then .error (.invalidField path)
  else n.expandWith (nest names.dropLast (navigation (names.getLast?.getD "")))

/-- Add the expansions of dotted paths in turn.  The node after a failure keeps the ones added
before. -/
def expandPaths (n : Node) : List String → Node × QueryResult Unit
  | [] => (n, .ok ())
  | path :: rest =>
    match n.expandPath path with
    | .ok n => expandPaths n rest
    | .error e => (n, .error e)

/-- The path of a field that passes through. -/
def memberPath (f : Field) : QueryResult String :=
  if f.isPassThrough then .ok f.name
  else .error (.invalidField ("expand needs member paths, found " ++ f.value.inspect))

/-- Add the expansions of the member paths that a closure names. -/
def expandClosure (n : Node) (f : Closure.Lambda) : Node × QueryResult Unit :=
  match f.projection [] [] n.query.resolvers >>= fun fields => fields.mapM memberPath with
  | .ok paths => n.expandPaths paths
  | .error e => (n, .error e)

/-! ### Equality -/

mutual

/-- Equality up to numerical equality of constants. -/
def eqv : Node → Node → Bool
  | ⟨query, expand, levels, count⟩, b =>
    query.eqv b.query && eqvList expand b.expand && levels == b.levels && count == b.count

/-- Equality of lists of nodes. -/
def eqvList : List Node → List Node → Bool
  | [], [] => true
  | a :: as, b :: bs => eqv a b && eqvList as bs
  | _, _ => false

end

end Node

end Polyquery.OData
