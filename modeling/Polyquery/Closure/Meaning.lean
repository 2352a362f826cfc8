import Polyquery.Closure.Methods
import Polyquery.Closure.Term
import Polyquery.Query.Field

/-!
# The meaning of closures

* `Scope` - what the names of a closure stand for;
* `Term.toExpr` - the expression of a term;
* `Lambda.filter` - the expression of a closure that tests rows;
* `Lambda.projection` - the fields of a closure that maps rows.
-/

namespace Polyquery.Closure

/-- What the names of a closure stand for. -/
structure Scope where
  params : List String
  /-- The collection that each parameter ranges over, where it is known. -/
  bindings : List (Option String)
  /-- The named values. -/
  named : List (String × Expr)
  resolvers : Resolvers

namespace Scope

/-- The collection a parameter ranges over. -/
def binding? (s : Scope) (i : Nat) : Option String := (s.bindings[i]?).join

/-- A named value. -/
def value? (s : Scope) (name : String) : Option Expr :=
  (s.named.find? fun entry => entry.1 == name).map (·.2)

/-- The qualifier of the members of a parameter: its collection, else, for all but the first, its
own name. -/
def qualifier (s : Scope) (i : Nat) (name : String) : List String :=
  match s.binding? i with
  | some reference => [reference]
  | none => if i = 0 then [] else [name]

/-- The field of an attribute chain below a parameter. -/
def memberField (s : Scope) (name : String) (attrs : List String) : QueryResult Expr :=
  match s.params.findIdx? (· == name) with
  | none => .error (.unknownParameter name)
  | some i =>
    let member := attrs.getLast?.getD ""
    let parents := attrs.dropLast
    if i = 0 ∧ parents.isEmpty then
      .ok (.field (s.resolvers.resolveMember member (s.binding? 0)))
    else
      .ok (.field
        (s.resolvers.resolveJoinMember (".".intercalate (s.qualifier i name ++ parents)) member))

end Scope

/-! ### Pieces -/

/-- One link of a comparison.  In a chain of several, a constant on the left moves to the right. -/
def linkExpr (chained : Bool) (op : ComparisonOp) (left right : Expr) : Expr :=
  match left, right with
  | .literal _, .literal _ => .compare op left right
  | .literal _, _ => if chained then .compare op.flipped right left else .compare op left right
  | _, _ => .compare op left right

/-- The negative of an expression; the sign of a constant is changed in place. -/
def negative : Expr → QueryResult Expr
  | .literal value => value.neg?.map .literal
  | other => .ok (.arithmetic .subtract (.int 0) other)

/-- The bound of a slice. -/
def sliceBound : Option Term → QueryResult (Option Int64)
  | none => .ok none
  | some (.constant (.int n)) =>
    if 0 ≤ n then .ok (some n)
    else
      .error (.unsupported ("slice bounds must be non-negative integer constants, found " ++
        (Term.constant (.int n)).inspect))
  | some other =>
    .error (.unsupported ("slice bounds must be non-negative integer constants, found " ++
      other.inspect))

/-- The length of a slice. -/
def sliceLength (start stop : Int64) : Int64 := if start ≤ stop then stop - start else 0

/-! ### Expressions -/

mutual

/-- The expression of a term. -/
def Term.toExpr (s : Scope) : Term → QueryResult Expr
  | .constant value => .ok (.literal value)
  | .free name =>
    match s.value? name with
    | some value => .ok value
    | none => .error (.unknownParameter name)
  | .param name =>
    .error (.unsupported ("bare parameter '" ++ name ++ "' has no IR mapping"))
  | .attribute value attr =>
    match (Term.attribute value attr).path? with
    | some (name, attrs) => s.memberField name attrs
    | none => .error (.unsupported "attribute access must start at a lambda parameter")
  | .compare left links => do
    let first ← left.toExpr s
    let tests ← linkExprs s (decide (1 < links.length)) first links
    match Expr.foldLogical? .and tests with
    | some e => .ok e
    | none => .error (.unsupported "comparison without comparators")
  | .logical op values => do
    match Expr.foldLogical? op (← toExprs s values) with
    | some e => .ok e
    | none => .error (.unsupported "empty boolean operation")
  | .arithmetic op left right => do return .arithmetic op (← left.toExpr s) (← right.toExpr s)
  | .not operand => do return .not (← operand.toExpr s)
  | .minus operand => do negative (← operand.toExpr s)
  | .call target args keywords =>
    if keywords.isEmpty then
      match target with
      | .free name => do
        s.resolvers.resolveMethod methods ⟨name, ← toExprs s args, false, none⟩
      | .attribute value attr => do
        let args ← toExprs s args
        s.resolvers.resolveMethod methods ⟨attr, (← value.toExpr s) :: args, true, none⟩
      | other => do
        let _ ← toExprs s args
        .error (.unsupported ("call target " ++ other.inspect))
    else .error (.unsupported "keyword arguments are only valid in projections")
  | .index _ _ => .error (.unsupported "index subscripts")
  | .slice _ _ _ (some _) => .error (.unsupported "stepped slices")
  | .slice value lower upper none => do
    let start := (← sliceBound lower).getD 0
    let value ← value.toExpr s
    let stop ← sliceBound upper
    let length := stop.map fun n => Expr.int (sliceLength start n)
    return .call .substr (value :: .int start :: length.toList)
  | .choice test yes no => do return .cond (← test.toExpr s) (← yes.toExpr s) (← no.toExpr s)
  | .list _ | .tuple _ | .dict _ =>
    .error (.unsupported "collection literals are only valid as a projection body")
  | .lambda _ _ => .error (.unsupported "nested lambdas")

/-- The expressions of terms. -/
def toExprs (s : Scope) : List Term → QueryResult (List Expr)
  | [] => .ok []
  | t :: ts => do
    let e ← t.toExpr s
    return e :: (← toExprs s ts)

/-- The links of a comparison behind its left operand. -/
def linkExprs (s : Scope) (chained : Bool) (left : Expr) :
    List (Comparator × Term) → QueryResult (List Expr)
  | [] => .ok []
  | (comparator, t) :: rest => do
    let right ← t.toExpr s
    return linkExpr chained comparator.op left right :: (← linkExprs s chained right rest)

end

/-! ### Fields -/

/-- The fields of expressions.  Plain fields keep their path, and others are numbered, `unnamed` of
them having been met before. -/
def nameFields (unnamed : Nat) : List Expr → List Field
  | [] => []
  | .field path :: rest => Field.named path :: nameFields unnamed rest
  | e :: rest =>
    Field.computed ("field" ++ Integer.natText (unnamed + 1)) e :: nameFields (unnamed + 1) rest

/-- A field of an entry of a dictionary. -/
def entryField (s : Scope) (entry : Term × Term) : QueryResult Field :=
  match entry.1 with
  | .constant (.string name) => (entry.2.toExpr s).map (Field.computed name)
  | other =>
    .error (.unsupported ("projection keys must be string constants, found " ++ other.inspect))

/-- A field of a named argument. -/
def keywordField (s : Scope) (keyword : String × Term) : QueryResult Field :=
  (keyword.2.toExpr s).map (Field.computed keyword.1)

/-- The fields of a term: entries of a list, a tuple or a dictionary, named arguments of `dict`, or
the term itself. -/
def Term.toFields (s : Scope) : Term → QueryResult (List Field)
  | .list items | .tuple items => (toExprs s items).map (nameFields 0)
  | .dict entries => entries.mapM (entryField s)
  | .call (.free "dict") [] keywords => keywords.mapM (keywordField s)
  | single => (single.toExpr s).map fun e => nameFields 0 [e]

namespace Lambda

/-- The scope of a closure. -/
def scope (f : Lambda) (bindings : List (Option String)) (named : List (String × Expr))
    (resolvers : Resolvers) : Scope :=
  ⟨f.params, bindings, named, resolvers⟩

/-- The expression of a closure that tests rows. -/
def filter (f : Lambda) (bindings : List (Option String)) (named : List (String × Expr))
    (resolvers : Resolvers) : QueryResult Expr :=
  f.body.toExpr (f.scope bindings named resolvers)

/-- The fields of a closure that maps rows. -/
def projection (f : Lambda) (bindings : List (Option String)) (named : List (String × Expr))
    (resolvers : Resolvers) : QueryResult (List Field) :=
  f.body.toFields (f.scope bindings named resolvers)

end Lambda

end Polyquery.Closure
