import Polyquery.Query.Field

/-!
# Joins

* `JoinTarget` - a collection, or a query in place of one;
* `JoinCondition` - equality of two fields, or any filter;
* `Lookup` - a finished join; `StagedJoin` - one that still waits for its condition.

The types take the type of queries as a parameter, so that queries can hold joins of queries.
-/

namespace Polyquery

/-- The side that a join keeps whole. -/
inductive JoinDirection where
  | inner | left | right
deriving DecidableEq

/-- The name of a direction in documents. -/
def JoinDirection.name : JoinDirection → String
  | .inner => "inner"
  | .left => "left"
  | .right => "right"

/-- What is joined. -/
inductive JoinTarget (Q : Type) where
  | collection (entity : Entity)
  | query (q : Q)

/-- The condition of a join.  Unqualified names of `fields` belong to the base and to the joined
collection. -/
inductive JoinCondition where
  | fields (localField foreignField : String)
  | filter (expr : Expr)

/-- A finished join. -/
structure Lookup (Q : Type) where
  target : JoinTarget Q
  direction : JoinDirection
  aliasName : Option String
  condition : JoinCondition

/-- A join without its condition. -/
structure StagedJoin (Q : Type) where
  target : JoinTarget Q
  direction : JoinDirection
  aliasName : Option String

/-- The join with a condition. -/
def StagedJoin.finish {Q : Type} (s : StagedJoin Q) (condition : JoinCondition) : Lookup Q :=
  ⟨s.target, s.direction, s.aliasName, condition⟩

/-- Equality of conditions up to numerical equality of constants. -/
def JoinCondition.eqv : JoinCondition → JoinCondition → Bool
  | .fields a b, .fields c d => a == c && b == d
  | .filter a, .filter b => a.eqv b
  | _, _ => false

end Polyquery
