import Polyquery.Error
import Polyquery.Guid
import Polyquery.Number.Decimal

/-!
# Expressions

The dialect-neutral language of filters and projections.

* `Literal`, `Expr` - constants and expression trees;
* `ComparisonOp`, `LogicalOp`, `ArithmeticOp`, `Func` - operators with their document tags;
* `Literal.neg?` - unary minus that reports overflow;
* `Expr.foldLogical?` - a chain of operands nested to the right;
* `Expr.eqv` - equality of trees with numerical equality of floating-point constants.
-/

namespace Polyquery

/-- Constants. -/
inductive Literal where
  | null
  | bool (b : Bool)
  | int (n : Int64)
  | long (n : Int64)
  | single (f : Single)
  | double (f : Double)
  | decimal (d : Decimal)
  | string (s : String)
  | guid (g : Guid)
  | dateTime (s : String)
  | time (s : String)
  | binary (s : String)
deriving DecidableEq, Inhabited

/-- Comparison operators. -/
inductive ComparisonOp where
  | eq | ne | gt | gte | lt | lte
deriving DecidableEq

/-- Logical connectives. -/
inductive LogicalOp where
  | and | or
deriving DecidableEq

/-- Arithmetic operators. -/
inductive ArithmeticOp where
  | add | subtract | multiply | divide | modulo
deriving DecidableEq

/-- Functions with positional operands: date parts, text, numbers and aggregates.  `substr` starts
at zero and `indexOf` is -1 for text that does not occur. -/
inductive Func where
  | year | month | day | hour | minute | second
  | toLower | toUpper | trim | length | concat | substr | indexOf
  | round | ceil | floor
  | min | max | count | sum | avg
deriving DecidableEq

/-- Expression trees.  Qualified field paths have dots. -/
inductive Expr where
  | field (path : String)
  | literal (value : Literal)
  | compare (op : ComparisonOp) (left right : Expr)
  | logical (op : LogicalOp) (args : List Expr)
  | not (arg : Expr)
  | arithmetic (op : ArithmeticOp) (left right : Expr)
  | call (func : Func) (args : List Expr)
  | regexMatch (input : Expr) (regex : String) (options : Option String)
  | cond (condition yes no : Expr)
  | switch (branches : List (Expr × Expr)) (default : Option Expr)
  | custom (name : String) (args : List Expr)
deriving Inhabited

/-! ### Operator tags -/

namespace ComparisonOp

/-- Every comparison operator. -/
def all : List ComparisonOp := [.eq, .ne, .gt, .gte, .lt, .lte]

/-- The document tag. -/
def tag : ComparisonOp → String
  | .eq => "$eq"
  | .ne => "$ne"
  | .gt => "$gt"
  | .gte => "$gte"
  | .lt => "$lt"
  | .lte => "$lte"

/-- The operator of a document tag. -/
def ofTag? (tag : String) : Option ComparisonOp := all.find? fun op => op.tag == tag

/-- The operator that holds with the operands exchanged. -/
def flipped : ComparisonOp → ComparisonOp
  | .eq => .eq
  | .ne => .ne
  | .gt => .lt
  | .gte => .lte
  | .lt => .gt
  | .lte => .gte

end ComparisonOp

/-- The document tag of a connective. -/
def LogicalOp.tag : LogicalOp → String
  | .and => "$and"
  | .or => "$or"

namespace ArithmeticOp

/-- Every arithmetic operator. -/
def all : List ArithmeticOp := [.add, .subtract, .multiply, .divide, .modulo]

/-- The document tag. -/
def tag : ArithmeticOp → String
  | .add => "$add"
  | .subtract => "$subtract"
  | .multiply => "$multiply"
  | .divide => "$divide"
  | .modulo => "$mod"

/-- The operator of a document tag. -/
def ofTag? (tag : String) : Option ArithmeticOp := all.find? fun op => op.tag == tag

end ArithmeticOp

namespace Func

/-- Every function. -/
def all : List Func :=
  [.year, .month, .day, .hour, .minute, .second,
    .toLower, .toUpper, .trim, .length, .concat, .substr, .indexOf,
    .round, .ceil, .floor, .min, .max, .count, .sum, .avg]

/-- The document tag. -/
def tag : Func → String
  | .year => "$year"
  | .month => "$month"
  | .day => "$dayOfMonth"
  | .hour => "$hour"
  | .minute => "$minute"
  | .second => "$second"
  | .toLower => "$toLower"
  | .toUpper => "$toUpper"
  | .trim => "$trim"
  | .length => "$length"
  | .concat => "$concat"
  | .substr => "$substr"
  | .indexOf => "$indexOfBytes"
  | .round => "$round"
  | .ceil => "$ceil"
  | .floor => "$floor"
  | .min => "$min"
  | .max => "$max"
  | .count => "$count"
  | .sum => "$sum"
  | .avg => "$avg"

/-- The function of a document tag. -/
def ofTag? (tag : String) : Option Func := all.find? fun f => f.tag == tag

/-- Aggregates collapse rows; every other function works row by row. -/
def isAggregate : Func → Bool
  | .min | .max | .count | .sum | .avg => true
  | _ => false

end Func

/-! ### Literals -/

namespace Literal

/-- Numerical equality of floating-point and decimal constants, equality of all others. -/
def eqv : Literal → Literal → Bool
  | .single a, .single b => a.eq b
  | .double a, .double b => a.eq b
  | .decimal a, .decimal b => a.eq b
  | a, b => a == b

end Literal

/-! ### Tree helpers -/

namespace Expr

/-- The null constant. -/
def null : Expr := .literal .null

/-- An integer constant. -/
def int (n : Int64) : Expr := .literal (.int n)

/-- A text constant. -/
def string (s : String) : Expr := .literal (.string s)

/-- A truth value. -/
def bool (b : Bool) : Expr := .literal (.bool b)

/-- The document tag of the node; fields and literals have none. -/
def tag? : Expr → Option String
  | .field _ | .literal _ => none
  | .compare op _ _ => some op.tag
  | .logical op _ => some op.tag
  | .not _ => some "$not"
  | .arithmetic op _ _ => some op.tag
  | .call func _ => some func.tag
  | .regexMatch .. => some "$regexMatch"
  | .cond .. => some "$cond"
  | .switch .. => some "$switch"
  | .custom name _ => some name

/-- Whether the tree is the null constant. -/
def isNull : Expr → Bool
  | .literal .null => true
  | _ => false

/-- The path, if the tree is a field. -/
def field? : Expr → Option String
  | .field path => some path
  | _ => none

/-- The operands as a binary chain nested to the right; no operands give nothing. -/
def foldLogical? (op : LogicalOp) : List Expr → Option Expr
  | [] => none
  | [e] => some e
  | e :: rest => (foldLogical? op rest).map fun chain => .logical op [e, chain]

/-- `low ≤ input ≤ high` as a conjunction. -/
def between (input low high : Expr) : Expr :=
  .logical .and [.compare .gte input low, .compare .lte input high]

/-- The conjunction of two trees. -/
def and (left right : Expr) : Expr := .logical .and [left, right]

mutual

/-- Equality of trees up to numerical equality of their constants. -/
def eqv : Expr → Expr → Bool
  | .field a, .field b => a == b
  | .literal a, .literal b => a.eqv b
  | .compare o a b, .compare p c d => o == p && eqv a c && eqv b d
  | .logical o as, .logical p bs => o == p && eqvList as bs
  | .not a, .not b => eqv a b
  | .arithmetic o a b, .arithmetic p c d => o == p && eqv a c && eqv b d
  | .call f as, .call g bs => f == g && eqvList as bs
  | .regexMatch a r o, .regexMatch b s p => eqv a b && r == s && o == p
  | .cond a b c, .cond d e f => eqv a d && eqv b e && eqv c f
  | .switch bs d, .switch cs e => eqvBranches bs cs && eqvOption d e
  | .custom m as, .custom n bs => m == n && eqvList as bs
  | _, _ => false

/-- Equality of lists of trees. -/
def eqvList : List Expr → List Expr → Bool
  | [], [] => true
  | a :: as, b :: bs => eqv a b && eqvList as bs
  | _, _ => false

/-- Equality of branches. -/
def eqvBranches : List (Expr × Expr) → List (Expr × Expr) → Bool
  | [], [] => true
  | (a, b) :: as, (c, d) :: bs => eqv a c && eqv b d && eqvBranches as bs
  | _, _ => false

/-- Equality of optional trees. -/
def eqvOption : Option Expr → Option Expr → Bool
  | none, none => true
  | some a, some b => eqv a b
  | _, _ => false

end

instance : BEq Expr := ⟨eqv⟩

end Expr

end Polyquery
