import Polyquery.Expr.Inspect
import Polyquery.Resolve

/-!
# Functions of SQL text

* `functions` - the calls that have a meaning without a resolver;
* `zeroBased` - a position counted from one as one counted from zero.
-/

namespace Polyquery.Sql

/-- Functions of exactly one argument. -/
def unaryFunction? (name : String) : Option Func :=
  match name with
  | "min" => some .min
  | "max" => some .max
  | "avg" => some .avg
  | "sum" => some .sum
  | "year" => some .year
  | "month" => some .month
  | "day" | "dayofmonth" => some .day
  | "hour" => some .hour
  | "minute" => some .minute
  | "second" => some .second
  | "lower" => some .toLower
  | "upper" => some .toUpper
  | "trim" => some .trim
  | "length" | "len" | "char_length" => some .length
  | "ceil" | "ceiling" => some .ceil
  | "floor" => some .floor
  | _ => none

/-- A position counted from one as one counted from zero. -/
def zeroBased (start : Expr) : QueryResult Expr :=
  match start with
  | .literal (.int n) =>
    match Integer.to64? (n.toInt - 1) with
    | some n => .ok (.int n)
    | none =>
      .error (.invalidExpression ("SUBSTRING start " ++ Integer.text64 n ++ " is out of range"))
  | other => .ok (.arithmetic .subtract other (.int 1))

/-- A text constant of a regular expression match. -/
def regexText (e : Expr) : QueryResult String :=
  match e with
  | .literal (.string s) => .ok s
  | other =>
    .error (.unsupportedArgument ("regexp_like() needs string constants, found " ++
      other.inspect))

/-- The call of `substring` with its start counted from zero. -/
def substringCall (e : MethodEvent) : QueryResult MethodEvent := do
  e.expectArgs 2 3
  match e.args with
  | text :: start :: rest => return e.claim (.call .substr (text :: (← zeroBased start) :: rest))
  | _ => return e

/-- The match of a text against a regular expression. -/
def regexCall (e : MethodEvent) : QueryResult MethodEvent := do
  e.expectArgs 2 3
  match e.args with
  | input :: regex :: options =>
    let regex ← regexText regex
    let options ← options.head?.mapM regexText
    return e.claim (.regexMatch input regex options)
  | _ => return e

/-- The calls that have a meaning without a resolver; other calls are left unclaimed. -/
def functions (e : MethodEvent) : QueryResult MethodEvent :=
  match unaryFunction? e.name with
  | some func => e.claimCall func 1 1
  | none =>
    match e.name with
    | "count" => e.claimCall .count 0 1
    | "round" => e.claimCall .round 1 2
    | "concat" => e.claimCall .concat 2 MethodEvent.unbounded
    | "substring" | "substr" => substringCall e
    | "regexp_like" => regexCall e
    | _ => .ok e

end Polyquery.Sql
