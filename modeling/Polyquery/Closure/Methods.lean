import Polyquery.Expr.TextPattern
import Polyquery.Resolve

/-!
# Methods of closures

The functions and methods that closures may call without a resolver.

* `functionOf?` - the functions; `methodOf?` - the methods of one value;
* `methods` - the table that claims calls.
-/

namespace Polyquery.Closure

/-- The function of a name. -/
def functionOf? (name : String) : Option Func :=
  match name with
  | "length" | "len" => some .length
  | "count" => some .count
  | "min" => some .min
  | "max" => some .max
  | "mean" => some .avg
  | "sum" => some .sum
  | "round" => some .round
  | "ceil" => some .ceil
  | "floor" => some .floor
  | "year" => some .year
  | "month" => some .month
  | "day" => some .day
  | "hour" => some .hour
  | "minute" => some .minute
  | "second" => some .second
  | _ => none

/-- The method of a name. -/
def methodOf? (name : String) : Option Func :=
  match name with
  | "upper" => some .toUpper
  | "lower" => some .toLower
  | "strip" => some .trim
  | "index" => some .indexOf
  | _ => none

/-- The text tests with their shapes. -/
def textMethod? (name : String) : Option (String → TextPattern) :=
  match name with
  | "startswith" => some .startsWith
  | "endswith" => some .endsWith
  | "contains" => some .contains
  | _ => none

/-- Claim a test of a text against a constant. -/
def claimTextTest (e : MethodEvent) (shape : String → TextPattern) : QueryResult MethodEvent := do
  e.expectArgs 2 2
  match e.args with
  | [input, .literal (.string text)] => .ok (e.claim (input.textMatch (shape text)))
  | _ => .error (.unsupported (e.name ++ "() needs a string constant"))

/-- Claim a call of a function. -/
def claimFunction (e : MethodEvent) : QueryResult MethodEvent :=
  match functionOf? e.name with
  | some .round => e.claimCall .round 1 2
  | some func => e.claimCall func 1 1
  | none => .ok e

/-- Claim a call of a method. -/
def claimMethod (e : MethodEvent) : QueryResult MethodEvent :=
  match textMethod? e.name, methodOf? e.name with
  | some shape, _ => claimTextTest e shape
  | none, some .indexOf => e.claimCall .indexOf 2 2
  | none, some func => e.claimCall func 1 1
  | none, none => .ok e

/-- Claim a call known to closures. -/
def methods (e : MethodEvent) : QueryResult MethodEvent :=
  if e.onInstance then claimMethod e else claimFunction e

end Polyquery.Closure
