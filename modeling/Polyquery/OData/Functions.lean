import Polyquery.Expr.Inspect
import Polyquery.Expr.TextPattern
import Polyquery.Resolve

/-!
# Functions of query options

The functions that OData texts may call without a resolver.

* `OData.functionName` - the name a function is written with;
* `OData.builtin` - the table that claims calls by lower-case name.
-/

namespace Polyquery.OData

/-- The name of a function in query options. -/
def functionName : Func → String
  | .year => "year"
  | .month => "month"
  | .day => "day"
  | .hour => "hour"
  | .minute => "minute"
  | .second => "second"
  | .toLower => "tolower"
  | .toUpper => "toupper"
  | .trim => "trim"
  | .length => "length"
  | .concat => "concat"
  | .substr => "substring"
  | .indexOf => "indexof"
  | .round => "round"
  | .ceil => "ceiling"
  | .floor => "floor"
  | .min => "min"
  | .max => "max"
  | .count => "count"
  | .sum => "sum"
  | .avg => "avg"

/-- Least and greatest argument count of a function. -/
def functionArity : Func → Nat × Nat
  | .count => (0, 1)
  | .round => (1, 2)
  | .indexOf => (2, 2)
  | .concat => (2, MethodEvent.unbounded)
  | .substr => (2, 3)
  | _ => (1, 1)

/-- The function of a name. -/
def functionOf? (name : String) : Option Func := Func.all.find? fun f => functionName f == name

/-- The arithmetic operator that a function name stands for. -/
def arithmeticFunction? (name : String) : Option ArithmeticOp :=
  if name = "add" then some .add
  else if name = "sub" then some .subtract
  else if name = "multiply" ∨ name = "mul" then some .multiply
  else if name = "div" then some .divide
  else if name = "mod" then some .modulo
  else none

/-- The text tests with their shapes. -/
def textFunction? (name : String) : Option (String → TextPattern) :=
  if name = "startswith" then some .startsWith
  else if name = "endswith" then some .endsWith
  else if name = "contains" then some .contains
  else none

/-- The text of a constant argument. -/
def textArgument (name : String) : Expr → QueryResult String
  | .literal (.string s) => .ok s
  | other =>
    .error (.unsupportedArgument
      (name ++ "() needs a string constant, found " ++ other.inspect))

/-- The marker of a pattern that ignores letter case. -/
def ignoreCaseMark : List Char := ['(', '?', 'i', ')']

/-- A match of a regular expression, a leading marker read as an option. -/
def patternMatch (input : Expr) (pattern : String) : Expr :=
  let cs := pattern.toList
  if ignoreCaseMark.isPrefixOf cs then
    .regexMatch input (String.ofList (cs.drop ignoreCaseMark.length)) (some "i")
  else .regexMatch input pattern none

/-- The text of the second argument of a call with exactly two. -/
def twoWithText (e : MethodEvent) (make : Expr → String → Expr) : QueryResult MethodEvent := do
  e.expectArgs 2 2
  match e.args with
  | input :: text :: _ =>
    let text ← textArgument e.name text
    .ok (e.claim (make input text))
  | _ => .ok e

/-- Claim a call of a function known to query options. -/
def builtin (e : MethodEvent) : QueryResult MethodEvent :=
  match functionOf? e.name with
  | some func => e.claimCall func (functionArity func).1 (functionArity func).2
  | none =>
    match arithmeticFunction? e.name with
    | some op => e.claimArithmetic op
    | none =>
      match textFunction? e.name with
      | some shape => twoWithText e fun input text => input.textMatch (shape text)
      | none =>
        if e.name = "matchespattern" then twoWithText e patternMatch else .ok e

end Polyquery.OData
