import Polyquery.Expr
import Polyquery.Number.Layout
import Polyquery.Text.Quoted

/-!
# Trees inside messages

The text by which a message names a literal or an expression: constructor names with their fields,
on one line.

* `Literal.inspect`, `Expr.inspect` - the texts;
* `Inspect.option`, `Inspect.list` - optional and listed parts.
-/

namespace Polyquery

/-- An optional part from the text of its content. -/
def Inspect.option : Option String → String
  | none => "None"
  | some s => "Some(" ++ s ++ ")"

/-- Listed parts between brackets. -/
def Inspect.list (items : List String) : String := "[" ++ ", ".intercalate items ++ "]"

/-- The name of a comparison operator in messages. -/
def ComparisonOp.inspect : ComparisonOp → String
  | .eq => "Eq"
  | .ne => "Ne"
  | .gt => "Gt"
  | .gte => "Gte"
  | .lt => "Lt"
  | .lte => "Lte"

/-- The name of a connective in messages. -/
def LogicalOp.inspect : LogicalOp → String
  | .and => "And"
  | .or => "Or"

/-- The name of an arithmetic operator in messages. -/
def ArithmeticOp.inspect : ArithmeticOp → String
  | .add => "Add"
  | .subtract => "Subtract"
  | .multiply => "Multiply"
  | .divide => "Divide"
  | .modulo => "Modulo"

/-- The name of a function in messages. -/
def Func.inspect : Func → String
  | .year => "Year"
  | .month => "Month"
  | .day => "Day"
  | .hour => "Hour"
  | .minute => "Minute"
  | .second => "Second"
  | .toLower => "ToLower"
  | .toUpper => "ToUpper"
  | .trim => "Trim"
  | .length => "Length"
  | .concat => "Concat"
  | .substr => "Substr"
  | .indexOf => "IndexOf"
  | .round => "Round"
  | .ceil => "Ceil"
  | .floor => "Floor"
  | .min => "Min"
  | .max => "Max"
  | .count => "Count"
  | .sum => "Sum"
  | .avg => "Avg"

/-- The text of a literal in messages. -/
def Literal.inspect : Literal → String
  | .null => "Null"
  | .bool true => "Bool(true)"
  | .bool false => "Bool(false)"
  | .int n => "Int(" ++ Integer.text64 n ++ ")"
  | .long n => "Long(" ++ Integer.text64 n ++ ")"
  | .single f => "Single(" ++ NumberLayout.inspected.render f ++ ")"
  | .double f => "Double(" ++ NumberLayout.inspected.render f ++ ")"
  | .decimal d => "Decimal(" ++ d.text ++ ")"
  | .string s => "String(" ++ Text.quoted s ++ ")"
  | .guid g => "Guid(" ++ g.text ++ ")"
  | .dateTime s => "DateTime(" ++ Text.quoted s ++ ")"
  | .time s => "Time(" ++ Text.quoted s ++ ")"
  | .binary s => "Binary(" ++ Text.quoted s ++ ")"

namespace Expr

mutual

/-- The text of a tree in messages. -/
def inspect : Expr → String
  | .field path => "Field(" ++ Text.quoted path ++ ")"
  | .literal value => "Literal(" ++ value.inspect ++ ")"
  | .compare op left right =>
    "Compare \x7b op: " ++ op.inspect ++ ", left: " ++ inspect left ++ ", right: " ++
      inspect right ++ " \x7d"
  | .logical op args =>
    "Logical \x7b op: " ++ op.inspect ++ ", args: " ++ Inspect.list (inspectList args) ++ " \x7d"
  | .not arg => "Not(" ++ inspect arg ++ ")"
  | .arithmetic op left right =>
    "Arithmetic \x7b op: " ++ op.inspect ++ ", left: " ++ inspect left ++ ", right: " ++
      inspect right ++ " \x7d"
  | .call func args =>
    "Call \x7b func: " ++ func.inspect ++ ", args: " ++ Inspect.list (inspectList args) ++ " \x7d"
  | .regexMatch input regex options =>
    "RegexMatch \x7b input: " ++ inspect input ++ ", regex: " ++ Text.quoted regex ++
      ", options: " ++ Inspect.option (options.map Text.quoted) ++ " \x7d"
  | .cond condition yes no =>
    "Cond \x7b condition: " ++ inspect condition ++ ", then: " ++ inspect yes ++
      ", otherwise: " ++ inspect no ++ " \x7d"
  | .switch branches default =>
    "Switch \x7b branches: " ++ Inspect.list (inspectBranches branches) ++ ", default: " ++
      Inspect.option (inspectOption default) ++ " \x7d"
  | .custom name args =>
    "Custom \x7b name: " ++ Text.quoted name ++ ", args: " ++
      Inspect.list (inspectList args) ++ " \x7d"

/-- The texts of listed trees. -/
def inspectList : List Expr → List String
  | [] => []
  | e :: rest => inspect e :: inspectList rest

/-- The texts of branches. -/
def inspectBranches : List (Expr × Expr) → List String
  | [] => []
  | (c, v) :: rest => ("(" ++ inspect c ++ ", " ++ inspect v ++ ")") :: inspectBranches rest

/-- The text of an optional tree. -/
def inspectOption : Option Expr → Option String
  | none => none
  | some e => some (inspect e)

end

end Expr

namespace Literal

/-- Unary minus.  The least 64-bit integer has no negative, and other constants than numbers have
none either. -/
def neg? : Literal → QueryResult Literal
  | .int n => (negInt n).map .int
  | .long n => (negInt n).map .long
  | .single f => .ok (.single f.neg)
  | .double f => .ok (.double f.neg)
  | .decimal d => .ok (.decimal d.neg)
  | other => .error (.unsupported ("negation of " ++ other.inspect))
where
  /-- The negative of a 64-bit integer, if it is one too. -/
  negInt (n : Int64) : QueryResult Int64 :=
    match Integer.to64? (-n.toInt) with
    | some m => .ok m
    | none =>
      .error (.invalidExpression ("-(" ++ Integer.text64 n ++ ") overflows a 64-bit integer"))

end Literal

end Polyquery
