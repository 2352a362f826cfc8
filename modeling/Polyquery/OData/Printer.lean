import Polyquery.Expr.TextPattern
import Polyquery.Number.Layout
import Polyquery.OData.Functions
import Polyquery.Text.Delimited

/-!
# Expressions as query option text

* `Dialect` - how paths, inequality and foreign operators are spelled;
* `Dialect.standard` - slashes in paths, `ne`, and no foreign operators;
* `Dialect.render` - the text of an expression;
* `quote` - a text constant with its quotes doubled.
-/

namespace Polyquery.OData

/-- The spelling decisions of query option text. -/
structure Dialect where
  /-- The text of a dotted field path. -/
  fieldText : String → String
  /-- The word for inequality. -/
  notEqual : String
  /-- The function that stands for a foreign operator, if there is one. -/
  customFunction? : String → Option String

/-- A dotted path with slashes. -/
def slashPath (path : String) : String :=
  String.ofList (path.toList.map fun c => if c = '.' then '/' else c)

/-- The standard spelling. -/
def Dialect.standard : Dialect := ⟨slashPath, "ne", fun _ => none⟩

/-- A text between single quotes, its own quotes doubled. -/
def quote (s : String) : String := Text.delimited '\'' s

/-- The text of a double, infinities and not-a-number by their words. -/
def doubleText : Double → String
  | .nan => "NaN"
  | .infinite false => "INF"
  | .infinite true => "-INF"
  | f => NumberLayout.literal.render f

/-- The text of a literal. -/
def literalText : Literal → String
  | .null => "null"
  | .bool true => "true"
  | .bool false => "false"
  | .int n => Integer.text64 n
  | .long n => Integer.text64 n ++ "L"
  | .single f => NumberLayout.positional.render f ++ "F"
  | .double f => doubleText f
  | .decimal d => d.text ++ "M"
  | .string s => quote s
  | .guid g => "guid" ++ quote g.text
  | .dateTime s => "datetime" ++ quote s
  | .time s => "time" ++ quote s
  | .binary s => "binary" ++ quote s

/-- The word of an arithmetic operator. -/
def arithmeticWord : ArithmeticOp → String
  | .add => "add"
  | .subtract => "sub"
  | .multiply => "mul"
  | .divide => "div"
  | .modulo => "mod"

/-- The word of a connective. -/
def logicalWord : LogicalOp → String
  | .and => "and"
  | .or => "or"

/-- Operands of a connective that keep their own parentheses. -/
def isCompound : Expr → Bool
  | .logical .. | .regexMatch .. | .not _ => true
  | _ => false

/-- A call from the texts of its arguments. -/
def callText (name : String) (args : List String) : String :=
  name ++ "(" ++ ",".intercalate args ++ ")"

/-- The flags of a pattern that query options know. -/
def patternFlags (options : Option String) : List Char :=
  (options.getD "").toList.filter (· ∈ ['i', 'm', 's'])

/-- The call that tests a text: the function of its shape, or a general match with its flags. -/
def textTest (input regex : String) (options : Option String) : String :=
  let plain := (options.getD "").isEmpty
  match TextPattern.ofRegex? regex, plain with
  | some (.startsWith s), true => callText "startswith" [input, quote s]
  | some (.endsWith s), true => callText "endswith" [input, quote s]
  | some (.contains s), true => callText "contains" [input, quote s]
  | _, _ =>
    let flags := patternFlags options
    let pattern := if flags.isEmpty then regex else "(?" ++ String.ofList flags ++ ")" ++ regex
    callText "matchesPattern" [input, quote pattern]

/-- Whether the test of a pattern is a general match. -/
def isGeneralMatch (test : String) : Bool := "matchesPattern(".toList.isPrefixOf test.toList

namespace Dialect

/-- The word of a comparison operator. -/
def comparisonWord (d : Dialect) : ComparisonOp → String
  | .eq => "eq"
  | .ne => d.notEqual
  | .gt => "gt"
  | .gte => "ge"
  | .lt => "lt"
  | .lte => "le"

/-- Calls of the binary `concat` over the texts of operands, nested to the right. -/
def concatText : List String → String
  | [] => ""
  | [a] => a
  | a :: rest => callText "concat" [a, concatText rest]

mutual

/-- The text of an expression. -/
def render (d : Dialect) : Expr → QueryResult String
  | .field path => .ok (d.fieldText path)
  | .literal value => .ok (literalText value)
  | .compare op left right => do
    let left ← render d left
    let right ← render d right
    .ok ("(" ++ left ++ " " ++ d.comparisonWord op ++ " " ++ right ++ ")")
  | .logical op args => do
    let parts ← renderOperands d args
    .ok ((" " ++ logicalWord op ++ " ").intercalate parts)
  | .not (.regexMatch input regex options) => do
    let input ← render d input
    .ok (textTest input regex options ++ " eq false")
  | .not (.compare op left right) => do
    let text ← render d (.compare op left right)
    .ok ("not " ++ text)
  | .not arg => do
    let text ← render d arg
    .ok ("not (" ++ text ++ ")")
  | .arithmetic op left right => do
    let left ← render d left
    let right ← render d right
    .ok ("(" ++ left ++ " " ++ arithmeticWord op ++ " " ++ right ++ ")")
  | .call .concat args =>
    if args.length < 2 then
      .error (.invalidExpression
        ("$concat received " ++ Integer.natText args.length ++ " operand(s)"))
    else do
      let args ← renderList d args
      .ok (concatText args)
  | .call func args => do
    let args ← renderList d args
    .ok (callText (functionName func) args)
  | .regexMatch input regex options => do
    let input ← render d input
    let test := textTest input regex options
    .ok (if isGeneralMatch test then test else test ++ " eq true")
  | .cond condition yes no => do
    let condition ← render d condition
    let yes ← render d yes
    let no ← render d no
    .ok ("case(" ++ condition ++ ":" ++ yes ++ ",true:" ++ no ++ ")")
  | .switch branches default => do
    let parts ← renderBranches d branches
    let last ← renderDefault d default
    .ok ("case(" ++ ",".intercalate (parts ++ last) ++ ")")
  | .custom name args =>
    match d.customFunction? name with
    | none => .error (.unknownOperator name)
    | some function => do
      let args ← renderList d args
      .ok (callText function args)

/-- The texts of listed expressions. -/
def renderList (d : Dialect) : List Expr → QueryResult (List String)
  | [] => .ok []
  | e :: rest => do
    let text ← render d e
    let texts ← renderList d rest
    .ok (text :: texts)

/-- The texts of operands of a connective, compound ones in parentheses. -/
def renderOperands (d : Dialect) : List Expr → QueryResult (List String)
  | [] => .ok []
  | e :: rest => do
    let text ← render d e
    let texts ← renderOperands d rest
    .ok ((if isCompound e then "(" ++ text ++ ")" else text) :: texts)

/-- The texts of branches. -/
def renderBranches (d : Dialect) : List (Expr × Expr) → QueryResult (List String)
  | [] => .ok []
  | (condition, value) :: rest => do
    let condition ← render d condition
    let value ← render d value
    let texts ← renderBranches d rest
    .ok ((condition ++ ":" ++ value) :: texts)

/-- The text of a default branch, if there is one. -/
def renderDefault (d : Dialect) : Option Expr → QueryResult (List String)
  | none => .ok []
  | some e => do
    let text ← render d e
    .ok ["true:" ++ text]

end

theorem renderList_eq_mapM (d : Dialect) (args : List Expr) :
    d.renderList args = args.mapM d.render := by
  induction args with
  | nil => rfl
  | cons a rest ih =>
    rw [renderList, List.mapM_cons, ih]
    rfl

theorem renderOperands_eq_mapM (d : Dialect) (args : List Expr) :
    d.renderOperands args
      = args.mapM fun a => (d.render a).map fun text =>
          if isCompound a then "(" ++ text ++ ")" else text := by
  induction args with
  | nil => rfl
  | cons a rest ih =>
    rw [renderOperands, List.mapM_cons, ih]
    cases d.render a <;> rfl

/-- The text of a comparison from those of its sides. -/
theorem render_compare {d : Dialect} {op : ComparisonOp} {left right : Expr} {l r : String}
    (hl : d.render left = .ok l) (hr : d.render right = .ok r) :
    d.render (.compare op left right)
      = .ok ("(" ++ l ++ " " ++ d.comparisonWord op ++ " " ++ r ++ ")") := by
  rw [render, hl, hr]
  rfl

end Dialect

end Polyquery.OData
