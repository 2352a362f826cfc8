import Polyquery.Expr.Inspect

/-!
# Closures

Functions of one or more rows, as trees of the expressions an application writes.

* `Term` - the body of a closure; `Lambda` - a closure;
* `Term.chain`, `Term.join` - longer comparisons and connectives;
* `Term.path?` - the attribute chain below a parameter;
* `Term.inspect` - the text of a term in messages.
-/

namespace Polyquery.Closure

/-- Comparisons of terms; identity compares as equality does. -/
inductive Comparator where
  | eq | ne | lt | le | gt | ge | is | isNot
deriving DecidableEq

/-- The comparison operator of a comparator. -/
def Comparator.op : Comparator → ComparisonOp
  | .eq | .is => .eq
  | .ne | .isNot => .ne
  | .lt => .lt
  | .le => .lte
  | .gt => .gt
  | .ge => .gte

/-- The body of a closure. -/
inductive Term where
  /-- A parameter of the closure. -/
  | param (name : String)
  /-- A name from outside the closure. -/
  | free (name : String)
  | attribute (value : Term) (attr : String)
  | constant (value : Literal)
  /-- A comparison of a term with the next one, of that with the one after it, and so on. -/
  | compare (left : Term) (links : List (Comparator × Term))
  | logical (op : LogicalOp) (values : List Term)
  | arithmetic (op : ArithmeticOp) (left right : Term)
  | not (operand : Term)
  | minus (operand : Term)
  /-- A call of a function, or of a method if the target is an attribute. -/
  | call (target : Term) (args : List Term) (keywords : List (String × Term))
  | index (value position : Term)
  | slice (value : Term) (lower upper step : Option Term)
  | choice (test yes no : Term)
  | list (items : List Term)
  | tuple (items : List Term)
  | dict (entries : List (Term × Term))
  | lambda (params : List String) (body : Term)
deriving Inhabited

/-- A closure. -/
structure Lambda where
  params : List String
  body : Term

namespace Term

/-- Extend a comparison by a link; any other term starts one. -/
def chain (left : Term) (op : Comparator) (right : Term) : Term :=
  match left with
  | .compare first links => .compare first (links ++ [(op, right)])
  | other => .compare other [(op, right)]

/-- Join two terms; a term of the same connective on the left is extended. -/
def join (op : LogicalOp) (left right : Term) : Term :=
  match left with
  | .logical current values =>
    if current = op then .logical op (values ++ [right]) else .logical op [left, right]
  | other => .logical op [other, right]

/-- The parameter and the attributes of an attribute chain below a parameter. -/
def path? : Term → Option (String × List String)
  | .attribute (.param name) attr => some (name, [attr])
  | .attribute value attr => (path? value).map fun p => (p.1, p.2 ++ [attr])
  | _ => none

/-! ### Texts -/

/-- The name of a comparator in messages. -/
def comparatorName : Comparator → String
  | .eq => "Eq"
  | .ne => "NotEq"
  | .lt => "Lt"
  | .le => "LtE"
  | .gt => "Gt"
  | .ge => "GtE"
  | .is => "Is"
  | .isNot => "IsNot"

/-- The name of an arithmetic operator of terms in messages. -/
def operatorName : ArithmeticOp → String
  | .add => "Add"
  | .subtract => "Sub"
  | .multiply => "Mult"
  | .divide => "Div"
  | .modulo => "Mod"

/-- A node with named parts. -/
def nodeText (name : String) (parts : List (String × String)) : String :=
  name ++ " \x7b " ++ ", ".intercalate (parts.map fun p => p.1 ++ ": " ++ p.2) ++ " \x7d"

/-- A pair. -/
def pairText (a b : String) : String := "(" ++ a ++ ", " ++ b ++ ")"

mutual

/-- The text of a term in messages. -/
def inspect : Term → String
  | .param name => "Param(" ++ Text.quoted name ++ ")"
  | .free name => "Name(" ++ Text.quoted name ++ ")"
  | .attribute value attr =>
    nodeText "Attribute" [("value", inspect value), ("attr", Text.quoted attr)]
  | .constant value => "Constant(" ++ value.inspect ++ ")"
  | .compare left links =>
    nodeText "Compare"
      [("left", inspect left), ("comparators", Inspect.list (inspectLinks links))]
  | .logical op values =>
    nodeText "BoolOp" [("op", op.inspect), ("values", Inspect.list (inspectList values))]
  | .arithmetic op left right =>
    nodeText "BinOp"
      [("op", operatorName op), ("left", inspect left), ("right", inspect right)]
  | .not operand => nodeText "UnaryOp" [("op", "Not"), ("operand", inspect operand)]
  | .minus operand => nodeText "UnaryOp" [("op", "USub"), ("operand", inspect operand)]
  | .call target args keywords =>
    nodeText "Call"
      [("func", inspect target), ("args", Inspect.list (inspectList args)),
        ("keywords", Inspect.list (inspectKeywords keywords))]
  | .index value position =>
    nodeText "Subscript"
      [("value", inspect value), ("slice", "Index(" ++ inspect position ++ ")")]
  | .slice value lower upper step =>
    nodeText "Subscript"
      [("value", inspect value),
        ("slice", nodeText "Slice"
          [("lower", Inspect.option (inspectOption lower)),
            ("upper", Inspect.option (inspectOption upper)),
            ("step", Inspect.option (inspectOption step))])]
  | .choice test yes no =>
    nodeText "IfExp" [("test", inspect test), ("body", inspect yes), ("orelse", inspect no)]
  | .list items => "List(" ++ Inspect.list (inspectList items) ++ ")"
  | .tuple items => "Tuple(" ++ Inspect.list (inspectList items) ++ ")"
  | .dict entries => "Dict(" ++ Inspect.list (inspectEntries entries) ++ ")"
  | .lambda params body =>
    "Lambda(" ++
      nodeText "Lambda"
        [("params", Inspect.list (params.map Text.quoted)), ("body", inspect body)] ++ ")"

/-- The texts of listed terms. -/
def inspectList : List Term → List String
  | [] => []
  | t :: rest => inspect t :: inspectList rest

/-- The text of a term that may be missing. -/
def inspectOption : Option Term → Option String
  | none => none
  | some t => some (inspect t)

/-- The texts of the links of a comparison. -/
def inspectLinks : List (Comparator × Term) → List String
  | [] => []
  | (op, t) :: rest => pairText (comparatorName op) (inspect t) :: inspectLinks rest

/-- The texts of named arguments. -/
def inspectKeywords : List (String × Term) → List String
  | [] => []
  | (name, t) :: rest => pairText (Text.quoted name) (inspect t) :: inspectKeywords rest

/-- The texts of the entries of a dictionary. -/
def inspectEntries : List (Term × Term) → List String
  | [] => []
  | (key, t) :: rest => pairText (inspect key) (inspect t) :: inspectEntries rest

end

end Term

end Polyquery.Closure
