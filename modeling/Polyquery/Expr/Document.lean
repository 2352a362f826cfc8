import Polyquery.Expr
import Polyquery.Json

/-!
# Documents of expressions

The JSON form of expression trees.  Fields are texts that start with a dollar sign, literals are
plain values, and every operator is an object with its tag as the only key.

* `Expr.toDocument` - the document of a tree;
* `Expr.ofDocument` - the tree of a document.
-/

namespace Polyquery

/-- The document of a literal. -/
def Literal.toDocument : Literal → Json
  | .null => .null
  | .bool b => .bool b
  | .int n | .long n => .int n.toInt
  | .single f => Json.ofDouble f.convert
  | .double f => Json.ofDouble f
  | .decimal d => Json.ofDouble d.toDouble
  | .string s | .dateTime s | .time s | .binary s => .string s
  | .guid g => .string g.text

namespace Expr

/-- An object with one key. -/
def tagged (tag : String) (operands : Json) : Json := .object [(tag, operands)]

mutual

/-- The document of a tree. -/
def toDocument : Expr → Json
  | .field path => .string ("$" ++ path)
  | .literal value => value.toDocument
  | .compare op left right => tagged op.tag (.array [toDocument left, toDocument right])
  | .logical op args => tagged op.tag (.array (listDocuments args))
  | .not arg => tagged "$not" (.array [toDocument arg])
  | .arithmetic op left right => tagged op.tag (.array [toDocument left, toDocument right])
  | .call func args => tagged func.tag (.array (listDocuments args))
  | .regexMatch input regex options =>
    tagged "$regexMatch" (.object
      ([("input", toDocument input), ("regex", .string regex)] ++
        options.toList.map fun o => ("options", .string o)))
  | .cond condition yes no =>
    tagged "$cond" (.array [toDocument condition, toDocument yes, toDocument no])
  | .switch branches default =>
    tagged "$switch" (.object
      (("branches", .array (branchDocuments branches)) :: defaultEntry default))
  | .custom name args => tagged name (.array (listDocuments args))

/-- The documents of listed trees. -/
def listDocuments : List Expr → List Json
  | [] => []
  | e :: rest => toDocument e :: listDocuments rest

/-- The documents of branches. -/
def branchDocuments : List (Expr × Expr) → List Json
  | [] => []
  | (c, v) :: rest =>
    .object [("case", toDocument c), ("then", toDocument v)] :: branchDocuments rest

/-- The entry of a default branch. -/
def defaultEntry : Option Expr → List (String × Json)
  | none => []
  | some e => [("default", toDocument e)]

end

/-! ### Reading -/

/-- The tree of a text: a field after a dollar sign, a text constant otherwise. -/
def ofText (s : String) : Expr :=
  match s.toList with
  | '$' :: c :: rest => .field (String.ofList (c :: rest))
  | _ => .string s

/-- The literal of a number: a 64-bit integer, or a double. -/
def ofInteger (n : Int) : Expr :=
  match Integer.to64? n with
  | some i => .int i
  | none => .literal (.double (BinaryFloat.ofInt n))

/-- A failure to read a document. -/
def malformed {α : Type} (reason : String) : QueryResult α := .error (.invalidExpression reason)

/-- Two operands of a binary operator. -/
def binary (tag : String) (make : Expr → Expr → Expr) (args : List Expr) : QueryResult Expr :=
  match args with
  | [left, right] => .ok (make left right)
  | _ => malformed (tag ++ " expects 2 operands, found " ++ Integer.natText args.length)

/-- Assemble an operator with positional operands; `none` if the tag names no such operator. -/
def ofPositional? (tag : String) (args : QueryResult (List Expr)) : Option (QueryResult Expr) :=
  match ComparisonOp.ofTag? tag, ArithmeticOp.ofTag? tag, Func.ofTag? tag with
  | some op, _, _ => some (args >>= binary tag (.compare op))
  | none, some op, _ => some (args >>= binary tag (.arithmetic op))
  | none, none, some func => some (args.map (.call func))
  | none, none, none =>
    if tag = "$and" then some (args >>= connective .and)
    else if tag = "$or" then some (args >>= connective .or)
    else if tag = "$not" then
      some do
        match ← args with
        | [arg] => .ok (.not arg)
        | _ => malformed "$not expects 1 operand"
    else if tag = "$cond" then
      some do
        match ← args with
        | [condition, yes, no] => .ok (.cond condition yes no)
        | _ => malformed "$cond expects 3 operands"
    else none
where
  /-- A connective with at least two operands. -/
  connective (op : LogicalOp) (args : List Expr) : QueryResult Expr :=
    if args.length < 2 then malformed (tag ++ " expects at least 2 operands")
    else .ok (.logical op args)

/-- A text constant among the named operands. -/
def namedText? (key : String) (fields : List (String × Json)) : Option String :=
  match Json.lookup? key fields with
  | some (.string s) => some s
  | _ => none

mutual

/-- The tree of a document. -/
def ofDocument : Json → QueryResult Expr
  | .null => .ok null
  | .bool b => .ok (bool b)
  | .int n => .ok (ofInteger n)
  | .float f => .ok (.literal (.double f))
  | .string s => .ok (ofText s)
  | .array _ => malformed "arrays are only valid as operator operands"
  | .object [(tag, operands)] => ofOperator tag operands
  | .object fields =>
    malformed ("operator documents have exactly one key, found " ++ Integer.natText fields.length)

/-- The tree of an operator and the document of its operands. -/
def ofOperator (tag : String) : Json → QueryResult Expr
  | .array items =>
    match ofPositional? tag (ofList items) with
    | some result => result
    | none =>
      if tag = "$regexMatch" then malformed "$regexMatch expects named operands"
      else if tag = "$switch" then malformed "$switch needs a branches list"
      else .error (.unknownOperator tag)
  | .object fields =>
    if tag = "$regexMatch" then
      match ofNamed? "input" fields with
      | none => malformed "$regexMatch needs input"
      | some input =>
        match namedText? "regex" fields with
        | none => malformed "$regexMatch needs a string regex"
        | some regex => input.map fun e => .regexMatch e regex (namedText? "options" fields)
    else if tag = "$switch" then
      match branchesOf? fields with
      | none => malformed "$switch needs a branches list"
      | some branches => do
        let branches ← branches
        match ofNamed? "default" fields with
        | none => .ok (.switch branches none)
        | some default => default.map fun e => .switch branches (some e)
    else
      match ofPositional? tag (malformed (tag ++ " expects an operand list")) with
      | some result => result
      | none => .error (.unknownOperator tag)
  | _ =>
    if tag = "$regexMatch" then malformed "$regexMatch expects named operands"
    else if tag = "$switch" then malformed "$switch needs a branches list"
    else
      match ofPositional? tag (malformed (tag ++ " expects an operand list")) with
      | some result => result
      | none => .error (.unknownOperator tag)

/-- The trees of listed documents. -/
def ofList : List Json → QueryResult (List Expr)
  | [] => .ok []
  | item :: rest => do
    let e ← ofDocument item
    let es ← ofList rest
    .ok (e :: es)

/-- The tree of a named operand, if it is there. -/
def ofNamed? (key : String) : List (String × Json) → Option (QueryResult Expr)
  | [] => none
  | (k, value) :: rest => if k = key then some (ofDocument value) else ofNamed? key rest

/-- The branches of a switch, if they are a list. -/
def branchesOf? : List (String × Json) → Option (QueryResult (List (Expr × Expr)))
  | [] => none
  | (k, .array items) :: rest =>
    if k = "branches" then some (ofBranches items) else branchesOf? rest
  | (k, _) :: rest => if k = "branches" then none else branchesOf? rest

/-- The trees of listed branches. -/
def ofBranches : List Json → QueryResult (List (Expr × Expr))
  | [] => .ok []
  | .object fields :: rest =>
    match ofNamed? "case" fields, ofNamed? "then" fields with
    | some condition, some value => do
      let condition ← condition
      let value ← value
      let branches ← ofBranches rest
      .ok ((condition, value) :: branches)
    | _, _ => malformed "$switch branches need case and then"
  | _ :: _ => malformed "$switch branches need case and then"

end

end Expr

end Polyquery
