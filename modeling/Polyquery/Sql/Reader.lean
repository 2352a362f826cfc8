import Polyquery.Query.Builder
import Polyquery.Sql.Functions
import Polyquery.Sql.Like
import Polyquery.Sql.StatementGrammar

/-!
# Queries from SQL text

The meaning of SQL trees: column references go through the member resolvers, calls through the
method resolvers and then the built-in functions.

* `Tree.toExpr` - the expression of a tree;
* `QueryTree.toQuery` - the query of a selection;
* `parse` - the query of a text with exactly one selection;
* `parseExpr` - the expression at the front of a text.
-/

namespace Polyquery.Sql

/-! ### Constants -/

/-- The literal of a number: an integer where it is one of 64 bits, else a double. -/
def numberLiteral (digits : String) : QueryResult Literal :=
  match Integer.parse64? digits.toList with
  | some n => .ok (.int n)
  | none =>
    match (BinaryFloat.parse? digits.toList : Option Double) with
    | some f => .ok (.double f)
    | none => .error .sqlSyntax

/-- The literal of a constant. -/
def Constant.toLiteral : Constant → QueryResult Literal
  | .null => .ok .null
  | .bool b => .ok (.bool b)
  | .number digits _ => numberLiteral digits
  | .text .single value | .text .double value => .ok (.string value)
  | other => .error (.unsupported ("SQL value " ++ other.render))

/-- The integer of a paging clause. -/
def pagingValue (clause : String) : Tree → QueryResult Int64
  | .constant (.number digits _) =>
    match Integer.parse64? digits.toList with
    | some n => .ok n
    | none => .error (.invalidExpression (clause ++ " must be an integer, found " ++ digits))
  | other => .error (.unsupported (clause ++ " " ++ other.text))

/-! ### Expressions -/

/-- The negation of an expression, if it is negated. -/
def negatedIf (negated : Bool) (e : Expr) : Expr := if negated then .not e else e

/-- One expression for a chain of operands. -/
def ChainOp.combine (op : ChainOp) (operands : List Expr) : QueryResult Expr :=
  match op with
  | .concat => .ok (.call .concat operands)
  | .logical op =>
    match Expr.foldLogical? op operands with
    | some e => .ok e
    | none => .error (.invalidExpression "empty logical chain")

/-- The expression of an operator with two operands. -/
def BinaryOp.combine (op : BinaryOp) (left right : Expr) : QueryResult Expr :=
  match op with
  | .compare op => .ok (.compare op left right)
  | .arithmetic op => .ok (.arithmetic op left right)
  | .other text => .error (.unsupported ("binary operator " ++ text))

/-- Zero minus an expression; the sign of a constant is changed in place. -/
def minus (operand : Expr) : QueryResult Expr :=
  match operand with
  | .literal value => value.neg?.map .literal
  | other => .ok (.arithmetic .subtract (.int 0) other)

/-- The function that extracts a part of a date. -/
def extractFunction (field : String) : QueryResult Func :=
  match field with
  | "YEAR" => .ok .year
  | "MONTH" => .ok .month
  | "DAY" => .ok .day
  | "HOUR" => .ok .hour
  | "MINUTE" => .ok .minute
  | "SECOND" => .ok .second
  | other => .error (.unsupported ("EXTRACT(" ++ other ++ ")"))

/-- The text of a pattern. -/
def patternText : Tree → QueryResult String
  | .constant (.text .single value) => .ok value
  | other =>
    .error (.unsupported ("LIKE pattern must be a string literal, found " ++ other.text))

/-- The escape character of a pattern. -/
def escapeCharacter : Option String → QueryResult (Option Char)
  | none => .ok none
  | some text =>
    match text.toList with
    | [c] => .ok (some c)
    | _ =>
      .error (.unsupported ("LIKE escape '" ++ text ++ "' must be a single character"))

/-- The expression of a case: with a single branch and a default it is a conditional. -/
def caseExpr (branches : List (Expr × Expr)) (default : Option Expr) : Expr :=
  match branches, default with
  | [(condition, result)], some otherwise => .cond condition result otherwise
  | branches, default => .switch branches default

/-- The meaning of a call. -/
def resolveCall (rs : Resolvers) (name : String) (args : List Expr) : QueryResult Expr :=
  rs.resolveMethod functions ⟨name, args, false, none⟩

/-- Calls that have no meaning, whatever their arguments are. -/
def CallHead.check (head : CallHead) : QueryResult Unit :=
  if head.windowed then .error (.unsupported "window functions")
  else
    match head.shape with
    | .subquery _ => .error (.unsupported "sub-query function arguments")
    | .arguments (some _) _ =>
      .error (.unsupported (Text.lower (pathText head.name) ++ "(DISTINCT ...)"))
    | _ => .ok ()

mutual

/-- The expression of a tree. -/
def Tree.toExpr (rs : Resolvers) : Tree → QueryResult Expr
  | .name ident => .ok (.field (rs.resolveMember ident.value none))
  | .path idents =>
    match idents.getLast? with
    | none => .error (.invalidField "empty identifier")
    | some member =>
      let qualifier := ".".intercalate (idents.dropLast.map Ident.value)
      .ok (.field (rs.resolveJoinMember qualifier member.value))
  | .constant value => value.toLiteral.map .literal
  | .nested inner => inner.toExpr rs
  | .chain op operands => do op.combine (← toExprs rs operands)
  | .binary op left right => do op.combine (← left.toExpr rs) (← right.toExpr rs)
  | .unary op operand =>
    match op with
    | .not => do return .not (← operand.toExpr rs)
    | .plus => operand.toExpr rs
    | .minus => do minus (← operand.toExpr rs)
    | .other text | .after text => .error (.unsupported ("unary operator " ++ text))
  | .isNull negated operand => do
    return .compare (if negated then .ne else .eq) (← operand.toExpr rs) Expr.null
  | .between negated operand low high => do
    return negatedIf negated
      (Expr.between (← operand.toExpr rs) (← low.toExpr rs) (← high.toExpr rs))
  | .inList negated operand items => do
    let input ← operand.toExpr rs
    let items ← toExprs rs items
    match Expr.foldLogical? .or (items.map fun item => .compare .eq input item) with
    | some e => return negatedIf negated e
    | none => .error (.unsupported "empty IN list")
  | .like negated caseless _ operand pattern escape => do
    let pattern ← patternText pattern
    let regex ← likeRegex pattern (← escapeCharacter escape)
    let options := if caseless then some "i" else none
    return negatedIf negated (.regexMatch (← operand.toExpr rs) regex options)
  | .case operand branches otherwise => do
    let operand ← toExprOption rs operand
    let branches ← toBranches rs operand branches
    return caseExpr branches (← toExprOption rs otherwise)
  | .extract field _ operand => do
    let func ← extractFunction field
    return .call func [← operand.toExpr rs]
  | .substring _ operand start length => do
    let operand ← operand.toExpr rs
    let start ← toExprOption rs start
    let length ← toExprOption rs length
    resolveCall rs "substring" (operand :: start.getD (.int 1) :: length.toList)
  | .trim operand _ => do resolveCall rs "trim" [← operand.toExpr rs]
  | .rounding function operand _ => do
    resolveCall rs (Text.lower function) [← operand.toExpr rs]
  | .call head arguments => do
    head.check
    resolveCall rs (Text.lower (pathText head.name)) (← toArguments rs arguments)
  | .subquery text => .error (.unsupported ("SQL expression (" ++ text ++ ")"))
  | .other text => .error (.unsupported ("SQL expression " ++ text))

/-- The expressions of trees. -/
def toExprs (rs : Resolvers) : List Tree → QueryResult (List Expr)
  | [] => .ok []
  | t :: ts => do
    let e ← t.toExpr rs
    return e :: (← toExprs rs ts)

/-- The expression of a tree that may be missing. -/
def toExprOption (rs : Resolvers) : Option Tree → QueryResult (Option Expr)
  | none => .ok none
  | some t => do return some (← t.toExpr rs)

/-- The branches of a case; with an operand, a branch is chosen by equality to it. -/
def toBranches (rs : Resolvers) (operand : Option Expr) :
    List (Tree × Tree) → QueryResult (List (Expr × Expr))
  | [] => .ok []
  | (condition, result) :: rest => do
    let condition ← condition.toExpr rs
    let condition := match operand with
      | some operand => .compare .eq operand condition
      | none => condition
    let result ← result.toExpr rs
    return (condition, result) :: (← toBranches rs operand rest)

/-- The arguments of a call; a star adds none. -/
def toArguments (rs : Resolvers) : List Argument → QueryResult (List Expr)
  | [] => .ok []
  | .value value :: rest => do
    let e ← value.toExpr rs
    return e :: (← toArguments rs rest)
  | .everything :: rest => toArguments rs rest
  | .everythingOf source :: _ =>
    .error (.unsupported ("function argument " ++ pathText source ++ ".*"))
  | .other text :: _ => .error (.unsupported ("function argument " ++ text))

end

/-- Parentheses mean what stands between them. -/
theorem Tree.toExpr_nested (rs : Resolvers) (inner : Tree) :
    (Tree.nested inner).toExpr rs = inner.toExpr rs := by
  rw [Tree.toExpr]

/-! ### Queries -/

/-- A name without its quotes. -/
def plainName (names : List Ident) : String := ".".intercalate (names.map Ident.value)

/-- The collection a query reads from. -/
def baseEntity : Relation → QueryResult Entity
  | .table name wording => .ok ⟨plainName name, wording.aliasName⟩
  | other => .error (.unsupported ("FROM source " ++ other.text))

/-- The fields of a projection.  A star adds none, and entries without a name are numbered,
`unnamed` of them having been met before. -/
def toFields (rs : Resolvers) (unnamed : Nat) : List SelectItem → QueryResult (List Field)
  | [] => .ok []
  | .everything :: rest => toFields rs unnamed rest
  | .everythingOf source :: _ =>
    .error (.unsupported ("qualified wildcard " ++ pathText source ++ ".*"))
  | .value value (some aliasName) :: rest => do
    let e ← value.toExpr rs
    return Field.computed aliasName.value e :: (← toFields rs unnamed rest)
  | .value value none :: rest => do
    match ← value.toExpr rs with
    | .field path => return Field.named path :: (← toFields rs unnamed rest)
    | e =>
      let name := "field" ++ Integer.natText (unnamed + 1)
      return Field.computed name e :: (← toFields rs (unnamed + 1) rest)

/-- The terms of an ordering. -/
def toOrdering (rs : Resolvers) (items : List OrderItem) : QueryResult (List OrderTerm) :=
  items.mapM fun item => do return ⟨← item.value.toExpr rs, item.descending⟩

/-- Add the clauses of a selection behind its source. -/
def withClauses (rs : Resolvers) (q : Query) (duplicates : DistinctTree) (items : List SelectItem)
    (filter : Option Tree) (grouping : GroupTree) (having : Bool) : QueryResult Query := do
  let q ← match duplicates with
    | .all => .ok q
    | .distinct => .ok (q.withDistinct true)
    | .distinctOn => .error (.unsupported "DISTINCT ON")
  let fields ← toFields rs 0 items
  let q := if fields.isEmpty then q else q.select fields
  let filter ← toExprOption rs filter
  let q := (filter.map q.whereExpr).getD q
  let q ← match grouping with
    | .byEverything => .error (.unsupported "GROUP BY ALL")
    | .by keys => (toExprs rs keys).map fun keys =>
      if keys.isEmpty then q else q.groupByExprs keys
  if having then .error (.unsupported "HAVING") else .ok q

mutual

/-- The query of a tree. -/
def QueryTree.toQuery (rs : Resolvers) : QueryTree → QueryResult Query
  | .mk true _ _ _ _ _ _ => .error (.unsupported "WITH clauses")
  | .mk false none body _ _ _ _ => .error (.unsupported ("query body '" ++ body ++ "'"))
  | .mk false (some select) _ ordering limit offset _ => do
    let q ← select.toQuery rs
    let terms ← toOrdering rs ordering
    let q := if terms.isEmpty then q else q.orderByTerms terms
    let limit ← limit.mapM (pagingValue "LIMIT")
    let offset ← offset.mapM (pagingValue "OFFSET")
    let q := (limit.map q.take).getD q
    return (offset.map q.skip).getD q

/-- The query of a selection. -/
def SelectTree.toQuery (rs : Resolvers) : SelectTree → QueryResult Query
  | .mk _ _ sources none _ _ _ _ =>
    .error (.unsupported ("SELECT needs exactly one FROM source, found " ++
      Integer.natText sources))
  | .mk duplicates items _ (some base) joins filter grouping having => do
    let entity ← baseEntity base
    let start := { Query.empty with resolvers := rs }
    let q ← addJoins rs joins (start.fromCollection entity)
    withClauses rs q duplicates items filter grouping having

/-- Add joins to a query in turn. -/
def addJoins (rs : Resolvers) : List JoinTree → Query → QueryResult Query
  | [], q => .ok q
  | j :: js, q => do addJoins rs js (← j.addTo rs q)

/-- Add a join to a query. -/
def JoinTree.addTo (rs : Resolvers) : JoinTree → Query → QueryResult Query
  | .mk _ (.other text) _ _, _ => .error (.unsupported ("join operator " ++ text))
  | .mk _ (.directed direction) (.on condition) relation, q => do
    let (target, aliasName) ← relation.toTarget rs
    let condition ← condition.toExpr rs
    (q.joinWith target direction aliasName).onExpr condition
  | .mk _ (.directed _) _ _, _ => .error (.unsupported "joins without an ON condition")

/-- The target of a join and its alias. -/
def Relation.toTarget (rs : Resolvers) :
    Relation → QueryResult (JoinTarget Query × Option String)
  | .table name wording => .ok (.collection (Entity.named (plainName name)), wording.aliasName)
  | .derived query wording => do return (.query (← query.toQuery rs), wording.aliasName)
  | .joined wording | .other wording => .error (.unsupported ("join source " ++ wording.text))

end

/-! ### Texts -/

/-- The query of a text with exactly one selection. -/
def parse (d : DialectName) (rs : Resolvers) (text : String) : QueryResult Query :=
  match statements? d text with
  | none => .error .sqlSyntax
  | some [.query tree] => tree.toQuery rs
  | some [.other kind] => .error (.unsupportedStatement kind)
  | some found =>
    .error (.unsupported ("expected one statement, found " ++ Integer.natText found.length))

/-- The expression at the front of a text. -/
def parseExpr (d : DialectName) (rs : Resolvers) (text : String) : QueryResult Expr :=
  match expression? d text with
  | none => .error .sqlSyntax
  | some tree => tree.toExpr rs

end Polyquery.Sql
