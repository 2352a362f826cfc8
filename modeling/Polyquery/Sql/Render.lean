import Polyquery.Expr.Inspect
import Polyquery.Expr.TextPattern
import Polyquery.Sql.Dialect

/-!
# Expressions as SQL

* `Dialect.render` - the tokens of an expression in a dialect;
* `literalToken`, `pathTokens` - constants and qualified names;
* `arity` - how many operands a function takes;
* `oneBased` - positions that count from one.
-/

namespace Polyquery.Sql

/-- A qualified name from its dotted path. -/
def pathTokens (path : String) : List Token :=
  Token.separated [.symbol "."] ((Text.segments path).map fun s => [.ident s])

/-- A finite number; SQL has no others. -/
def finiteToken (f : Double) : QueryResult Token :=
  if f.isFinite then .ok (.float f)
  else
    .error (.unsupported
      ("non-finite number " ++ NumberLayout.positional.render f ++ " in SQL"))

/-- The double that has the shortest digits of a single. -/
def widened (f : Single) : Double :=
  (BinaryFloat.parse? (NumberLayout.positional.render f).toList).getD f.convert

/-- The token of a constant. -/
def literalToken : Literal → QueryResult Token
  | .null => .ok .null
  | .bool b => .ok (.bool b)
  | .int n | .long n => .ok (.int n)
  | .single f => finiteToken (widened f)
  | .double f => finiteToken f
  | .decimal d => .ok (.raw d.text)
  | .string s | .dateTime s | .time s | .binary s => .ok (.string s)
  | .guid g => .ok (.string g.text)

/-- The symbol of a comparison. -/
def comparisonToken : ComparisonOp → Token
  | .eq => .symbol "="
  | .ne => .symbol "<>"
  | .gt => .symbol ">"
  | .gte => .symbol ">="
  | .lt => .symbol "<"
  | .lte => .symbol "<="

/-- The symbol of an arithmetic operation. -/
def arithmeticToken : ArithmeticOp → Token
  | .add => .symbol "+"
  | .subtract => .symbol "-"
  | .multiply => .symbol "*"
  | .divide => .symbol "/"
  | .modulo => .symbol "%"

/-- The word of a connective. -/
def connectiveToken : LogicalOp → Token
  | .and => .keyword .and
  | .or => .keyword .or

/-- Whether an operand of a connective or negation is put in parentheses. -/
def isLogical : Expr → Bool
  | .logical .. => true
  | _ => false

/-- The tokens of an operand of a connective or negation. -/
def grouped (e : Expr) (ts : List Token) : List Token :=
  if isLogical e then Token.parenthesized ts else ts

/-! ### Functions -/

/-- Whether a function takes a number of operands. -/
def arity (f : Func) (n : Nat) : Bool :=
  match f with
  | .concat => 2 ≤ n
  | .substr => n = 2 || n = 3
  | .indexOf => n = 2
  | .round => n = 1 || n = 2
  | .count => n ≤ 1
  | _ => n = 1

/-- The failure of a wrong number of operands. -/
def arityError (f : Func) (n : Nat) : QueryError :=
  .invalidExpression (f.tag ++ " received " ++ Integer.natText n ++ " operand(s)")

/-- The format letters of a date part. -/
def dateFormat : Func → String
  | .year => "%Y"
  | .month => "%m"
  | .day => "%d"
  | .hour => "%H"
  | .minute => "%M"
  | _ => "%S"

/-- The name of a date part. -/
def datePartName : Func → String
  | .year => "YEAR"
  | .month => "MONTH"
  | .day => "DAY"
  | .hour => "HOUR"
  | .minute => "MINUTE"
  | _ => "SECOND"

/-- A date part from the tokens of the date. -/
def datePartTokens (form : DatePartForm) (f : Func) (date : List Token) : List Token :=
  match form with
  | .function => Token.call (datePartName f) [date]
  | .extract =>
    [.functionName "EXTRACT", .leftParen, .raw (datePartName f)] ++ Token.spaced (.keyword .from) ++
      date ++ [.rightParen]
  | .formatted =>
    [.keyword .cast, .leftParen, .functionName "STRFTIME", .leftParen, .string (dateFormat f),
      .comma, .space] ++ date ++ [.rightParen] ++ Token.spaced (.keyword .as) ++
      [.raw "INTEGER", .rightParen]

/-- A zero-based position as a one-based one, from its expression and its tokens. -/
def oneBased (start : Expr) (ts : List Token) : List Token :=
  match start with
  | .literal (.int n) => [.int (n + 1)]
  | .literal (.long n) => [.int (n + 1)]
  | _ => Token.parenthesized (Token.infixed ts (.symbol "+") [.int 1])

/-- Whether a constant position has a successor. -/
def hasSuccessor : Expr → Bool
  | .literal (.int n) => n != Int64.maxValue
  | .literal (.long n) => n != Int64.maxValue
  | _ => true

/-- The failure of a position without a successor. -/
def startError (start : Expr) : QueryError :=
  .invalidExpression ("substring start " ++ start.inspect ++ " is out of range")

/-- One less than a number. -/
def minusOne (ts : List Token) : List Token :=
  Token.parenthesized (Token.infixed ts (.symbol "-") [.int 1])

/-- The tokens of a call from the tokens of its operands, their number being right. -/
def callTokens (d : Dialect) (f : Func) (args : List (List Token)) : List Token :=
  match f with
  | .year | .month | .day | .hour | .minute | .second => datePartTokens d.datePart f args.flatten
  | .toLower => Token.call "LOWER" args
  | .toUpper => Token.call "UPPER" args
  | .trim => Token.call "TRIM" args
  | .length => Token.call d.lengthFunction args
  | .concat =>
    if d.concatByOperator then
      Token.parenthesized (Token.separated (Token.spaced .concat) args)
    else Token.call "CONCAT" args
  | .substr => Token.call d.substringFunction args
  | .indexOf => Token.call d.locateFunction args
  | .round => Token.call "ROUND" args
  | .ceil => Token.call "CEIL" args
  | .floor => Token.call "FLOOR" args
  | .min => Token.call "MIN" args
  | .max => Token.call "MAX" args
  | .count => if args.isEmpty then Token.call "COUNT" [[.symbol "*"]] else Token.call "COUNT" args
  | .sum => Token.call "SUM" args
  | .avg => Token.call "AVG" args

/-! ### Patterns -/

/-- The options that `REGEXP_LIKE` knows. -/
def regexFlags (options : Option String) : List Char :=
  (options.getD "").toList.filter (· ∈ ['i', 'm'])

/-- The test of a literal pattern by plain text functions. -/
def textFunctionTokens (input : List Token) (p : TextPattern) : List Token :=
  let length : Int64 := Int64.ofNat p.text.length
  let isEmpty := p.text.isEmpty
  match p with
  | .startsWith s =>
    if isEmpty then located input s
    else Token.infixed (Token.call "SUBSTR" [input, [.int 1], [.int length]]) (.symbol "=")
      [.string s]
  | .endsWith s =>
    if isEmpty then located input s
    else Token.infixed (Token.call "SUBSTR" [input, [.int (-length)]]) (.symbol "=") [.string s]
  | .contains s => located input s
where
  /-- The text occurs somewhere. -/
  located (input : List Token) (s : String) : List Token :=
    Token.infixed (Token.call "INSTR" [input, [.string s]]) (.symbol ">") [.int 0]

/-- The pattern of `LIKE` for a shape. -/
def likeText : TextPattern → String
  | .startsWith s => s ++ "%"
  | .endsWith s => "%" ++ s
  | .contains s => "%" ++ s ++ "%"

/-- Whether a text has characters that `LIKE` treats as wildcards. -/
def hasWildcard (s : String) : Bool := s.toList.any fun c => c = '%' || c = '_'

/-- A match of a regular expression, from the tokens of its input. -/
def regexTokens (form : RegexForm) (input : List Token) (regex : String) (options : Option String) :
    List Token :=
  let flags := options.getD ""
  match form with
  | .function =>
    let letters := regexFlags options
    Token.call "REGEXP_LIKE"
      ([input, [.string regex]] ++
        if letters.isEmpty then [] else [[.string (String.ofList letters)]])
  | .operator =>
    Token.infixed input (.symbol (if flags.toList.contains 'i' then "~*" else "~")) [.string regex]
  | .textFunctions =>
    let general := Token.infixed input (.symbol "REGEXP")
      [.string (if flags.toList.contains 'i' then "(?i)" ++ regex else regex)]
    match TextPattern.ofRegex? regex with
    | none => general
    | some p =>
      if flags.isEmpty then textFunctionTokens input p
      else if flags = "i" ∧ !hasWildcard p.text then
        Token.infixed input (.keyword .like) [.string (likeText p)]
      else general

/-! ### Expressions -/

/-- A branch of a conditional from the tokens of its parts. -/
def branchTokens (condition value : List Token) : List Token :=
  Token.spaced (.keyword .when) ++ condition ++ Token.spaced (.keyword .then) ++ value

/-- A conditional from its branches and its default. -/
def caseTokens (branches default : List Token) : List Token :=
  .keyword .case :: (branches ++ default ++ [.space, .keyword .end])

namespace Dialect

mutual

/-- The tokens of an expression. -/
def render (d : Dialect) : Expr → QueryResult (List Token)
  | .field path => .ok (pathTokens path)
  | .literal value => (literalToken value).map fun t => [t]
  | .compare op left right =>
    if right.isNull && op = .eq then do
      let left ← render d left
      .ok (left ++ Token.spaced (.keyword .is) ++ [.null])
    else if right.isNull && op = .ne then do
      let left ← render d left
      .ok ([.keyword .not, .space] ++ left ++ Token.spaced (.keyword .is) ++ [.null])
    else do
      let left ← render d left
      let right ← render d right
      .ok (Token.infixed left (comparisonToken op) right)
  | .logical op args => do
    let parts ← renderOperands d args
    .ok (Token.separated (Token.spaced (connectiveToken op)) parts)
  | .not arg => do
    let ts ← render d arg
    .ok ([.keyword .not, .space] ++ grouped arg ts)
  | .arithmetic op left right => do
    let left ← render d left
    let right ← render d right
    .ok (Token.parenthesized (Token.infixed left (arithmeticToken op) right))
  | .call .substr (input :: start :: rest) =>
    if 1 < rest.length then .error (arityError .substr (rest.length + 2))
    else if hasSuccessor start then do
      let input ← render d input
      let position ← render d start
      let rest ← renderList d rest
      .ok (callTokens d .substr (input :: oneBased start position :: rest))
    else .error (startError start)
  | .call .indexOf [haystack, needle] =>
    if d.locateNeedleFirst then do
      let needle ← render d needle
      let haystack ← render d haystack
      .ok (minusOne (callTokens d .indexOf [needle, haystack]))
    else do
      let haystack ← render d haystack
      let needle ← render d needle
      .ok (minusOne (callTokens d .indexOf [haystack, needle]))
  | .call func args =>
    if arity func args.length || (func = .length && d.lengthAnyArity) then do
      let parts ← renderList d args
      .ok (callTokens d func parts)
    else .error (arityError func args.length)
  | .regexMatch input regex options => do
    let input ← render d input
    .ok (regexTokens d.regex input regex options)
  | .cond condition yes no => do
    let condition ← render d condition
    let yes ← render d yes
    let no ← render d no
    .ok (caseTokens (branchTokens condition yes) (Token.spaced (.keyword .else) ++ no))
  | .switch branches default =>
    if branches.isEmpty then
      match default with
      | some e => render d e
      | none => .error (.invalidExpression "switch has neither branches nor a default")
    else do
      let branches ← renderBranches d branches
      let default ← renderDefault d default
      .ok (caseTokens branches default)
  | .custom name args =>
    match d.customFunction? name with
    | none => .error (.unknownOperator name)
    | some function => do
      let parts ← renderList d args
      .ok (Token.call function parts)

/-- The tokens of listed expressions. -/
def renderList (d : Dialect) : List Expr → QueryResult (List (List Token))
  | [] => .ok []
  | e :: rest => do
    let ts ← render d e
    let parts ← renderList d rest
    .ok (ts :: parts)

/-- The tokens of operands of a connective. -/
def renderOperands (d : Dialect) : List Expr → QueryResult (List (List Token))
  | [] => .ok []
  | e :: rest => do
    let ts ← render d e
    let parts ← renderOperands d rest
    .ok (grouped e ts :: parts)

/-- The tokens of branches. -/
def renderBranches (d : Dialect) : List (Expr × Expr) → QueryResult (List Token)
  | [] => .ok []
  | (condition, value) :: rest => do
    let condition ← render d condition
    let value ← render d value
    let parts ← renderBranches d rest
    .ok (branchTokens condition value ++ parts)

/-- The tokens of a default branch, if there is one. -/
def renderDefault (d : Dialect) : Option Expr → QueryResult (List Token)
  | none => .ok []
  | some e => do
    let ts ← render d e
    .ok (Token.spaced (.keyword .else) ++ ts)

end

theorem renderList_eq_mapM (d : Dialect) (args : List Expr) :
    d.renderList args = args.mapM d.render := by
  induction args with
  | nil => rfl
  | cons a rest ih =>
    rw [renderList, List.mapM_cons, ih]
    rfl

theorem renderOperands_eq_mapM (d : Dialect) (args : List Expr) :
    d.renderOperands args = args.mapM fun a => (d.render a).map (grouped a) := by
  induction args with
  | nil => rfl
  | cons a rest ih =>
    rw [renderOperands, List.mapM_cons, ih]
    cases d.render a <;> rfl

/-- The SQL text of an expression. -/
def exprText (d : Dialect) (e : Expr) : QueryResult String := (d.render e).map d.text

end Dialect

end Polyquery.Sql
