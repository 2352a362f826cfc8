import Polyquery.OData.Functions
import Polyquery.OData.Token

/-!
# The expression grammar of query options

Recursive descent over tokens.  From loosest to tightest: `or`, `and`, `not`, comparison, addition,
multiplication, primary.  Connectives nest to the right, arithmetic to the left, and a comparison
has one operator.

* `Context` - the resolvers, and the offset where the text ends;
* `expression` - an expression at the front of a token list, and the tokens after it;
* `unexpected` - the fault at the current token;
* `commaSeparated`, `finish` - lists of items and the end of a text.

The mutual functions count down a bound on the nesting of calls; `depthBound` computes one that no
token list exhausts.
-/

namespace Polyquery.OData

/-- What a parse depends on besides the tokens. -/
structure Context where
  resolvers : Resolvers
  stop : Nat

/-- A parser of an item at the front of a token list. -/
abbrev Parser (α : Type) := List Token → QueryResult (α × List Token)

namespace Context

/-- The span of the current token, or the end of the text. -/
def currentSpan (ctx : Context) : List Token → Span
  | t :: _ => t.span
  | [] => ⟨ctx.stop, ctx.stop⟩

/-- The fault of a missing operand. -/
def expectedOperand (ctx : Context) (ts : List Token) : QueryError :=
  .syntaxAt .expectedOperand (ctx.currentSpan ts)

/-- The fault of a token that does not fit, or of a text that ends too early. -/
def unexpected (ctx : Context) : List Token → QueryError
  | t :: _ => .syntaxAt (.unexpectedToken (String.ofList t.text)) t.span
  | [] => ctx.expectedOperand []

/-- The tokens after one of the given kind. -/
def expect (ctx : Context) (kind : TokenKind) (ts : List Token) : QueryResult (List Token) :=
  match ts with
  | t :: rest => if t.kind = kind then .ok rest else .error (ctx.unexpected ts)
  | [] => .error (ctx.unexpected ts)

/-- The name of an identifier token. -/
def identifier (ctx : Context) (ts : List Token) : QueryResult (String × List Token) :=
  match ts with
  | t :: rest =>
    match t.name? with
    | some name => .ok (name, rest)
    | none => .error (.syntaxAt .expectedIdentifier t.span)
  | [] => .error (.syntaxAt .expectedIdentifier (ctx.currentSpan []))

/-- No token may be left. -/
def finish (ctx : Context) : List Token → QueryResult Unit
  | [] => .ok ()
  | ts => .error (ctx.unexpected ts)

end Context

/-- The tokens after one of the given kind, if it stands in front. -/
def eat? (kind : TokenKind) : List Token → Option (List Token)
  | t :: rest => if t.kind = kind then some rest else none
  | [] => none

/-- The tokens after a keyword, if it stands in front. -/
def eatKeyword? (keyword : String) : List Token → Option (List Token)
  | t :: rest => if t.isKeyword keyword then some rest else none
  | [] => none

/-! ### Operators -/

/-- The comparison operator of a word. -/
def comparisonOf? (word : String) : Option ComparisonOp :=
  if word = "eq" then some .eq
  else if word = "ne" then some .ne
  else if word = "gt" then some .gt
  else if word = "ge" then some .gte
  else if word = "lt" then some .lt
  else if word = "le" then some .lte
  else none

/-- The additive operator of a word. -/
def additiveOf? (word : String) : Option ArithmeticOp :=
  if word = "add" then some .add
  else if word = "sub" then some .subtract
  else none

/-- The multiplicative operator of a word. -/
def multiplicativeOf? (word : String) : Option ArithmeticOp :=
  if word = "mul" then some .multiply
  else if word = "div" then some .divide
  else if word = "mod" then some .modulo
  else none

/-- Words that cannot stand as an operand. -/
def isOperatorWord (word : String) : Bool :=
  (comparisonOf? word).isSome ||
    word ∈ ["and", "or", "add", "sub", "mul", "div", "mod", "as", "asc", "desc"]

/-- An operator in front, and the tokens after it. -/
def operator? {α : Type} (ofWord : String → Option α) : List Token → Option (α × List Token)
  | t :: rest => (t.name?.bind ofWord).map fun op => (op, rest)
  | [] => none

/-- A comparison; a text test compared with a truth value is the test itself or its negation. -/
def comparisonOf (op : ComparisonOp) (left right : Expr) : Expr :=
  match left, right with
  | .regexMatch .., .literal (.bool b) =>
    match op, b with
    | .eq, true | .ne, false => left
    | .eq, false | .ne, true => .not left
    | _, _ => .compare op left right
  | _, _ => .compare op left right

/-! ### Paths and cases -/

/-- Further segments of a member path. -/
def pathSegments (ctx : Context) (segments : List String) : Nat → Parser (List String)
  | 0, ts => .ok (segments, ts)
  | fuel + 1, ts =>
    match eat? .slash ts with
    | none => .ok (segments, ts)
    | some ts => do
      let (name, ts) ← ctx.identifier ts
      pathSegments ctx (segments ++ [name]) fuel ts

/-- The field of a member path, as the resolvers name it; a leading `$it` is dropped. -/
def memberField (ctx : Context) (segments : List String) : Expr :=
  let segments := match segments with
    | "$it" :: next :: rest => next :: rest
    | _ => segments
  let member := segments.getLast?.getD ""
  let qualifier := segments.dropLast
  if qualifier.isEmpty then .field (ctx.resolvers.resolveMember member none)
  else .field (ctx.resolvers.resolveJoinMember (".".intercalate qualifier) member)

/-- A conditional from its branches: one branch with a default is a choice of two. -/
def caseOf (branches : List (Expr × Expr)) (default : Option Expr) : Expr :=
  match branches, default with
  | [(condition, yes)], some no => .cond condition yes no
  | _, _ => .switch branches default

/-- Whether a condition is the constant that marks a default branch. -/
def isDefaultMark : Expr → Bool
  | .literal (.bool true) => true
  | _ => false

/-! ### Expressions -/

mutual

/-- Operands joined by `or`. -/
def orExpr (ctx : Context) : Nat → Parser Expr
  | 0, ts => .error (ctx.expectedOperand ts)
  | fuel + 1, ts => do
    let (left, ts) ← andExpr ctx fuel ts
    match eatKeyword? "or" ts with
    | none => .ok (left, ts)
    | some ts =>
      let (right, ts) ← orExpr ctx fuel ts
      .ok (.logical .or [left, right], ts)

/-- Operands joined by `and`. -/
def andExpr (ctx : Context) : Nat → Parser Expr
  | 0, ts => .error (ctx.expectedOperand ts)
  | fuel + 1, ts => do
    let (left, ts) ← notExpr ctx fuel ts
    match eatKeyword? "and" ts with
    | none => .ok (left, ts)
    | some ts =>
      let (right, ts) ← andExpr ctx fuel ts
      .ok (.logical .and [left, right], ts)

/-- A comparison after any number of negations. -/
def notExpr (ctx : Context) : Nat → Parser Expr
  | 0, ts => .error (ctx.expectedOperand ts)
  | fuel + 1, ts =>
    match eatKeyword? "not" ts with
    | some ts => do
      let (arg, ts) ← notExpr ctx fuel ts
      .ok (.not arg, ts)
    | none => comparison ctx fuel ts

/-- A term, or two terms with a comparison between them. -/
def comparison (ctx : Context) : Nat → Parser Expr
  | 0, ts => .error (ctx.expectedOperand ts)
  | fuel + 1, ts => do
    let (left, ts) ← additive ctx fuel ts
    match operator? comparisonOf? ts with
    | none => .ok (left, ts)
    | some (op, ts) =>
      let (right, ts) ← additive ctx fuel ts
      .ok (comparisonOf op left right, ts)

/-- A sum. -/
def additive (ctx : Context) : Nat → Parser Expr
  | 0, ts => .error (ctx.expectedOperand ts)
  | fuel + 1, ts => do
    let (left, ts) ← multiplicative ctx fuel ts
    additiveRest ctx fuel left ts

/-- Further summands. -/
def additiveRest (ctx : Context) : Nat → Expr → Parser Expr
  | 0, _, ts => .error (ctx.expectedOperand ts)
  | fuel + 1, left, ts =>
    match operator? additiveOf? ts with
    | none => .ok (left, ts)
    | some (op, ts) => do
      let (right, ts) ← multiplicative ctx fuel ts
      additiveRest ctx fuel (.arithmetic op left right) ts

/-- A product. -/
def multiplicative (ctx : Context) : Nat → Parser Expr
  | 0, ts => .error (ctx.expectedOperand ts)
  | fuel + 1, ts => do
    let (left, ts) ← primary ctx fuel ts
    multiplicativeRest ctx fuel left ts

/-- Further factors. -/
def multiplicativeRest (ctx : Context) : Nat → Expr → Parser Expr
  | 0, _, ts => .error (ctx.expectedOperand ts)
  | fuel + 1, left, ts =>
    match operator? multiplicativeOf? ts with
    | none => .ok (left, ts)
    | some (op, ts) => do
      let (right, ts) ← primary ctx fuel ts
      multiplicativeRest ctx fuel (.arithmetic op left right) ts

/-- A parenthesized expression, a literal, a call, a conditional or a member path. -/
def primary (ctx : Context) : Nat → Parser Expr
  | 0, ts => .error (ctx.expectedOperand ts)
  | _, [] => .error (ctx.expectedOperand [])
  | fuel + 1, t :: rest =>
    match t.kind with
    | .leftParen => do
      let (inner, ts) ← orExpr ctx fuel rest
      let ts ← ctx.expect .rightParen ts
      .ok (inner, ts)
    | .literal value => .ok (.literal value, rest)
    | .identifier name =>
      if isOperatorWord name then .error (ctx.expectedOperand (t :: rest))
      else
        match eat? .leftParen rest with
        | some ts =>
          if Text.asciiLower name = "case" then caseBranches ctx fuel [] none ts
          else do
            let (args, ts) ← arguments ctx fuel ts
            let call ← ctx.resolvers.resolveMethod builtin ⟨Text.asciiLower name, args, false, none⟩
            .ok (call, ts)
        | none => do
          let (segments, ts) ← pathSegments ctx [name] rest.length rest
          .ok (memberField ctx segments, ts)
    | _ => .error (ctx.expectedOperand (t :: rest))

/-- Arguments up to the closing parenthesis, possibly none. -/
def arguments (ctx : Context) : Nat → Parser (List Expr)
  | 0, ts => .error (ctx.expectedOperand ts)
  | fuel + 1, ts =>
    match eat? .rightParen ts with
    | some ts => .ok ([], ts)
    | none => moreArguments ctx fuel ts

/-- One or more arguments up to the closing parenthesis. -/
def moreArguments (ctx : Context) : Nat → Parser (List Expr)
  | 0, ts => .error (ctx.expectedOperand ts)
  | fuel + 1, ts => do
    let (arg, ts) ← orExpr ctx fuel ts
    match eat? .comma ts with
    | some ts =>
      let (args, ts) ← moreArguments ctx fuel ts
      .ok (arg :: args, ts)
    | none =>
      let ts ← ctx.expect .rightParen ts
      .ok ([arg], ts)

/-- Branches of a conditional up to the closing parenthesis; nothing follows a default. -/
def caseBranches (ctx : Context) :
    Nat → List (Expr × Expr) → Option Expr → Parser Expr
  | 0, _, _, ts => .error (ctx.expectedOperand ts)
  | fuel + 1, branches, default, ts =>
    if default.isSome then .error (ctx.unexpected ts)
    else do
      let (condition, ts) ← orExpr ctx fuel ts
      let ts ← ctx.expect .colon ts
      let (value, ts) ← orExpr ctx fuel ts
      let default := if isDefaultMark condition then some value else none
      let branches := if isDefaultMark condition then branches else branches ++ [(condition, value)]
      match eat? .comma ts with
      | some ts => caseBranches ctx fuel branches default ts
      | none =>
        let ts ← ctx.expect .rightParen ts
        .ok (caseOf branches default, ts)

end

/-- A bound on the nesting of calls while a token list is read. -/
def depthBound (ts : List Token) : Nat := 10 * ts.length + 20

/-- An expression at the front of a token list. -/
def expression (ctx : Context) : Parser Expr := fun ts => orExpr ctx (depthBound ts) ts

/-- Further items after one, each behind a comma. -/
def moreItems {α : Type} (item : Parser α) : Nat → Parser (List α)
  | 0, ts => .ok ([], ts)
  | fuel + 1, ts =>
    match eat? .comma ts with
    | none => .ok ([], ts)
    | some ts => do
      let (x, ts) ← item ts
      let (xs, ts) ← moreItems item fuel ts
      .ok (x :: xs, ts)

/-- One or more items with commas between them. -/
def commaSeparated {α : Type} (item : Parser α) : Parser (List α) := fun ts => do
  let (x, ts) ← item ts
  let (xs, ts) ← moreItems item ts.length ts
  .ok (x :: xs, ts)

/-- Read a whole text. -/
def parseText {α : Type} (resolvers : Resolvers) (item : Context → Parser α) (text : List Char) :
    QueryResult α := do
  let ts ← (tokenize text).mapError .syntaxError
  let ctx : Context := ⟨resolvers, Text.byteLength text⟩
  let (x, ts) ← item ctx ts
  ctx.finish ts
  .ok x

/-- Read a filter. -/
def parseFilter (resolvers : Resolvers) (text : List Char) : QueryResult Expr :=
  parseText resolvers expression text

end Polyquery.OData
