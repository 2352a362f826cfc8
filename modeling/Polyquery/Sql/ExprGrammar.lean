import Polyquery.Sql.CallGrammar

/-!
# The grammar of SQL expressions

Operator precedence over lexemes.  An expression is an operand with the operators that bind it more
tightly than what surrounds it.

* `wordForm` - the forms that a word of their own starts;
* `operand` - an operand with its leading operators;
* `readings` - the readings of one level, from those one level further down;
* `subexpression` - an operand and the operators behind it.

A word with a form of its own is read as a plain name where that form does not fit, unless the word
is reserved.
-/

namespace Polyquery.Sql

/-! ### Forms with words of their own -/

/-- The rest of a case, behind its first word. -/
def caseBody (r : Readings) : Parse Tree := do
  let operand ←
    if ← keyword? "WHEN" then pure none
    else
      let operand ← r.expression
      expectKeyword "WHEN"
      pure (some operand)
  let branch : Parse (Tree × Tree) := do
    let condition ← r.expression
    expectKeyword "THEN"
    return (condition, ← r.expression)
  let first ← branch
  let more ← repeated (do
    if ← keyword? "WHEN" then return some (← branch) else return none) (← remaining)
  let otherwise ← if ← keyword? "ELSE" then pure (some (← r.expression)) else pure none
  expectKeyword "END"
  return .case operand (first :: more) otherwise

/-- The format of a conversion to a type, worded. -/
def castFormat : Parse String := do
  if ← keyword? "FORMAT" then
    let format ← constant
    if ← keywords? ["AT", "TIME", "ZONE"] then
      return " FORMAT " ++ format.render ++ " AT TIME ZONE " ++ (← constant).render
    else return " FORMAT " ++ format.render
  else return ""

/-- The rest of a conversion to a type. -/
def castBody (d : DialectName) (r : Readings) (word : String) : Parse Tree :=
  inParens do
    let operand ← r.expression
    expectKeyword "AS"
    let (type, _) ← typeName d
    let format ← castFormat
    return .other (word ++ "(" ++ operand.text ++ " AS " ++ type ++ format ++ ")")

/-- The rest of a conversion by character set or type. -/
def convertBody (d : DialectName) (r : Readings) (word : String) : Parse Tree :=
  inParens do
    let operand ← r.expression
    if ← keyword? "USING" then
      let charset ← objectName
      return .other (word ++ "(" ++ operand.text ++ " USING " ++ pathText charset ++ ")")
    else
      expectSymbol ","
      let (type, _) ← typeName d
      let charset ←
        if ← keywords? ["CHARACTER", "SET"] then
          pure (" CHARACTER SET " ++ pathText (← objectName))
        else pure ""
      return .other (word ++ "(" ++ operand.text ++ ", " ++ type ++ charset ++ ")")

/-- The rest of a test for rows. -/
def existsBody (r : Readings) (negated : Bool) : Parse Tree :=
  inParens do
    let query ← r.query
    return .other (negation negated ++ "EXISTS (" ++ query.text ++ ")")

/-- The rest of an extraction of a part of a date. -/
def extractBody (d : DialectName) (r : Readings) : Parse Tree :=
  inParens do
    let field ← dateField d
    let separator ←
      if ← keyword? "FROM" then pure " FROM "
      else if d = .generic then
        expectSymbol ","
        pure ", "
      else refuse
    return .extract field separator (← r.expression)

/-- The rest of a rounding to whole numbers. -/
def roundingBody (d : DialectName) (r : Readings) (word : String) : Parse Tree :=
  inParens do
    let operand ← r.expression
    if ← keyword? "TO" then return .rounding word operand (" TO " ++ (← dateField d))
    else if ← symbol? "," then
      match ← constant with
      | .number digits long =>
        return .rounding word operand (", " ++ (Constant.number digits long).render)
      | _ => refuse
    else return .rounding word operand ""

/-- The rest of a search for a text in another. -/
def positionBody (d : DialectName) (r : Readings) (name : Ident) : Parse Tree := do
  let found ← attempt (inParens do
    let needle ← r.subexpression (rank d .between)
    expectKeyword "IN"
    let text ← r.expression
    return Tree.other ("POSITION(" ++ needle.text ++ " IN " ++ text.text ++ ")"))
  match found with
  | some tree => return tree
  | none => functionCall d r [name]

/-- The rest of a part of a text. -/
def substringBody (r : Readings) : Parse Tree :=
  inParens do
    let operand ← r.expression
    let special ← symbol? ","
    let start ←
      if special then pure (some (← r.expression))
      else do
        if ← keyword? "FROM" then pure (some (← r.expression)) else pure none
    let bounded ← if ← keyword? "FOR" then pure true else symbol? ","
    let length ← if bounded then pure (some (← r.expression)) else pure none
    return .substring special operand start length

/-- The rest of a replacement in a text. -/
def overlayBody (r : Readings) : Parse Tree :=
  inParens do
    let operand ← r.expression
    expectKeyword "PLACING"
    let what ← r.expression
    expectKeyword "FROM"
    let start ← r.expression
    let length ← if ← keyword? "FOR" then pure (" FOR " ++ (← r.expression).text) else pure ""
    return .other ("OVERLAY(" ++ operand.text ++ " PLACING " ++ what.text ++ " FROM " ++
      start.text ++ length ++ ")")

/-- The rest of a removal of characters at the ends of a text. -/
def trimBody (d : DialectName) (r : Readings) : Parse Tree :=
  inParens do
    let side ← oneOf? ["BOTH", "LEADING", "TRAILING"]
    let sideText := (side.map fun s => s ++ " ").getD ""
    let first ← r.expression
    if ← keyword? "FROM" then
      let operand ← r.expression
      return .other ("TRIM(" ++ sideText ++ first.text ++ " FROM " ++ operand.text ++ ")")
    else
      let comma ← symbol? ","
      if comma && d = .generic then return .trim first (← commaSeparated r.expression)
      else if side.isSome then return .other ("TRIM(" ++ sideText ++ first.text ++ ")")
      else return .trim first []

/-- Entries with colons between their two sides, up to the closing brace. -/
def bracedEntries (key : Parse String) (r : Readings) : Parse String := do
  let entries ← commaSeparated do
    let key ← key
    expectSymbol ":"
    return key ++ ": " ++ (← r.expression).text
  expectSymbol "\x7d"
  return "\x7b" ++ commas entries ++ "\x7d"

/-- The rest of a map, behind its word. -/
def mapBody (r : Readings) : Parse Tree := do
  expectSymbol "\x7b"
  if ← symbol? "\x7d" then return .other "MAP \x7b\x7d"
  else return .other ("MAP " ++ (← bracedEntries (do return (← r.expression).text) r))

/-- What stands between braces: a call behind `fn`, or named entries. -/
def bracedBody (d : DialectName) (r : Readings) : Parse Tree := do
  let called ← attempt do
    expectKeyword "FN"
    callParts d r (← objectName)
  match called with
  | some (head, arguments) =>
    expectSymbol "\x7d"
    return .call { head with braced := true } arguments
  | none =>
    if d = .generic then
      return .other (← bracedEntries (do return (← identifier).text) r)
    else refuse

/-- The rest of a record: values, with names where the fields have no types in front. -/
def recordBody (d : DialectName) (r : Readings) : Parse Tree := do
  let (fields, closesOuter) ← structFields (typeWithin d (← remaining))
  if closesOuter then refuse
  else
    let values ← inParens (commaSeparated do
      let value ← r.expression
      if ← keyword? "AS" then
        if fields.isEmpty then return value.text ++ " AS " ++ (← identifier).text else refuse
      else return value.text)
    let types := if fields.isEmpty then "" else "<" ++ commas fields ++ ">"
    return .other ("STRUCT" ++ types ++ "(" ++ commas values ++ ")")

/-- The rest of an array, behind its opening bracket. -/
def arrayBody (r : Readings) (word : String) : Parse Tree := do
  if ← symbol? "]" then return .other (word ++ "[]")
  else
    let items ← commaSeparated r.expression
    expectSymbol "]"
    return .other (word ++ "[" ++ commas (items.map Tree.text) ++ "]")

/-- A negation, behind its word. -/
def negationBody (d : DialectName) (r : Readings) : Parse Tree := do
  if ← keyword? "EXISTS" then existsBody r true
  else return .unary .not (← r.subexpression (rank d .not))

/-- The rest of a full-text search. -/
def matchBody : Parse Tree := do
  let columns ← identifiersInParens
  expectKeyword "AGAINST"
  expectSymbol "("
  let value ← constant
  let mode ←
    if ← keywords? ["IN", "NATURAL", "LANGUAGE", "MODE"] then
      if ← keywords? ["WITH", "QUERY", "EXPANSION"] then
        pure " IN NATURAL LANGUAGE MODE WITH QUERY EXPANSION"
      else pure " IN NATURAL LANGUAGE MODE"
    else do
      if ← keywords? ["IN", "BOOLEAN", "MODE"] then pure " IN BOOLEAN MODE"
      else do
        if ← keywords? ["WITH", "QUERY", "EXPANSION"] then pure " WITH QUERY EXPANSION"
        else pure ""
  expectSymbol ")"
  return .other ("MATCH (" ++ commas (columns.map Ident.text) ++ ") AGAINST (" ++
    value.render ++ mode ++ ")")

/-! ### Operands -/

/-- A constant of a type named in front of it, or a duration. -/
def typedConstant (d : DialectName) (r : Readings) : Parse Tree := do
  let (type, kind) ← typeName d
  match kind with
  | .interval => intervalBody d r
  | .custom => refuse
  | .builtIn => return .other (type ++ " " ++ inQuotes '\'' (← literalString d))

/-- The form of its own that a word starts, if it starts one; the word has been taken. -/
def wordForm (d : DialectName) (r : Readings) (name : Ident) : Parse (Option Tree) := do
  let some' : Parse Tree → Parse (Option Tree) := fun p => do return some (← p)
  match ((Lexeme.word name).keyword?).getD "" with
  | "TRUE" => return some (.constant (.bool true))
  | "FALSE" => return some (.constant (.bool false))
  | "NULL" => return some (.constant .null)
  | "CURRENT_CATALOG" | "CURRENT_USER" | "SESSION_USER" | "USER" =>
    if d = .generic || d = .postgres then return some (.call (.of [name] .bare) [])
    else return none
  | "CURRENT_TIMESTAMP" | "CURRENT_TIME" | "CURRENT_DATE" | "LOCALTIME" | "LOCALTIMESTAMP" =>
    some' (timeFunction d r name)
  | "CASE" => some' (caseBody r)
  | "CONVERT" => some' (convertBody d r "CONVERT")
  | "TRY_CONVERT" => if d = .generic then some' (convertBody d r "TRY_CONVERT") else return none
  | "CAST" => some' (castBody d r "CAST")
  | "TRY_CAST" => some' (castBody d r "TRY_CAST")
  | "SAFE_CAST" => some' (castBody d r "SAFE_CAST")
  | "EXISTS" => some' (existsBody r false)
  | "EXTRACT" => some' (extractBody d r)
  | "CEIL" => some' (roundingBody d r "CEIL")
  | "FLOOR" => some' (roundingBody d r "FLOOR")
  | "POSITION" => if symbolAhead "(" (← get) then some' (positionBody d r name) else return none
  | "SUBSTRING" => some' (substringBody r)
  | "OVERLAY" => some' (overlayBody r)
  | "TRIM" => some' (trimBody d r)
  | "INTERVAL" => some' (intervalBody d r)
  | "PRIOR" =>
    if r.prior then
      return some (.other ("PRIOR " ++ (← r.subexpression (rank d .additive)).text))
    else return none
  | "ARRAY" =>
    if ← symbol? "[" then some' (arrayBody r "ARRAY")
    else if ← symbol? "(" then
      let query ← r.query
      expectSymbol ")"
      return some (.call (.of [name] (.subquery query.text)) [])
    else return none
  | "NOT" => some' (negationBody d r)
  | "MATCH" => if d = .generic || d = .mySql then some' matchBody else return none
  | "STRUCT" => if d = .generic then some' (recordBody d r) else return none
  | "MAP" =>
    if d = .generic && symbolAhead "\x7b" (← get) then some' (mapBody r) else return none
  | _ => return none

/-- Words that are never plain names. -/
def reservedWords : List String := ["EXISTS", "INTERVAL", "STRUCT", "TRIM"]

/-- A plain name, a path or a call; the name in front has been taken. -/
def nameForm (d : DialectName) (r : Readings) (name : Ident) : Parse Tree := do
  match ← get with
  | .symbol "(" :: _ => functionCall d r [name]
  | .symbol "." :: _ =>
    let more ← repeated (do
      match ← get with
      | .symbol "." :: .word next :: rest =>
        set rest
        return some next
      | .symbol "." :: .text .single value :: rest =>
        set rest
        return some ⟨value, some '\''⟩
      | _ => return none) (← remaining)
    let names := name :: more
    match ← get with
    | .symbol "." :: .symbol "*" :: rest =>
      if d = .postgres then
        set rest
        return .other (pathText names ++ ".*")
      else refuse
    | .symbol "." :: _ => refuse
    | .symbol "(" :: _ => functionCall d r names
    | _ => return .path names
  | .text kind value :: rest =>
    if name.value.startsWith "_" && [TextKind.single, .double, .hex].contains kind then
      set rest
      return .other (name.value ++ " " ++ kind.render value)
    else return .name name
  | _ => return .name name

/-- An operand with the collation behind it, if there is one. -/
def collated (operand : Tree) : Parse Tree := do
  if ← keyword? "COLLATE" then
    return .other (operand.text ++ " COLLATE " ++ pathText (← objectName))
  else return operand

/-- An operand that starts with a word, which has been taken.  No collation follows a name that is
read because the form of its own does not fit. -/
def wordOperand (d : DialectName) (r : Readings) (name : Ident) : Parse Tree := fun start =>
  match wordForm d r name start with
  | .ok (some tree, rest) => collated tree rest
  | .ok (none, _) => (do collated (← nameForm d r name)) start
  | .error refusal =>
    if (Lexeme.word name).isOneOf reservedWords then .error refusal
    else
      match nameForm d r name start with
      | .ok read => .ok read
      | .error _ => .error refusal

/-- What stands in parentheses: a query, an expression or several. -/
def parenthesized (r : Readings) : Parse Tree := do
  let inner ←
    if queryAhead (← get) then pure (.subquery (← r.query).text)
    else
      match ← commaSeparated r.expression with
      | [single] => pure (.nested single)
      | several => pure (.other ("(" ++ commas (several.map Tree.text) ++ ")"))
  expectSymbol ")"
  if ← symbol? "." then
    match ← take with
    | .word key => return .other (inner.text ++ "." ++ key.text)
    | _ => refuse
  else return inner

/-- Operators that stand in front of their operand in PostgreSQL. -/
def postgresSigns : List String := ["!!", "|/", "||/", "@", "~"]

/-- An operand that starts with a symbol, which has been taken. -/
def symbolOperand (d : DialectName) (r : Readings) (symbol : String) : Parse Tree := do
  if symbol = "(" then parenthesized r
  else if symbol = "\x7b" then bracedBody d r
  else if symbol = "-" then return .unary .minus (← r.subexpression (rank d .multiplicative))
  else if symbol = "+" then return .unary .plus (← r.subexpression (rank d .multiplicative))
  else if d = .postgres && postgresSigns.contains symbol then
    return .unary (.other symbol) (← r.subexpression (rank d .additive))
  else if symbol = "[" then arrayBody r ""
  else if symbol = ":" || symbol = "@" then return .constant (← markedPlaceholder symbol)
  else refuse

/-- An operand without a type in front. -/
def plainOperand (d : DialectName) (r : Readings) : Parse Tree := do
  match ← take with
  | .word name => wordOperand d r name
  | .symbol symbol => collated (← symbolOperand d r symbol)
  | .number digits long => collated (.constant (.number digits long))
  | .text kind value =>
    match kind with
    | .escaped =>
      if d = .generic || d = .postgres then collated (.constant (.text kind value)) else refuse
    | _ => collated (.constant (.text kind value))
  | .placeholder text => collated (.constant (.placeholder text))
  | .customOperator _ => refuse

/-- An operand whose forms nest at most so many times on one level. -/
def operandWithin (d : DialectName) (r : Deeper) : Nat → Parse Tree
  | 0 => refuse
  | n + 1 => do
    let r : Readings := ⟨r, operandWithin d r n⟩
    match ← attempt (typedConstant d r) with
    | some tree => return tree
    | none => plainOperand d r

/-- An operand with its leading operators. -/
def operand (d : DialectName) (r : Deeper) : Parse Tree := do
  operandWithin d r (← remaining)

/-- The readings of a level, from those one level further down. -/
def readings (d : DialectName) (r : Deeper) : Readings := ⟨r, operand d r⟩

/-! ### Operators -/

/-- The operator a symbol stands for between two operands. -/
def binarySymbol? (d : DialectName) (symbol : String) : Option BinaryOp :=
  match symbol with
  | "=" | "==" => some (.compare .eq)
  | "<>" | "!=" => some (.compare .ne)
  | ">" => some (.compare .gt)
  | ">=" => some (.compare .gte)
  | "<" => some (.compare .lt)
  | "<=" => some (.compare .lte)
  | "+" => some (.arithmetic .add)
  | "-" => some (.arithmetic .subtract)
  | "*" => some (.arithmetic .multiply)
  | "/" => some (.arithmetic .divide)
  | "%" => some (.arithmetic .modulo)
  | "<<" | ">>" | "&&" | "^@" =>
    if d = .generic || d = .postgres then some (.other symbol) else none
  | "#" => if d = .postgres then some (.other symbol) else none
  | "!" | "::" | "[" => none
  | _ => if (symbolLevel? d symbol).isSome then some (.other symbol) else none

/-- The operator between two operands that stands in front, if one does. -/
def binaryOperator? (d : DialectName) : Parse (Option (BinaryOp ⊕ ChainOp)) := do
  match ← get with
  | .symbol "||" :: rest =>
    set rest
    return some (.inr .concat)
  | .symbol symbol :: rest =>
    match binarySymbol? d symbol with
    | some op =>
      set rest
      return some (.inl op)
    | none => return none
  | .customOperator text :: rest =>
    set rest
    return some (.inl (.other text))
  | l :: rest =>
    match l.keyword? with
    | some "AND" =>
      set rest
      return some (.inr (.logical .and))
    | some "OR" =>
      set rest
      return some (.inr (.logical .or))
    | some "XOR" =>
      set rest
      return some (.inl (.other "XOR"))
    | _ => return none
  | [] => return none

/-- The rest of an operator named with its schema, of which any lexeme may be a part. -/
def namedOperator : Parse BinaryOp := do
  let parts ← inParens do
    let first ← take
    let more ← repeated (do
      if ← symbol? "." then return some (← take) else return none) (← remaining)
    return first :: more
  return .other ("OPERATOR(" ++ ".".intercalate (parts.map Lexeme.spelled) ++ ")")

/-- A comparison with any or all of several values, behind its operator. -/
def quantified (r : Readings) (strength : Nat) (left : Tree) (op : BinaryOp) (word : String) :
    Parse Tree := do
  let start ← get
  expectSymbol "("
  let right ←
    if queryAhead (← get) then
      set start
      r.subexpression strength
    else
      let right ← r.subexpression strength
      expectSymbol ")"
      pure right
  let rightText := match right with
    | .subquery _ => right.text
    | _ => "(" ++ right.text ++ ")"
  match op with
  | .compare _ => return .other (left.text ++ " " ++ op.text ++ " " ++ word ++ rightText)
  | _ => refuse

/-- The right side of an operator between two operands. -/
def rightSide (r : Readings) (strength : Nat) (left : Tree) (op : BinaryOp ⊕ ChainOp) :
    Parse Tree := do
  match ← oneOf? ["ANY", "ALL", "SOME"] with
  | some word =>
    match op with
    | .inl op => quantified r strength left op word
    | .inr _ => refuse
  | none =>
    let right ← r.subexpression strength
    match op with
    | .inl op => return .binary op left right
    | .inr op => return .joined op left right

/-- The rest of a test behind `IS`. -/
def isTest (r : Readings) (left : Tree) : Parse Tree := do
  let test : String → Parse Tree := fun words => return .other (left.text ++ " IS " ++ words)
  if ← keyword? "NULL" then return .isNull false left
  else if ← keywords? ["NOT", "NULL"] then return .isNull true left
  else if ← keyword? "TRUE" then test "TRUE"
  else if ← keywords? ["NOT", "TRUE"] then test "NOT TRUE"
  else if ← keyword? "FALSE" then test "FALSE"
  else if ← keywords? ["NOT", "FALSE"] then test "NOT FALSE"
  else if ← keyword? "UNKNOWN" then test "UNKNOWN"
  else if ← keywords? ["NOT", "UNKNOWN"] then test "NOT UNKNOWN"
  else if ← keywords? ["DISTINCT", "FROM"] then
    test ("DISTINCT FROM " ++ (← r.expression).text)
  else if ← keywords? ["NOT", "DISTINCT", "FROM"] then
    test ("NOT DISTINCT FROM " ++ (← r.expression).text)
  else refuse

/-- The rest of a membership test. -/
def inTest (d : DialectName) (r : Readings) (left : Tree) (negated : Bool) : Parse Tree := do
  let worded : String → Tree := fun rest =>
    .other (left.text ++ " " ++ negation negated ++ "IN " ++ rest)
  if ← keyword? "UNNEST" then
    let array ← inParens r.expression
    return worded ("UNNEST(" ++ array.text ++ ")")
  else
    expectSymbol "("
    if queryAhead (← get) then
      let query ← r.query
      expectSymbol ")"
      return worded ("(" ++ query.text ++ ")")
    else
      let items ←
        if d = .sqlite && symbolAhead ")" (← get) then pure []
        else commaSeparated r.expression
      expectSymbol ")"
      return .inList negated left items

/-- An escape character behind a pattern, if there is one. -/
def escapeMark (d : DialectName) : Parse (Option String) := do
  if ← keyword? "ESCAPE" then return some (← literalString d) else return none

/-- The rest of a test that a word announces, perhaps negated. -/
def wordTest (d : DialectName) (r : Readings) (left : Tree) : Parse Tree := do
  let negated ← keyword? "NOT"
  let pattern := r.subexpression (rank d .like)
  let regexp ← keyword? "REGEXP"
  if (← keyword? "RLIKE") || regexp then
    return .other (left.text ++ " " ++ negation negated ++
      (if regexp then "REGEXP " else "RLIKE ") ++ (← pattern).text)
  match ← oneOf? ["IN", "BETWEEN", "LIKE", "ILIKE", "SIMILAR"] with
  | some "IN" => inTest d r left negated
  | some "BETWEEN" =>
    let low ← r.subexpression (rank d .between)
    expectKeyword "AND"
    return .between negated left low (← r.subexpression (rank d .between))
  | some "LIKE" =>
    let any ← keyword? "ANY"
    let pattern ← pattern
    return .like negated false any left pattern (← escapeMark d)
  | some "ILIKE" =>
    let any ← keyword? "ANY"
    let pattern ← pattern
    return .like negated true any left pattern (← escapeMark d)
  | some "SIMILAR" =>
    expectKeyword "TO"
    let pattern ← pattern
    let escape ← escapeMark d
    return .other (left.text ++ " " ++ negation negated ++ "SIMILAR TO " ++ pattern.text ++
      escapeClause escape)
  | _ => refuse

/-- A bound of a slice, or nothing in front of the closing bracket, which is taken. -/
def sliceBound (r : Readings) : Parse (Option Tree) := do
  if ← symbol? "]" then return none else return some (← r.expression)

/-- The rest of a slice of an array, behind the colon that follows its first bound. -/
def sliceRest (r : Readings) : Parse String := do
  match ← sliceBound r with
  | none => return ""
  | some upper =>
    if ← symbol? "]" then return upper.text
    else
      expectSymbol ":"
      match ← sliceBound r with
      | none => return upper.text
      | some stride =>
        expectSymbol "]"
        return upper.text ++ ":" ++ stride.text

/-- The rest of an element or slice of an array, behind its opening bracket. -/
def subscript (d : DialectName) (r : Readings) (left : Tree) : Parse Tree := do
  let element : String → Parse Tree := fun text => return .other (left.text ++ "[" ++ text ++ "]")
  if ← onlyIf (d ≠ .mySql) (symbol? ":") then element (":" ++ (← sliceRest r))
  else
    let lower ← r.expression
    if ← symbol? "]" then element lower.text
    else if d = .mySql then refuse
    else
      expectSymbol ":"
      element (lower.text ++ ":" ++ (← sliceRest r))

/-- An operator of the given strength applied to what stands before it. -/
def operatorStep (d : DialectName) (r : Readings) (strength : Nat) (left : Tree) : Parse Tree := do
  let start ← get
  match ← binaryOperator? d with
  | some op => rightSide r strength left op
  | none =>
    match start with
    | .symbol "::" :: rest =>
      set rest
      let (type, _) ← typeName d
      return .other (left.text ++ "::" ++ type)
    | .symbol "!" :: rest =>
      if d = .postgres then
        set rest
        return .unary (.after "!") left
      else refuse
    | .symbol "[" :: rest =>
      set rest
      subscript d r left
    | l :: rest =>
      match l.keyword? with
      | some "OPERATOR" =>
        if d = .generic || d = .postgres then
          set rest
          rightSide r strength left (.inl (← namedOperator))
        else refuse
      | some "DIV" =>
        if d = .mySql then
          set rest
          return .binary (.other "DIV") left (← r.expression)
        else refuse
      | some "IS" =>
        set rest
        isTest r left
      | some "AT" =>
        expectKeywords ["AT", "TIME", "ZONE"]
        let zone ← r.subexpression strength
        return .other (left.text ++ " AT TIME ZONE " ++ zone.text)
      | some "REGEXP" =>
        if d = .sqlite then
          set rest
          return .binary (.other "REGEXP") left (← r.expression)
        else wordTest d r left
      | _ => wordTest d r left
    | [] => refuse

/-- The operators behind an operand that bind more tightly than the given strength. -/
def operatorChain (d : DialectName) (r : Readings) (strength : Nat) : Nat → Tree → Parse Tree
  | 0, left => return left
  | n + 1, left => do
    let next := precedence d (← get)
    if next ≤ strength then return left
    else operatorChain d r strength n (← operatorStep d r next left)

/-- An operand and the operators behind it that bind more tightly than the given strength. -/
def subexpression (d : DialectName) (r : Readings) (strength : Nat) : Parse Tree := do
  let left ← r.operand
  operatorChain d r strength (← remaining) left

end Polyquery.Sql
