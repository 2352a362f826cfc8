import Polyquery.Sql.DefinitionGrammar

/-!
# The grammar of SQL statements

Only queries have a meaning here.  Every other statement is read to know that it is one, and then
stands for its kind alone.

* `statement` - a statement;
* `statements?` - the statements of a text;
* `expression?` - the expression at the front of a text.
-/

namespace Polyquery.Sql

/-- The number of levels that expressions, queries and statements may nest. -/
def nestingLimit : Nat := 50

/-! ### Transactions -/

/-- How a transaction ends. -/
def endOfTransaction : Parse Unit := do
  skip (oneOf? ["TRANSACTION", "WORK"])
  skipBehind "AND" do
    skip (keyword? "NO")
    expectKeyword "CHAIN"

/-- A mode of a transaction, if one stands in front. -/
def transactionMode? : Parse Bool := do
  if ← keywords? ["ISOLATION", "LEVEL"] then
    if ← oneOfPhrases? [["READ", "UNCOMMITTED"], ["READ", "COMMITTED"], ["REPEATABLE", "READ"],
        ["SERIALIZABLE"], ["SNAPSHOT"]] then return true
    else refuse
  else oneOfPhrases? [["READ", "ONLY"], ["READ", "WRITE"]]

/-- The modes of a transaction; commas between them may be left out, but not stand alone. -/
def transactionModes : Nat → Bool → Parse Unit
  | 0, _ => refuse
  | n + 1, required => do
    if ← transactionMode? then transactionModes n (← symbol? ",")
    else if required then refuse

/-- The rest of a statement about a transaction. -/
def transactionBody (d : DialectName) (word : String) : Parse Unit := do
  let bound ← remaining
  match word with
  | "BEGIN" =>
    if d = .generic || d = .sqlite then skip (oneOf? ["DEFERRED", "IMMEDIATE", "EXCLUSIVE"])
    skip (oneOf? ["TRANSACTION", "WORK"])
    transactionModes (bound + 1) false
  | "START" =>
    expectKeyword "TRANSACTION"
    transactionModes (bound + 1) false
  | "ROLLBACK" =>
    endOfTransaction
    skipBehind "TO" do
      skip (keyword? "SAVEPOINT")
      skip identifier
  | "SAVEPOINT" => skip identifier
  | "RELEASE" =>
    skip (keyword? "SAVEPOINT")
    skip identifier
  | _ => endOfTransaction

/-! ### Settings -/

/-- The value of a setting, which may be a query without parentheses. -/
def settingValue (r : Readings) : Parse Unit := do
  if queryAhead (← get) then skip r.query else skip r.expression

/-- The character set of the connection. -/
def connectionCharset (d : DialectName) : Parse Unit := do
  unless ← keyword? "DEFAULT" do
    skip (literalString d)
    skipBehind "COLLATE" (literalString d)

/-- The rest of an assignment of one setting, behind its name. -/
def namedSetting (d : DialectName) (r : Readings) (modified : Bool) (name : String) :
    Parse Unit := do
  let bound ← remaining
  if (d = .generic || d = .mySql) && Text.lower name = "names" then connectionCharset d
  else if ← symbol? "=" then skip (commaSeparated (settingValue r))
  else if ← keyword? "TO" then skip (commaSeparated (settingValue r))
  else if Text.lower name = "timezone" then skip r.expression
  else if name = "CHARACTERISTICS" then
    expectKeywords ["AS", "TRANSACTION"]
    transactionModes (bound + 1) false
  else if name = "TRANSACTION" && !modified then
    if ← keyword? "SNAPSHOT" then skip constant else transactionModes (bound + 1) false
  else refuse

/-- The rest of an assignment of several settings at once. -/
def tupleSetting (r : Readings) : Parse Unit := do
  columnList false
  unless ← symbol? "=" do expectKeyword "TO"
  skip (inParens (commaSeparated (settingValue r)))

/-- The rest of an assignment of a setting. -/
def setBody (d : DialectName) (r : Readings) : Parse Unit := do
  let modifier ← oneOf? ["SESSION", "LOCAL", "HIVEVAR"]
  let role ←
    if modifier = some "HIVEVAR" then
      expectSymbol ":"
      pure none
    else
      attempt do
        expectKeyword "ROLE"
        skip identifier
  if role.isNone then
    if ← keywords? ["TIME", "ZONE"] then namedSetting d r modifier.isSome "TIMEZONE"
    else if d = .generic && symbolAhead "(" (← get) then tupleSetting r
    else namedSetting d r modifier.isSome (pathText (← objectName))

/-! ### Showing -/

/-- A filter on what is shown, if there is one. -/
def shownFilter (d : DialectName) (r : Readings) : Parse Unit := do
  if (← oneOf? ["LIKE", "ILIKE"]).isSome then skip (literalString d)
  else if ← keyword? "WHERE" then skip r.expression
  else skip (attempt (literalString d))

/-- The object whose parts are shown, if there is one. -/
def shownParent : Parse Unit := do
  if (← oneOf? ["FROM", "IN"]).isSome then
    if (← oneOf? ["ACCOUNT", "DATABASE", "SCHEMA", "TABLE", "VIEW"]).isSome then
      skip (attempt objectName)
    else
      skip objectName
      if (← oneOf? ["FROM", "IN"]).isSome then skip identifier

/-- What is shown of the objects of one kind. -/
def shownObjects (d : DialectName) (r : Readings) : Parse Unit := do
  shownParent
  shownFilter d r
  if ← keywords? ["STARTS", "WITH"] then skip constant
  skipBehind "LIMIT" do
    unless ← keyword? "ALL" do skip r.expression
  skipBehind "FROM" constant

/-- The name of a setting that is shown: every lexeme up to an equals sign or the end. -/
def shownSetting : Parse Unit := do
  set ((← get).dropWhile fun l => l != .symbol "=")

/-- The rest of a statement that shows something. -/
def showBody (d : DialectName) (r : Readings) : Parse Unit := do
  skip (keyword? "TERSE")
  let extended ← keyword? "EXTENDED"
  let full ← keyword? "FULL"
  skip (keyword? "SESSION")
  skip (keyword? "GLOBAL")
  skip (keyword? "EXTERNAL")
  if (← oneOf? ["COLUMNS", "FIELDS", "TABLES", "VIEWS"]).isSome then shownObjects d r
  else if ← keywords? ["MATERIALIZED", "VIEWS"] then shownObjects d r
  else if ← keyword? "FUNCTIONS" then shownFilter d r
  else if extended || full then refuse
  else if ← keyword? "CREATE" then
    skip (expectOneOf ["TABLE", "TRIGGER", "FUNCTION", "PROCEDURE", "EVENT", "VIEW"])
    skip objectName
  else if ← keyword? "COLLATION" then shownFilter d r
  else if (← oneOf? ["VARIABLES", "STATUS"]).isSome && (d = .generic || d = .mySql) then
    shownFilter d r
  else if (← oneOf? ["DATABASES", "SCHEMAS"]).isSome then shownObjects d r
  else shownSetting

/-! ### Access -/

/-- A privilege on an object, perhaps for some of its columns. -/
def privilege : Parse Unit := do
  let word ← expectOneOf ["CONNECT", "CREATE", "DELETE", "EXECUTE", "INSERT", "REFERENCES",
    "SELECT", "TEMPORARY", "TRIGGER", "TRUNCATE", "UPDATE", "USAGE"]
  if ["INSERT", "REFERENCES", "SELECT", "UPDATE"].contains word then optionalColumnList false

/-- The privileges and objects of a statement about access. -/
def privilegesOnObjects : Parse Unit := do
  if ← keyword? "ALL" then skip (keyword? "PRIVILEGES")
  else skip (commaSeparated privilege)
  expectKeyword "ON"
  unless ← oneOfPhrases? [["ALL", "TABLES", "IN", "SCHEMA"],
      ["ALL", "SEQUENCES", "IN", "SCHEMA"]] do
    skip (oneOf? ["SEQUENCE", "SCHEMA", "TABLE"])
  skip (commaSeparated objectName)

/-- Who grants a privilege. -/
def grantor : Parse Unit := do
  if ← keywords? ["GRANTED", "BY"] then skip identifier

/-- The rest of a grant of privileges. -/
def grantBody : Parse Unit := do
  privilegesOnObjects
  expectKeyword "TO"
  skip (commaSeparated identifier)
  skip (keywords? ["WITH", "GRANT", "OPTION"])
  grantor

/-- The rest of a withdrawal of privileges. -/
def revokeBody : Parse Unit := do
  privilegesOnObjects
  expectKeyword "FROM"
  skip (commaSeparated identifier)
  grantor
  dependents

/-! ### Tables and engines -/

/-- The rest of a statement that empties tables. -/
def truncateBody (d : DialectName) (r : Readings) : Parse Unit := do
  skip (keyword? "TABLE")
  skip (keyword? "ONLY")
  skip (commaSeparated objectName)
  skipBehind "PARTITION" (partitionKeys r)
  if d = .generic || d = .postgres then
    skip (oneOfPhrases? [["RESTART", "IDENTITY"], ["CONTINUE", "IDENTITY"]])
    dependents
  clusterClause

/-- The rest of a statement that gathers statistics on a table. -/
def analyzeBody (r : Readings) : Parse Unit := do
  skip (keyword? "TABLE")
  skip objectName
  skip (repeated (do
    match ← oneOf? ["PARTITION", "FOR", "CACHE", "NOSCAN", "COMPUTE"] with
    | none => return none
    | some "PARTITION" => partitionKeys r
    | some "FOR" =>
      expectKeyword "COLUMNS"
      skip (attempt (commaSeparated identifier))
    | some "CACHE" => expectKeyword "METADATA"
    | some "COMPUTE" => expectKeyword "STATISTICS"
    | some _ => pure ()
    return some ()) (← remaining))

/-- The rest of a statement that rearranges the storage of a table. -/
def optimizeBody (r : Readings) : Parse Unit := do
  expectKeyword "TABLE"
  skip objectName
  clusterClause
  skipBehind "PARTITION" do
    if ← keyword? "ID" then skip identifier else skip r.expression
  skip (keyword? "FINAL")
  skipBehind "DEDUPLICATE" do
    skipBehind "BY" r.expression

/-- The value of an option of the engine. -/
def pragmaValue : Parse Unit := do
  match ← constant with
  | .text .single _ | .text .double _ | .number _ _ | .placeholder _ => return ()
  | _ => refuse

/-- The rest of a statement that reads or sets an option of the engine. -/
def pragmaBody : Parse Unit := do
  skip objectName
  if ← symbol? "(" then
    pragmaValue
    expectSymbol ")"
  else if ← symbol? "=" then pragmaValue

/-- What a flush is about. -/
def flushedKinds : List (List String) :=
  [["BINARY", "LOGS"], ["ENGINE", "LOGS"], ["ERROR", "LOGS"], ["GENERAL", "LOGS"], ["HOSTS"],
    ["LOGS"], ["PRIVILEGES"], ["OPTIMIZER_COSTS"], ["SLOW", "LOGS"], ["STATUS"],
    ["USER_RESOURCES"]]

/-- The rest of a flush of what the engine holds in memory. -/
def flushBody (d : DialectName) : Parse Unit := do
  if d = .postgres || d = .sqlite then refuse
  else
    skip (oneOf? ["NO_WRITE_TO_BINLOG", "LOCAL"])
    if ← keywords? ["RELAY", "LOGS"] then
      if ← keywords? ["FOR", "CHANNEL"] then skip objectName
    else unless ← oneOfPhrases? flushedKinds do
      expectKeyword "TABLES"
      match ← get with
      | l@(.word _) :: _ => unless l.isVocabulary do skip (commaSeparated objectName)
      | _ => pure ()
      skip (oneOfPhrases? [["WITH", "READ", "LOCK"], ["FOR", "EXPORT"]])

/-- A table with the lock it gets. -/
def lockedTable : Parse Unit := do
  skip identifier
  skip (optionalAlias ["READ", "WRITE", "LOW_PRIORITY"])
  if ← keyword? "READ" then skip (keyword? "LOCAL")
  else
    skip (keyword? "LOW_PRIORITY")
    expectKeyword "WRITE"

/-! ### Stored queries and procedures -/

/-- The rest of a call of a procedure. -/
def callBody (d : DialectName) (r : Readings) : Parse Unit := do
  let name ← objectName
  if symbolAhead "(" (← get) then skip (functionCall d r name)

/-- The rest of a call of a prepared query. -/
def executeBody (r : Readings) : Parse Unit := do
  skip objectName
  if ← symbol? "(" then
    unless symbolAhead ")" (← get) do skip r.expressionTexts
    expectSymbol ")"
  else
    let ls ← get
    unless ls.isEmpty || symbolAhead ";" ls || keywordsAhead ["USING"] ls do
      skip r.expressionTexts
  skipBehind "USING" r.expressionTexts

/-- The rest of the declaration of a cursor. -/
def declareBody (r : Readings) : Parse Unit := do
  skip identifier
  skip (keyword? "BINARY")
  skip (oneOf? ["INSENSITIVE", "ASENSITIVE"])
  skip (oneOfPhrases? [["SCROLL"], ["NO", "SCROLL"]])
  expectKeyword "CURSOR"
  if (← oneOf? ["WITH", "WITHOUT"]).isSome then expectKeyword "HOLD"
  expectKeyword "FOR"
  skip r.query

/-- A count of rows: a number or a placeholder. -/
def rowCount : Parse Unit := do
  match ← constant with
  | .number _ _ | .placeholder _ => return ()
  | _ => refuse

/-- The rest of a statement that takes rows from a cursor. -/
def fetchBody : Parse Unit := do
  match ← oneOf? ["NEXT", "PRIOR", "FIRST", "LAST", "ABSOLUTE", "RELATIVE", "FORWARD", "BACKWARD",
    "ALL"] with
  | some "ABSOLUTE" | some "RELATIVE" | none => rowCount
  | some "FORWARD" | some "BACKWARD" => unless ← keyword? "ALL" do rowCount
  | some _ => pure ()
  skip (expectOneOf ["FROM", "IN"])
  skip identifier
  skipBehind "INTO" objectName

/-- Tables kept in memory, with the query whose rows they hold. -/
def cacheBody (d : DialectName) (r : Readings) : Parse Unit := do
  unless ← keyword? "TABLE" do
    skip objectName
    expectKeyword "TABLE"
  skip objectName
  optionList d r ["OPTIONS"]
  unless (← get).isEmpty do
    skip (keyword? "AS")
    match ← get with
    | .word _ :: _ => skip r.query
    | _ => refuse

/-- A value of one character. -/
def copyCharacter (d : DialectName) : Parse Unit := do
  if (← literalString d).length ≠ 1 then refuse

/-- An option of a copy. -/
def copyOption (d : DialectName) : Parse Unit := do
  match ← expectOneOf ["FORMAT", "FREEZE", "DELIMITER", "NULL", "HEADER", "QUOTE", "ESCAPE",
    "FORCE_QUOTE", "FORCE_NOT_NULL", "FORCE_NULL", "ENCODING"] with
  | "FORMAT" => skip identifier
  | "FREEZE" | "HEADER" => skip (oneOf? ["TRUE", "FALSE"])
  | "DELIMITER" | "QUOTE" | "ESCAPE" => copyCharacter d
  | "NULL" | "ENCODING" => skip (literalString d)
  | _ => columnList false

/-- The rest of a copy of rows from or to a file. -/
def copyBody (d : DialectName) (r : Readings) : Parse Unit := do
  let selected ← symbol? "("
  if selected then
    skip r.query
    expectSymbol ")"
  else
    skip objectName
    optionalColumnList false
  let direction ← expectOneOf ["FROM", "TO"]
  if selected && direction = "FROM" then refuse
  else
    unless ← keyword? "STDOUT" do
      skip (keyword? "PROGRAM")
      skip (literalString d)
    skip (keyword? "WITH")
    if symbolAhead "(" (← get) then skip (inParens (commaSeparated (copyOption d)))

/-- The rest of a remark on an object. -/
def commentBody (d : DialectName) : Parse Unit := do
  ifExists
  expectKeyword "ON"
  skip (expectOneOf ["COLUMN", "TABLE", "EXTENSION", "SCHEMA", "DATABASE", "USER", "ROLE"])
  skip objectName
  expectKeyword "IS"
  unless ← keyword? "NULL" do skip (literalString d)

/-! ### Statements -/

/-- The rest of a statement on rows or definitions, behind its first word; the result is its kind,
if it is one. -/
def dataStatement (d : DialectName) (r : Readings) (word : String) : Parse (Option String) := do
  let whole : Parse Unit → Parse (Option String) := fun body => do
    body
    return some word
  match word with
  | "INSERT" => whole (insertBody d r)
  | "REPLACE" =>
    if d = .postgres then refuse
    else
      insertBody d r
      return some (if d = .sqlite then "INSERT" else word)
  | "UPDATE" => whole (updateBody d r)
  | "DELETE" => whole (deleteBody d r)
  | "MERGE" => whole (mergeBody d r)
  | "COPY" => whole (copyBody d r)
  | "CREATE" => whole (createBody d r)
  | "DROP" => whole (dropBody d r)
  | "ALTER" => whole (alterBody d r)
  | "TRUNCATE" => whole (truncateBody d r)
  | "RENAME" => whole do
      expectKeyword "TABLE"
      skip (commaSeparated do
        skip objectName
        expectKeyword "TO"
        skip objectName)
  | "COMMENT" => if d = .generic || d = .postgres then whole (commentBody d) else refuse
  | "ANALYZE" => whole (analyzeBody r)
  | "OPTIMIZE" => if d = .generic then whole (optimizeBody r) else refuse
  | "MSCK" => whole do
      skip (keyword? "REPAIR")
      expectKeyword "TABLE"
      skip objectName
      if (← oneOf? ["ADD", "DROP", "SYNC"]).isSome then expectKeyword "PARTITIONS"
  | "CACHE" => whole (cacheBody d r)
  | "UNCACHE" => whole do
      expectKeyword "TABLE"
      ifExists
      skip objectName
  | "UNLOAD" => whole do
      skip (inParens r.query)
      expectKeyword "TO"
      skip identifier
      optionList d r ["WITH"]
  | _ => return none

/-- The rest of a statement on the session or the engine, behind its first word; the result is its
kind. -/
def sessionStatement (d : DialectName) (r : Readings) (word : String) : Parse String := do
  let whole : Parse Unit → Parse String := fun body => do
    body
    return word
  match word with
  | "BEGIN" | "START" | "COMMIT" | "ROLLBACK" | "SAVEPOINT" | "RELEASE" =>
    whole (transactionBody d word)
  | "END" =>
    transactionBody d word
    return "COMMIT"
  | "SET" => whole (setBody d r)
  | "SHOW" => whole (showBody d r)
  | "USE" => whole (skip objectName)
  | "GRANT" => whole grantBody
  | "REVOKE" => whole revokeBody
  | "PRAGMA" => whole pragmaBody
  | "FLUSH" => whole (flushBody d)
  | "DISCARD" => whole (skip (expectOneOf ["ALL", "PLANS", "SEQUENCES", "TEMP", "TEMPORARY"]))
  | "KILL" => whole do
      skip (oneOf? (["CONNECTION", "QUERY"] ++ if d = .generic then ["MUTATION"] else []))
      skip wholeNumber
  | "ATTACH" => whole do
      skip (keyword? "DATABASE")
      skip r.expression
      expectKeyword "AS"
      skip identifier
  | "DETACH" =>
    if d = .generic then
      whole do
        skip (keyword? "DATABASE")
        ifExists
        skip identifier
    else refuse
  | "ASSERT" => whole do
      skip r.expression
      skip (optionalClause r "AS")
  | "CALL" => whole (callBody d r)
  | "EXECUTE" | "EXEC" =>
    executeBody r
    return "EXECUTE"
  | "DEALLOCATE" => whole do
      skip (keyword? "PREPARE")
      skip identifier
  | "DECLARE" => whole (declareBody r)
  | "FETCH" => whole fetchBody
  | "CLOSE" => whole (skip identifier)
  | "LISTEN" => if d = .generic || d = .postgres then whole (skip identifier) else refuse
  | "UNLISTEN" =>
    if d = .generic || d = .postgres then
      whole do unless ← symbol? "*" do skip identifier
    else refuse
  | "NOTIFY" =>
    if d = .generic || d = .postgres then
      whole do
        skip identifier
        if ← symbol? "," then skip (literalString d)
    else refuse
  | "INSTALL" | "LOAD" => if d = .generic then whole (skip identifier) else refuse
  | "LOCK" =>
    if d = .mySql then
      whole do
        expectKeyword "TABLES"
        skip (commaSeparated lockedTable)
    else refuse
  | "UNLOCK" => if d = .mySql then whole (expectKeyword "TABLES") else refuse
  | _ => refuse

/-- The rest of a statement that is no query, behind its first word; the result is its kind. -/
def otherStatement (d : DialectName) (r : Readings) (word : String) : Parse String := do
  match ← dataStatement d r word with
  | some kind => return kind
  | none => sessionStatement d r word

/-- Words that announce an explanation of another statement or of a table. -/
def explainWords : List String := ["EXPLAIN", "DESCRIBE", "DESC"]

/-- An option of an explanation: a name, perhaps with a value. -/
def explainOption (r : Readings) : Parse Unit := do
  skip identifier
  let ls ← get
  unless symbolAhead "," ls || symbolAhead ")" ls do skip r.expression

/-- The options of an explanation, behind its word. -/
def explainOptions (d : DialectName) (r : Readings) (word : String) : Parse Unit := do
  if word = "EXPLAIN" && (d = .generic || d = .postgres) && symbolAhead "(" (← get) then
    skip (inParens (commaSeparated (explainOption r)))
  else unless ← keywords? ["QUERY", "PLAN"] do
    skip (keyword? "ANALYZE")
    skip (keyword? "VERBOSE")
    skipBehind "FORMAT" (expectOneOf ["TEXT", "GRAPHVIZ", "JSON"])

/-- The statement that is prepared, behind its word. -/
def prepareBody (d : DialectName) (inner : Parse Statement) : Parse Unit := do
  skip identifier
  if symbolAhead "(" (← get) then skip (inParens (commaSeparated (typeName d)))
  expectKeyword "AS"
  skip inner

/-- A statement of at most `n` further levels.  A statement below a word of explanation must not be
one of explanation itself, and where there is none a table is explained. -/
def statement (d : DialectName) : Nat → Parse Statement
  | 0 => throw .tooDeep
  | n + 1 => do
    let r := readings d (readers d false n)
    match ← get with
    | .symbol "(" :: _ => return .query (← r.query)
    | l :: rest =>
      if l.isOneOf ["SELECT", "WITH", "VALUES"] then return .query (← r.query)
      else
        set rest
        let word := l.keyword?.getD ""
        if explainWords.contains word then
          explainOptions d r word
          match ← attempt (statement d n) with
          | some (.other inner) =>
            if explainWords.contains inner then refuse else return .other word
          | some (.query _) => return .other word
          | none =>
            skip (oneOf? ["EXTENDED", "FORMATTED"])
            skip objectName
            return .other word
        else if word = "PREPARE" then
          prepareBody d (statement d n)
          return .other word
        else return .other (← otherStatement d r word)
    | [] => refuse

/-- Statements with semicolons between them; a lone `END` ends them too. -/
def statementList (d : DialectName) : Nat → Bool → Parse (List Statement)
  | 0, _ => return []
  | n + 1, separated => do
    if ← symbol? ";" then statementList d n true
    else
      match ← get with
      | [] => return []
      | ls =>
        if separated then
          let first ← statement d nestingLimit
          return first :: (← statementList d n false)
        else if keywordsAhead ["END"] ls then return []
        else refuse

/-- The statements of a text. -/
def statements? (d : DialectName) (text : String) : Option (List Statement) := do
  let ls ← lexemes? d text
  match statementList d (2 * ls.length + 1) true ls with
  | .ok (found, _) => some found
  | .error _ => none

/-- The expression at the front of a text. -/
def expression? (d : DialectName) (text : String) : Option Tree := do
  let ls ← lexemes? d text
  match (readings d (readers d false nestingLimit)).expression ls with
  | .ok (tree, _) => some tree
  | .error _ => none

end Polyquery.Sql
