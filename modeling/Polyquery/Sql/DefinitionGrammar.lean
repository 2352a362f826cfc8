import Polyquery.Sql.QueryGrammar

/-!
# The grammar of definitions in SQL

Statements that create, change and drop tables and other objects.  None of them has a meaning here,
so a reading only tells whether the text is one.

* `columnDefinition`, `tableConstraint` - what tables are made of;
* `createBody` - a definition of a table, view, index or another object;
* `tableChange`, `alterBody` - a change of a definition;
* `dropBody` - the removal of one.
-/

namespace Polyquery.Sql

/-! ### Parts of definitions -/

/-- Take one of several groups of words, if one stands in front. -/
def oneOfPhrases? : List (List String) → Parse Bool
  | [] => return false
  | words :: rest => do if ← keywords? words then return true else oneOfPhrases? rest

/-- The words for what may exist already, if they are there. -/
def unlessExists : Parse Unit := skip (keywords? ["IF", "NOT", "EXISTS"])

/-- The words for what may be missing, if they are there. -/
def ifExists : Parse Unit := skip (keywords? ["IF", "EXISTS"])

/-- What becomes of the objects that depend on a dropped one. -/
def dependents : Parse Unit := skip (oneOf? ["CASCADE", "RESTRICT"])

/-- The cluster that a statement runs on. -/
def clusterClause : Parse Unit := do
  if ← keywords? ["ON", "CLUSTER"] then skip identifier

/-- A single text. -/
def singleText : Parse Unit := do
  match ← take with
  | .text .single _ => return ()
  | _ => refuse

/-- An option with its value. -/
def optionSetting (d : DialectName) (r : Readings) : Parse Unit := do
  unless ← onlyIf (d = .generic) (keyword? "HEAP") do
    skip identifier
    expectSymbol "="
    skip r.expression

/-- Options in parentheses behind their words, if they are there. -/
def optionList (d : DialectName) (r : Readings) (words : List String) : Parse Unit := do
  if ← keywords? words then
    skip (inParens do
      unless symbolAhead ")" (← get) do skip (commaSeparated (optionSetting d r)))

/-- When a constraint is checked. -/
def constraintTime : Parse Unit := do
  skip (repeated (do
    if ← oneOfPhrases? [["NOT", "DEFERRABLE"], ["DEFERRABLE"], ["INITIALLY", "DEFERRED"],
        ["INITIALLY", "IMMEDIATE"], ["ENFORCED"], ["NOT", "ENFORCED"]] then return some ()
    else return none) (← remaining))

/-- What becomes of a reference where its target changes. -/
def referenceActions : Parse Unit := do
  skip (repeated (do
    if ← oneOfPhrases? [["ON", "DELETE"], ["ON", "UPDATE"]] then
      if ← oneOfPhrases? [["RESTRICT"], ["CASCADE"], ["SET", "NULL"], ["NO", "ACTION"],
          ["SET", "DEFAULT"]] then return some ()
      else refuse
    else return none) (← remaining))

/-- Steps, bounds and the start of a sequence. -/
def sequenceOptions : Parse Unit := do
  skipBehind "INCREMENT" do
    skip (keyword? "BY")
    skip signedNumber
  unless ← keywords? ["NO", "MINVALUE"] do skipBehind "MINVALUE" signedNumber
  unless ← keywords? ["NO", "MAXVALUE"] do skipBehind "MAXVALUE" signedNumber
  skipBehind "START" do
    skip (keyword? "WITH")
    skip signedNumber
  skipBehind "CACHE" signedNumber
  unless ← keywords? ["NO", "CYCLE"] do skip (keyword? "CYCLE")

/-! ### Columns -/

/-- How the value of a column is generated, behind the word. -/
def generation (d : DialectName) (r : Readings) : Parse Unit := do
  if ← oneOfPhrases? [["ALWAYS", "AS", "IDENTITY"], ["BY", "DEFAULT", "AS", "IDENTITY"]] then
    if symbolAhead "(" (← get) then inParens sequenceOptions
  else
    expectKeywords ["ALWAYS", "AS"]
    skip (inParens r.expression)
    if d = .postgres then expectKeyword "STORED" else skip (oneOf? ["STORED", "VIRTUAL"])

/-- What the definition of a column demands of its values in every dialect. -/
def commonColumnOption (r : Readings) : Parse Bool := do
  if ← keywords? ["CHARACTER", "SET"] then
    skip objectName
    return true
  else if ← oneOfPhrases? [["NOT", "NULL"], ["NULL"]] then return true
  else if ← keyword? "COMMENT" then
    singleText
    return true
  else if ← keyword? "DEFAULT" then
    skip r.expression
    return true
  else if ← oneOfPhrases? [["PRIMARY", "KEY"], ["UNIQUE"]] then
    constraintTime
    return true
  else if ← keyword? "REFERENCES" then
    skip objectName
    optionalColumnList false
    referenceActions
    constraintTime
    return true
  else if ← keyword? "CHECK" then
    skip (inParens r.expression)
    return true
  else return false

/-- What the definition of a column demands in some dialects. -/
def dialectColumnOption (d : DialectName) (r : Readings) : Parse Bool := do
  if ← keyword? "AUTO_INCREMENT" then return d = .generic || d = .mySql
  else if ← keyword? "AUTOINCREMENT" then return d = .generic || d = .sqlite
  else if (← oneOf? ["ASC", "DESC"]).isSome && (d = .generic || d = .sqlite) then return true
  else if (← keywords? ["ON", "UPDATE"]) && (d = .generic || d = .mySql) then
    skip r.expression
    return true
  else if ← keyword? "GENERATED" then
    generation d r
    return true
  else if (← keyword? "AS") && d ≠ .postgres then
    skip (inParens r.expression)
    skip (oneOf? ["STORED", "VIRTUAL"])
    return true
  else if ← onlyIf (d = .generic) do return (← oneOf? ["MATERIALIZED", "ALIAS"]).isSome then
    skip r.expression
    return true
  else if ← onlyIf (d = .generic) (keyword? "EPHEMERAL") then
    unless symbolAhead "," (← get) || symbolAhead ")" (← get) do skip r.expression
    return true
  else if d = .generic && keywordsAhead ["OPTIONS"] (← get) then
    optionList d r ["OPTIONS"]
    return true
  else if (← keyword? "IDENTITY") && d = .generic then
    if symbolAhead "(" (← get) then
      skip (inParens do
        skip signedNumber
        expectSymbol ","
        skip signedNumber)
    return true
  else if ← onlyIf (d = .sqlite) (keywords? ["ON", "CONFLICT"]) then
    skip (expectOneOf ["ROLLBACK", "ABORT", "FAIL", "IGNORE", "REPLACE"])
    return true
  else return false

/-- What the definition of a column demands of its values. -/
def columnOption (d : DialectName) (r : Readings) : Parse Bool := do
  if ← commonColumnOption r then return true else dialectColumnOption d r

/-- The demands on the values of a column, each perhaps with a name. -/
def columnOptions (d : DialectName) (r : Readings) : Parse Unit := do
  skip (repeated (do
    if ← keyword? "CONSTRAINT" then
      skip identifier
      if ← columnOption d r then return some () else refuse
    else if ← columnOption d r then return some ()
    else if ← onlyIf (d = .generic || d = .mySql) (keyword? "COLLATE") then
      skip objectName
      return some ()
    else return none) (← remaining))

/-- Whether the definition of a column leaves out its type. -/
def untypedColumn (d : DialectName) : List Lexeme → Bool
  | l@(.word _) :: _ =>
    d = .sqlite && l.isOneOf ["CONSTRAINT", "PRIMARY", "NOT", "UNIQUE", "CHECK", "DEFAULT",
      "COLLATE", "REFERENCES", "GENERATED", "AS"]
  | _ => d = .sqlite

/-- The definition of a column. -/
def columnDefinition (d : DialectName) (r : Readings) : Parse Unit := do
  skip identifier
  unless untypedColumn d (← get) do skip (typeName d)
  skipBehind "COLLATE" objectName
  columnOptions d r

/-! ### Tables -/

/-- The kind of an index behind a word, if it is there. -/
def indexKind : Parse Unit := skipBehind "USING" (expectOneOf ["BTREE", "HASH"])

/-- The name, kind and columns of an index on a table. -/
def indexColumns : Parse Unit := do
  skip (attempt identifier)
  indexKind
  columnList false

/-- An index that a constraint stands for, with its options. -/
def constraintIndex : Parse Unit := do
  indexColumns
  skip (repeated (do
    if ← keyword? "USING" then
      skip (expectOneOf ["BTREE", "HASH"])
      return some ()
    else if ← keyword? "COMMENT" then
      singleText
      return some ()
    else return none) (← remaining))
  constraintTime

/-- A constraint on a table, if one starts here. -/
def tableConstraint (d : DialectName) (r : Readings) : Parse Bool := do
  let named ← keyword? "CONSTRAINT"
  if named then skip identifier
  if ← keyword? "UNIQUE" then
    if d = .generic || d = .mySql then skip (oneOf? ["KEY", "INDEX"])
    skip (oneOfPhrases? [["NULLS", "NOT", "DISTINCT"], ["NULLS", "DISTINCT"]])
    constraintIndex
    return true
  else if ← keyword? "PRIMARY" then
    expectKeyword "KEY"
    constraintIndex
    return true
  else if ← keyword? "FOREIGN" then
    expectKeyword "KEY"
    columnList false
    expectKeyword "REFERENCES"
    skip objectName
    columnList false
    referenceActions
    constraintTime
    return true
  else if ← keyword? "CHECK" then
    skip (inParens r.expression)
    return true
  else if named then refuse
  else if d = .generic || d = .mySql then
    if (← oneOf? ["INDEX", "KEY"]).isSome then
      unless keywordsAhead ["USING"] (← get) do skip (attempt identifier)
      indexKind
      columnList false
      return true
    else if (← oneOf? ["FULLTEXT", "SPATIAL"]).isSome then
      skip (oneOf? ["KEY", "INDEX"])
      skip (attempt identifier)
      columnList false
      return true
    else return false
  else return false

/-- The columns and constraints of a table, if they are there. -/
def tableElements (d : DialectName) (r : Readings) : Parse Unit := do
  if ← symbol? "(" then
    unless ← symbol? ")" do
      skip (commaSeparated do
        unless ← tableConstraint d r do
          match ← get with
          | .word _ :: _ => columnDefinition d r
          | _ => refuse)
      expectSymbol ")"

/-- A word behind an equals sign. -/
def wordSetting : Parse Unit := do
  expectSymbol "="
  match ← take with
  | .word _ => return ()
  | _ => refuse

/-- How a table is stored and sorted. -/
def storageClauses (d : DialectName) (r : Readings) : Parse Unit := do
  optionList d r ["WITH"]
  optionList d r ["TBLPROPERTIES"]
  skipBehind "ENGINE" do
    wordSetting
    optionalColumnList false
  skipBehind "AUTO_INCREMENT" do
    skip (symbol? "=")
    skip wholeNumber
  if ← onlyIf (d = .generic) (keywords? ["PRIMARY", "KEY"]) then skip r.expression
  if ← keywords? ["ORDER", "BY"] then skip r.expression
  if ← onlyIf (d = .generic || d = .postgres) (keywords? ["PARTITION", "BY"]) then
    skip r.expression
  if ← keywords? ["DEFAULT", "CHARSET"] then wordSetting
  skipBehind "COLLATE" wordSetting

/-- The rest of the definition of a table. -/
def tableBody (d : DialectName) (r : Readings) : Parse Unit := do
  unlessExists
  skip objectName
  clusterClause
  if (← oneOf? ["LIKE", "ILIKE"]).isSome then skip (attempt objectName)
  skipBehind "CLONE" (attempt objectName)
  tableElements d r
  skip (keywords? ["WITHOUT", "ROWID"])
  storageClauses d r
  if ← keywords? ["ON", "COMMIT"] then
    unless ← oneOfPhrases? [["DELETE", "ROWS"], ["PRESERVE", "ROWS"], ["DROP"]] do refuse
  skip (keyword? "STRICT")
  skipBehind "COMMENT" do
    skip (symbol? "=")
    singleText
  if ← keyword? "AS" then skip r.query
  else if (d = .generic || d = .mySql) && keywordsAhead ["SELECT"] (← get) then skip r.query

/-! ### Other definitions -/

/-- A column of a view. -/
def viewColumn (d : DialectName) (r : Readings) : Parse Unit := do
  skip identifier
  if d = .generic && (keywordsAhead ["OPTIONS"] (← get) || keywordsAhead ["COMMENT"] (← get)) then
    skip (columnOption d r)

/-- The rest of the definition of a view. -/
def viewBody (d : DialectName) (r : Readings) : Parse Unit := do
  if d = .generic || d = .sqlite then unlessExists
  skip objectName
  if ← symbol? "(" then
    unless ← symbol? ")" do
      skip (commaSeparated (viewColumn d r))
      expectSymbol ")"
  optionList d r ["WITH"]
  skipBehind "CLUSTER" do
    expectKeyword "BY"
    optionalColumnList false
  if d = .generic then
    optionList d r ["OPTIONS"]
    skipBehind "TO" objectName
    skipBehind "COMMENT" do
      expectSymbol "="
      singleText
  expectKeyword "AS"
  skip r.query
  if d = .generic then skip (keywords? ["WITH", "NO", "SCHEMA", "BINDING"])

/-- The rest of the definition of an index. -/
def indexBody (d : DialectName) (r : Readings) : Parse Unit := do
  skip (keyword? "CONCURRENTLY")
  let guarded ← keywords? ["IF", "NOT", "EXISTS"]
  unless ← onlyIf (!guarded) (keyword? "ON") do
    skip objectName
    expectKeyword "ON"
  skip objectName
  skipBehind "USING" identifier
  skip (inParens (commaSeparated (orderItem d r)))
  skipBehind "INCLUDE" identifiersInParens
  skipBehind "NULLS" do
    skip (keyword? "NOT")
    expectKeyword "DISTINCT"
  if d = .generic || d = .postgres then skipBehind "WITH" (inParens r.expressionTexts)
  skip (optionalClause r "WHERE")

/-- An argument in the definition of a function: a type, perhaps with a name in front. -/
def functionParameter (d : DialectName) (r : Readings) : Parse Unit := do
  skip (oneOf? ["IN", "OUT", "INOUT"])
  let (_, kind) ← typeName d
  if kind = .custom then skip (attempt (typeName d))
  if ← keyword? "DEFAULT" then skip r.expression
  else if ← symbol? "=" then skip r.expression

/-- Arguments in the definition of a function, in parentheses. -/
def functionParameters (d : DialectName) (r : Readings) : Parse Unit :=
  inParens do
    unless symbolAhead ")" (← get) do skip (commaSeparated (functionParameter d r))

/-- A property of a function, if one stands in front. -/
def functionProperty (d : DialectName) (r : Readings) : Parse (Option Unit) := do
  if ← keyword? "AS" then
    match ← get with
    | .text (.dollar _) _ :: rest => set rest
    | _ => skip (literalString d)
    return some ()
  else if ← keyword? "LANGUAGE" then
    skip identifier
    return some ()
  else if ← oneOfPhrases? [["IMMUTABLE"], ["STABLE"], ["VOLATILE"],
      ["CALLED", "ON", "NULL", "INPUT"], ["RETURNS", "NULL", "ON", "NULL", "INPUT"],
      ["STRICT"], ["PARALLEL", "UNSAFE"], ["PARALLEL", "RESTRICTED"], ["PARALLEL", "SAFE"]] then
    return some ()
  else if ← keyword? "RETURN" then
    skip r.expression
    return some ()
  else return none

/-- The rest of the definition of a function. -/
def functionBody (d : DialectName) (r : Readings) : Parse Unit := do
  if d = .generic || d = .postgres then
    skip objectName
    functionParameters d r
    skipBehind "RETURNS" (typeName d)
    skip (repeated (functionProperty d r) (← remaining))
  else refuse

/-- An event that fires a trigger. -/
def triggerEvent : Parse Unit := do
  if ← keyword? "UPDATE" then skipBehind "OF" (commaSeparated identifier)
  else skip (expectOneOf ["INSERT", "DELETE", "TRUNCATE"])

/-- The rest of the definition of a trigger. -/
def triggerBody (d : DialectName) (r : Readings) : Parse Unit := do
  if d = .mySql || d = .sqlite then refuse
  else
    skip objectName
    unless ← oneOfPhrases? [["BEFORE"], ["AFTER"], ["INSTEAD", "OF"]] do refuse
    triggerEvent
    skip (repeated (do
      if ← keyword? "OR" then
        triggerEvent
        return some ()
      else return none) (← remaining))
    expectKeyword "ON"
    skip objectName
    skipBehind "FROM" objectName
    constraintTime
    skipBehind "REFERENCING" (repeated (do
      if (← oneOf? ["NEW", "OLD"]).isSome then
        expectKeyword "TABLE"
        skip (keyword? "AS")
        skip objectName
        return some ()
      else return none) (← remaining))
    expectKeyword "FOR"
    skip (keyword? "EACH")
    skip (expectOneOf ["ROW", "STATEMENT"])
    skip (optionalClause r "WHEN")
    expectKeyword "EXECUTE"
    skip (expectOneOf ["FUNCTION", "PROCEDURE"])
    skip objectName
    if symbolAhead "(" (← get) then functionParameters d r

/-- The rest of the definition of a policy for the rows of a table. -/
def policyBody (r : Readings) : Parse Unit := do
  skip identifier
  expectKeyword "ON"
  skip objectName
  skipBehind "AS" (expectOneOf ["PERMISSIVE", "RESTRICTIVE"])
  skipBehind "FOR" (expectOneOf ["ALL", "SELECT", "INSERT", "UPDATE", "DELETE"])
  skipBehind "TO" (commaSeparated identifier)
  skipBehind "USING" (inParens r.expression)
  if ← keywords? ["WITH", "CHECK"] then skip (inParens r.expression)

/-- The rest of the definition of a type. -/
def typeBody (d : DialectName) : Parse Unit := do
  skip objectName
  expectKeyword "AS"
  if ← onlyIf (d = .postgres) (keyword? "ENUM") then
    skip (inParens do
      unless symbolAhead ")" (← get) do skip (commaSeparated identifier))
  else if ← symbol? "(" then
    unless ← symbol? ")" do
      skip (commaSeparated do
        skip identifier
        skip (typeName d)
        skipBehind "COLLATE" objectName)
      expectSymbol ")"

/-- The rest of the definition of a schema. -/
def schemaBody : Parse Unit := do
  unlessExists
  if ← keyword? "AUTHORIZATION" then skip identifier
  else
    skip objectName
    skipBehind "AUTHORIZATION" identifier

/-- The rest of the definition of a sequence. -/
def sequenceBody (d : DialectName) : Parse Unit := do
  unlessExists
  skip objectName
  skipBehind "AS" (typeName d)
  sequenceOptions
  if ← keywords? ["OWNED", "BY"] then skip objectName

/-- The rest of the definition of an extension. -/
def extensionBody : Parse Unit := do
  unlessExists
  skip identifier
  skipBehind "WITH" do
    skipBehind "SCHEMA" identifier
    skipBehind "VERSION" identifier
    skip (keyword? "CASCADE")

/-- Properties of a role that are single words. -/
def roleWords : List String :=
  ["LOGIN", "NOLOGIN", "INHERIT", "NOINHERIT", "BYPASSRLS", "NOBYPASSRLS", "CREATEDB",
    "NOCREATEDB", "CREATEROLE", "NOCREATEROLE", "SUPERUSER", "NOSUPERUSER", "REPLICATION",
    "NOREPLICATION"]

/-- The rest of the definition of a role. -/
def roleBody (d : DialectName) (r : Readings) : Parse Unit := do
  unlessExists
  skip (commaSeparated objectName)
  skip (keyword? "WITH")
  if d = .postgres then
    skip (repeated (do
      if (← oneOf? roleWords).isSome then return some ()
      else if ← keyword? "PASSWORD" then
        unless ← keyword? "NULL" do skip r.expression
        return some ()
      else if ← keywords? ["CONNECTION", "LIMIT"] then
        skip r.expression
        return some ()
      else if ← keywords? ["VALID", "UNTIL"] then
        skip r.expression
        return some ()
      else return none) (← remaining))

/-- The rest of the definition of a table that a module of the engine provides. -/
def virtualTableBody : Parse Unit := do
  expectKeyword "TABLE"
  unlessExists
  skip objectName
  expectKeyword "USING"
  skip identifier
  optionalColumnList false

/-- The rest of the definition of a database. -/
def databaseBody (d : DialectName) : Parse Unit := do
  unlessExists
  skip objectName
  skip (repeated (do
    match ← oneOf? ["LOCATION", "MANAGEDLOCATION"] with
    | some _ =>
      skip (literalString d)
      return some ()
    | none => return none) (← remaining))

/-- The rest of a definition. -/
def createBody (d : DialectName) (r : Readings) : Parse Unit := do
  let replacing ← keywords? ["OR", "REPLACE"]
  skip (keywords? ["OR", "ALTER"])
  skip (keyword? "LOCAL")
  skip (keyword? "GLOBAL")
  skip (keyword? "TRANSIENT")
  skip (oneOf? ["TEMP", "TEMPORARY"])
  let words := ["TABLE", "MATERIALIZED", "VIEW", "POLICY", "FUNCTION", "TRIGGER", "CONSTRAINT"]
  let more := ["EXTENSION", "INDEX", "UNIQUE", "VIRTUAL", "SCHEMA", "DATABASE", "ROLE", "SEQUENCE",
    "TYPE"]
  match ← expectOneOf (if replacing then words else words ++ more) with
  | "TABLE" => tableBody d r
  | "MATERIALIZED" =>
    expectKeyword "VIEW"
    viewBody d r
  | "VIEW" => viewBody d r
  | "POLICY" => policyBody r
  | "FUNCTION" => functionBody d r
  | "TRIGGER" => triggerBody d r
  | "CONSTRAINT" =>
    expectKeyword "TRIGGER"
    triggerBody d r
  | "EXTENSION" => extensionBody
  | "INDEX" => indexBody d r
  | "UNIQUE" =>
    expectKeyword "INDEX"
    indexBody d r
  | "VIRTUAL" => virtualTableBody
  | "SCHEMA" => schemaBody
  | "DATABASE" => databaseBody d
  | "ROLE" => roleBody d r
  | "SEQUENCE" => sequenceBody d
  | _ => typeBody d

/-! ### Changes of definitions -/

/-- Where a column of a table stands. -/
def columnPosition (d : DialectName) : Parse Unit := do
  if d = .generic || d = .mySql then
    unless ← keyword? "FIRST" do skipBehind "AFTER" identifier

/-- A partition of a table, in parentheses. -/
def partitionKeys (r : Readings) : Parse Unit := skip (inParens r.expressionTexts)

/-- What is added to a table. -/
def tableAddition (d : DialectName) (r : Readings) : Parse Unit := do
  unless ← tableConstraint d r do
    unlessExists
    let partitions ← repeated (do
      if ← keyword? "PARTITION" then
        partitionKeys r
        return some ()
      else return none) (← remaining)
    if partitions.isEmpty then
      skip (keyword? "COLUMN")
      if d = .generic || d = .postgres then unlessExists
      columnDefinition d r
      columnPosition d

/-- What is dropped from a table. -/
def tableRemoval (d : DialectName) (r : Readings) : Parse Unit := do
  if ← oneOfPhrases? [["IF", "EXISTS", "PARTITION"], ["PARTITION"]] then partitionKeys r
  else if ← keyword? "CONSTRAINT" then
    ifExists
    skip identifier
    dependents
  else unless (← keywords? ["PRIMARY", "KEY"]) && (d = .generic || d = .mySql) do
    skip (keyword? "COLUMN")
    ifExists
    skip identifier
    dependents

/-- A change of a column that keeps its name. -/
def columnChange (d : DialectName) (r : Readings) : Parse Unit := do
  skip (keyword? "COLUMN")
  skip identifier
  if ← oneOfPhrases? [["SET", "NOT", "NULL"], ["DROP", "NOT", "NULL"], ["DROP", "DEFAULT"]] then
    return ()
  else if ← keywords? ["SET", "DEFAULT"] then skip r.expression
  else if ← keywords? ["ADD", "GENERATED"] then
    skip (oneOfPhrases? [["ALWAYS"], ["BY", "DEFAULT"]])
    expectKeywords ["AS", "IDENTITY"]
    if symbolAhead "(" (← get) then inParens sequenceOptions
  else
    unless ← keywords? ["SET", "DATA", "TYPE"] do
      if d = .postgres then expectKeyword "TYPE" else refuse
    skip (typeName d)
    if d = .postgres then skip (optionalClause r "USING")

/-- A new name for a table or for a part of it. -/
def tableRenaming (d : DialectName) : Parse Unit := do
  let constrained ← if d = .postgres then keyword? "CONSTRAINT" else pure false
  if ← onlyIf (!constrained) (keyword? "TO") then skip objectName
  else
    unless constrained do skip (keyword? "COLUMN")
    skip identifier
    expectKeyword "TO"
    skip identifier

/-- A rule, trigger or security level of a table that is switched. -/
def tableSwitch (switch : String) : Parse Unit := do
  if ← keywords? ["ROW", "LEVEL", "SECURITY"] then return ()
  else
    if switch = "ENABLE" then skip (oneOf? ["ALWAYS", "REPLICA"])
    skip (expectOneOf ["RULE", "TRIGGER"])
    skip identifier

/-- A change of a table. -/
def tableChange (d : DialectName) (r : Readings) : Parse Unit := do
  match ← oneOf? ["ADD", "DROP", "ALTER", "RENAME", "DISABLE", "ENABLE", "PARTITION", "CHANGE",
    "MODIFY", "SWAP"] with
  | some "ADD" => tableAddition d r
  | some "DROP" => tableRemoval d r
  | some "ALTER" => columnChange d r
  | some "RENAME" => tableRenaming d
  | some "PARTITION" =>
    partitionKeys r
    expectKeywords ["RENAME", "TO", "PARTITION"]
    partitionKeys r
  | some "CHANGE" =>
    skip (keyword? "COLUMN")
    skip identifier
    columnDefinition d r
    columnPosition d
  | some "MODIFY" =>
    skip (keyword? "COLUMN")
    columnDefinition d r
    columnPosition d
  | some "SWAP" =>
    expectKeyword "WITH"
    skip objectName
  | some switch => tableSwitch switch
  | none =>
    if ← onlyIf (d = .generic || d = .postgres) (keywords? ["OWNER", "TO"]) then skip identifier
    else
      expectKeywords ["SET", "TBLPROPERTIES"]
      skip (inParens (commaSeparated (optionSetting d r)))

/-- The rest of a change of a definition. -/
def alterBody (d : DialectName) (r : Readings) : Parse Unit := do
  match ← expectOneOf ["TABLE", "VIEW", "INDEX", "ROLE"] with
  | "TABLE" =>
    ifExists
    skip (keyword? "ONLY")
    skip objectName
    clusterClause
    skip (commaSeparated (tableChange d r))
    if ← oneOfPhrases? [["LOCATION"], ["SET", "LOCATION"]] then skip identifier
  | "VIEW" =>
    skip objectName
    optionalColumnList false
    optionList d r ["WITH"]
    expectKeyword "AS"
    skip r.query
  | "INDEX" =>
    skip objectName
    expectKeywords ["RENAME", "TO"]
    skip objectName
  | _ =>
    skip identifier
    expectKeywords ["RENAME", "TO"]
    skip identifier

/-! ### Removals -/

/-- The names of functions with the types of their arguments. -/
def functionNames (d : DialectName) (r : Readings) : Parse Unit :=
  skip (commaSeparated do
    skip objectName
    if symbolAhead "(" (← get) then functionParameters d r)

/-- The rest of a removal. -/
def dropBody (d : DialectName) (r : Readings) : Parse Unit := do
  if d = .generic || d = .mySql then skip (keyword? "TEMPORARY")
  match ← expectOneOf ["TABLE", "VIEW", "INDEX", "ROLE", "SCHEMA", "DATABASE", "SEQUENCE", "STAGE",
    "TYPE", "FUNCTION", "PROCEDURE", "POLICY", "TRIGGER"] with
  | "FUNCTION" | "PROCEDURE" =>
    ifExists
    functionNames d r
    dependents
  | "POLICY" =>
    ifExists
    skip identifier
    expectKeyword "ON"
    skip objectName
    dependents
  | "TRIGGER" =>
    if d = .mySql || d = .sqlite then refuse
    else
      ifExists
      skip objectName
      expectKeyword "ON"
      skip objectName
      dependents
  | "ROLE" =>
    ifExists
    skip (commaSeparated objectName)
  | _ =>
    ifExists
    skip (commaSeparated objectName)
    dependents
    skip (keyword? "PURGE")

end Polyquery.Sql
