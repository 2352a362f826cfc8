import Polyquery.Sql.SelectGrammar

/-!
# The grammar of changes of rows in SQL

Statements that insert, update, delete and merge rows.  None of them has a meaning here, so a
reading only tells whether the text is one.

* `skip` - a reading whose result does not matter;
* `insertBody`, `updateBody`, `deleteBody`, `mergeBody` - the statements behind their first words.
-/

namespace Polyquery.Sql

/-! ### Parts of changes -/

/-- Read and forget what has been read. -/
def skip {α : Type} (p : Parse α) : Parse Unit := do
  let _ ← p

/-- Take a word and what follows it, if the word stands in front. -/
def skipBehind {α : Type} (word : String) (p : Parse α) : Parse Unit := do
  if ← keyword? word then skip p

/-- Names in parentheses, perhaps none of them. -/
def columnList (emptyAllowed : Bool) : Parse Unit := do
  expectSymbol "("
  if ← onlyIf emptyAllowed (symbol? ")") then return ()
  else
    skip (commaSeparated identifier)
    expectSymbol ")"

/-- Names in parentheses, if they are there. -/
def optionalColumnList (emptyAllowed : Bool) : Parse Unit := do
  if symbolAhead "(" (← get) then columnList emptyAllowed

/-- Values assigned to columns. -/
def assignment (r : Readings) : Parse Unit := do
  if symbolAhead "(" (← get) then skip (inParens (commaSeparated objectName))
  else skip objectName
  expectSymbol "="
  skip r.expression

/-- What a statement that changes rows gives back. -/
def returningClause (d : DialectName) (r : Readings) : Parse Unit :=
  skipBehind "RETURNING" (commaSeparated (selectItem d r))

/-- What to do with rows that conflict, in front of the table. -/
def conflictPolicy : Parse Unit := do
  if keywordsAhead ["OR"] (← get) then
    let start ← get
    expectKeyword "OR"
    if (← oneOf? ["REPLACE", "ROLLBACK", "ABORT", "FAIL", "IGNORE"]).isNone then set start
  else skip (keyword? "REPLACE")

/-! ### Insertions -/

/-- The name and columns that stand for inserted rows. -/
def insertedAlias (d : DialectName) : Parse Unit := do
  if d = .mySql || d = .generic then
    skipBehind "AS" do
      skip objectName
      optionalColumnList false

/-- What to do with rows that are there already. -/
def conflictClause (r : Readings) : Parse Unit := do
  skipBehind "ON" do
    if ← keyword? "CONFLICT" then
      if ← keywords? ["ON", "CONSTRAINT"] then skip objectName else optionalColumnList false
      expectKeyword "DO"
      unless ← keyword? "NOTHING" do
        expectKeywords ["UPDATE", "SET"]
        skip (commaSeparated (assignment r))
        skip (optionalClause r "WHERE")
    else
      expectKeywords ["DUPLICATE", "KEY", "UPDATE"]
      skip (commaSeparated (assignment r))

/-- The columns and rows of an insertion. -/
def insertedRows (d : DialectName) (r : Readings) : Parse Unit := do
  unless ← keywords? ["DEFAULT", "VALUES"] do
    let ls ← get
    unless symbolAhead "(" ls && keywordsAhead ["SELECT"] (ls.drop 1) do
      optionalColumnList (d = .mySql)
      skipBehind "PARTITION" (inParens r.expressionTexts)
    skip r.query

/-- The rest of an insertion into a directory of files. -/
def directoryBody (d : DialectName) (r : Readings) : Parse Unit := do
  skip (literalString d)
  if ← keywords? ["STORED", "AS"] then
    skip (expectOneOf ["TEXTFILE", "SEQUENCEFILE", "ORC", "PARQUET", "AVRO", "RCFILE", "JSONFILE"])
  skip r.query

/-- The rest of an insertion. -/
def insertBody (d : DialectName) (r : Readings) : Parse Unit := do
  conflictPolicy
  if d = .mySql || d = .generic then
    skip (oneOf? ["LOW_PRIORITY", "DELAYED", "HIGH_PRIORITY"])
    skip (keyword? "IGNORE")
  skip (keyword? "OVERWRITE")
  skip (keyword? "INTO")
  skip (keyword? "LOCAL")
  if ← keyword? "DIRECTORY" then directoryBody d r
  else
    skip (keyword? "TABLE")
    skip objectName
    if d = .postgres then skipBehind "AS" identifier
    insertedRows d r
    insertedAlias d
    conflictClause r
    returningClause d r

/-! ### Updates and deletions -/

/-- The rest of an update. -/
def updateBody (d : DialectName) (r : Readings) : Parse Unit := do
  conflictPolicy
  skip (joinedSource d r)
  expectKeyword "SET"
  skip (commaSeparated (assignment r))
  if ← keyword? "FROM" then
    if d ≠ .mySql then skip (joinedSource d r)
  skip (optionalClause r "WHERE")
  returningClause d r

/-- The rest of a deletion. -/
def deleteBody (d : DialectName) (r : Readings) : Parse Unit := do
  unless ← keyword? "FROM" do
    unless d = .generic do
      skip (commaSeparated objectName)
      expectKeyword "FROM"
  skip (commaSeparated (joinedSource d r))
  skipBehind "USING" (commaSeparated (joinedSource d r))
  skip (optionalClause r "WHERE")
  returningClause d r
  skip (orderClause d r)
  skipBehind "LIMIT" do
    unless ← keyword? "ALL" do skip r.expression

/-! ### Merges -/

/-- What a merge does with the rows of one case. -/
def mergeCase (d : DialectName) (r : Readings) : Parse (Option Unit) := do
  if ← keyword? "WHEN" then
    let unmatched ← keyword? "NOT"
    expectKeyword "MATCHED"
    let fromTarget ← if unmatched then keywords? ["BY", "SOURCE"] else pure true
    if unmatched && !fromTarget then skip (keywords? ["BY", "TARGET"])
    skip (optionalClause r "AND")
    expectKeyword "THEN"
    if fromTarget then
      match ← expectOneOf ["UPDATE", "DELETE"] with
      | "UPDATE" =>
        expectKeyword "SET"
        skip (commaSeparated (assignment r))
      | _ => pure ()
    else
      expectKeyword "INSERT"
      optionalColumnList (d = .mySql)
      unless ← onlyIf (d = .generic) (keyword? "ROW") do
        expectKeyword "VALUES"
        skip (valueRows d r)
    return some ()
  else return none

/-- The rest of a merge of one table into another. -/
def mergeBody (d : DialectName) (r : Readings) : Parse Unit := do
  skip (keyword? "INTO")
  let bound ← remaining
  skip (relation d r (3 * bound + 3))
  expectKeyword "USING"
  skip (relation d r (3 * bound + 3))
  expectKeyword "ON"
  skip r.expression
  skip (repeated (mergeCase d r) (← remaining))

end Polyquery.Sql
