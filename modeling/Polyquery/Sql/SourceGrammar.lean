import Polyquery.Sql.ExprGrammar

/-!
# The grammar of sources in SQL

What a selection ranges over.

* `sourceAlias` - the alias of a source with names for its columns;
* `namedRelation`, `derivedRelation` - tables and queries as sources;
* `pivoted` - a source whose rows are turned into columns, or its columns into rows;
* `joinWords`, `joinConstraint` - the parts of a join;
* `relation`, `relationWithJoins` - any source, and one with its joins.

Only tables, queries and some joins have a meaning here; the other sources are worded.
-/

namespace Polyquery.Sql

/-! ### Aliases -/

/-- A column of an alias, perhaps with its type. -/
def aliasColumn (d : DialectName) : Parse String := do
  let name ← identifier
  match ← attempt (typeName d) with
  | some (type, _) => return name.text ++ " " ++ type
  | none => return name.text

/-- Columns of an alias in parentheses, worded, if they are there. -/
def aliasColumns (d : DialectName) : Parse String := do
  if ← symbol? "(" then
    let columns ← commaSeparated (aliasColumn d)
    expectSymbol ")"
    return " (" ++ commas columns ++ ")"
  else return ""

/-- An alias of a source with names for its columns. -/
def sourceAlias (d : DialectName) : Parse (Option SourceLabel) := do
  match ← optionalAlias reservedInSource with
  | none => return none
  | some name => return some ⟨name, ← aliasColumns d⟩

/-- A source that is worded only, with the alias behind it. -/
def wordedRelation (d : DialectName) (front : String) : Parse Relation := do
  return .other ⟨front, ← sourceAlias d, ""⟩

/-! ### Tables and queries -/

/-- A query in parentheses with its alias, behind the opening parenthesis. -/
def derivedRelation (d : DialectName) (r : Readings) (lateral : String) : Parse Relation := do
  let query ← r.query
  expectSymbol ")"
  return .derived query ⟨lateral ++ "(" ++ query.text ++ ")", ← sourceAlias d, ""⟩

/-- Settings with commas between them, worded. -/
def settingList : Parse String := do
  let settings ← commaSeparated do
    let name ← identifier
    expectSymbol "="
    return name.text ++ " = " ++ (← constant).render
  return "SETTINGS " ++ commas settings

/-- Settings behind their word, worded, if they are there. -/
def settingsClause (d : DialectName) : Parse String := do
  if ← onlyIf (d = .generic) (keyword? "SETTINGS") then settingList else return ""

/-- Further arguments of a table function up to the closing parenthesis; settings end them. -/
def tableArgumentRest (d : DialectName) (r : Readings) : Nat → Parse (List String)
  | 0 => refuse
  | n + 1 => do
    let settings ← settingsClause d
    if settings.isEmpty then
      let next ← argument d r
      if ← symbol? "," then return next.text :: (← tableArgumentRest d r n)
      else
        expectSymbol ")"
        return [next.text]
    else
      expectSymbol ")"
      return [settings]

/-- Arguments of a table function, behind the opening parenthesis. -/
def tableArguments (d : DialectName) (r : Readings) : Parse (List String) := do
  if ← symbol? ")" then return [] else tableArgumentRest d r (← remaining)

/-- Hints for a table in parentheses, worded, if they are there. -/
def tableHints (r : Readings) : Parse String := do
  match ← get with
  | .word _ :: .symbol "(" :: _ =>
    if ← keyword? "WITH" then return " WITH (" ++ (← inParens r.expressionTexts) ++ ")"
    else return ""
  | _ => return ""

/-- A named table with its alias and hints. -/
def namedRelation (d : DialectName) (r : Readings) : Parse Relation := do
  let name ← objectName
  let partitions ←
    if d = .generic || d = .mySql then
      if ← keyword? "PARTITION" then
        pure ("PARTITION (" ++ commas ((← identifiersInParens).map Ident.text) ++ ")")
      else pure ""
    else pure ""
  let arguments ←
    if ← symbol? "(" then pure ("(" ++ commas (← tableArguments d r) ++ ")") else pure ""
  let ordinality ←
    if ← keywords? ["WITH", "ORDINALITY"] then pure " WITH ORDINALITY" else pure ""
  let label ← sourceAlias d
  return .table name ⟨pathText name ++ partitions ++ arguments ++ ordinality, label, ← tableHints r⟩

/-! ### Other sources -/

/-- An array as a source, behind its word. -/
def unnestRelation (d : DialectName) (r : Readings) : Parse Relation := do
  let arrays ← inParens r.expressionTexts
  let ordinality ←
    if ← keywords? ["WITH", "ORDINALITY"] then pure " WITH ORDINALITY" else pure ""
  let label ← sourceAlias d
  let offset ←
    if ← keywords? ["WITH", "OFFSET"] then
      match ← optionalAlias reservedInProjection with
      | some name => pure (" WITH OFFSET AS " ++ name.text)
      | none => pure " WITH OFFSET"
    else pure ""
  return .other ⟨"UNNEST(" ++ arrays ++ ")" ++ ordinality, label, offset⟩

/-- A query or a function as a source, behind `LATERAL`. -/
def lateralRelation (d : DialectName) (r : Readings) : Parse Relation := do
  if ← symbol? "(" then derivedRelation d r "LATERAL "
  else
    let name ← objectName
    expectSymbol "("
    let arguments ←
      if ← symbol? ")" then pure []
      else
        let arguments ← commaSeparated (argument d r)
        expectSymbol ")"
        pure arguments
    wordedRelation d ("LATERAL " ++ pathText name ++ "(" ++ commas (argumentTexts arguments) ++ ")")

/-- A row of constants, by its wording, and whether its word stands in front. -/
def valueRow (d : DialectName) (r : Readings) : Parse (String × Bool) := do
  let marked ← keyword? "ROW"
  expectSymbol "("
  let values ←
    if d = .mySql && symbolAhead ")" (← get) then pure "" else r.expressionTexts
  expectSymbol ")"
  return ("(" ++ values ++ ")", marked)

/-- Rows of constants, behind their word.  A row with its word in front lends it to all of them. -/
def valueRows (d : DialectName) (r : Readings) : Parse String := do
  let rows ← commaSeparated (valueRow d r)
  let word := if rows.any Prod.snd then "ROW" else ""
  return "VALUES " ++ commas (rows.map fun row => word ++ row.1)

/-- Whether rows of constants start here. -/
def valuesAhead : List Lexeme → Bool
  | l :: .symbol "(" :: _ => l.isKeyword "VALUES"
  | _ => false

/-- Rows of constants as a source. -/
def rowsRelation (d : DialectName) (r : Readings) : Parse Relation := do
  expectKeyword "VALUES"
  let rows ← valueRows d r
  return .derived (.mk false none rows [] none none rows) ⟨"(" ++ rows ++ ")", ← sourceAlias d, ""⟩

/-- An expression as a source, behind `TABLE`. -/
def expressionRelation (d : DialectName) (r : Readings) : Parse Relation := do
  let value ← inParens r.expression
  wordedRelation d ("TABLE(" ++ value.text ++ ")")

/-! ### Documents as sources -/

/-- What a column of a document does where there is nothing to find, worded. -/
def columnFallback : Parse (Option String) := do
  let fallback ←
    if ← keyword? "NULL" then pure (some "NULL")
    else do
      if ← keyword? "ERROR" then pure (some "ERROR")
      else do
        if ← keyword? "DEFAULT" then pure (some ("DEFAULT " ++ (← constant).render))
        else pure none
  if fallback.isSome then expectKeyword "ON"
  return fallback

/-- What a column of a document does where it is empty and where it is wrong, worded. -/
def columnFallbacks : Nat → String → String → Parse String
  | 0, _, _ => refuse
  | n + 1, empty, wrong => do
    match ← columnFallback with
    | none => return empty ++ wrong
    | some fallback =>
      match ← expectOneOf ["EMPTY", "ERROR"] with
      | "EMPTY" => columnFallbacks n (" " ++ fallback ++ " ON EMPTY") wrong
      | _ => columnFallbacks n empty (" " ++ fallback ++ " ON ERROR")

/-- A column of the table that a document is read as, worded. -/
def documentColumn (d : DialectName) : Nat → Parse String
  | 0 => refuse
  | n + 1 => do
    if ← keyword? "NESTED" then
      let _ ← keyword? "PATH"
      let path ← constant
      expectKeyword "COLUMNS"
      let columns ← inParens (commaSeparated (documentColumn d n))
      return "NESTED PATH " ++ path.render ++ " COLUMNS (" ++ commas columns ++ ")"
    else
      let name ← identifier
      if ← keyword? "FOR" then
        expectKeyword "ORDINALITY"
        return name.text ++ " FOR ORDINALITY"
      else
        let (type, _) ← typeName d
        let tested ← if ← keyword? "EXISTS" then pure " EXISTS" else pure ""
        expectKeyword "PATH"
        let path ← constant
        let fallbacks ← columnFallbacks ((← remaining) + 1) "" ""
        return name.text ++ " " ++ type ++ tested ++ " PATH " ++ path.render ++ fallbacks

/-- A document read as a table, behind its word. -/
def documentRelation (d : DialectName) (r : Readings) : Parse Relation := do
  expectSymbol "("
  let document ← r.expression
  expectSymbol ","
  let path ← constant
  expectKeyword "COLUMNS"
  let columns ← inParens (commaSeparated (documentColumn d (← remaining)))
  expectSymbol ")"
  wordedRelation d ("JSON_TABLE(" ++ document.text ++ ", " ++ path.render ++ " COLUMNS(" ++
    commas columns ++ "))")

/-- A column of an opened document, worded. -/
def openedColumn (d : DialectName) : Parse String := do
  let name ← identifier
  let (type, _) ← typeName d
  let path ←
    match ← get with
    | .text .single value :: rest =>
      set rest
      pure (" " ++ inQuotes '\'' value)
    | _ => pure ""
  let whole ←
    if ← keyword? "AS" then
      expectKeyword "JSON"
      pure " AS JSON"
    else pure ""
  return name.text ++ " " ++ type ++ path ++ whole

/-- An opened document, behind its word. -/
def openedRelation (d : DialectName) (r : Readings) : Parse Relation := do
  expectSymbol "("
  let document ← r.expression
  let path ← if ← symbol? "," then pure (", " ++ (← constant).render) else pure ""
  expectSymbol ")"
  let columns ←
    if ← keyword? "WITH" then
      pure (" WITH (" ++ commas (← inParens (commaSeparated (openedColumn d))) ++ ")")
    else pure ""
  wordedRelation d ("OPENJSON(" ++ document.text ++ path ++ ")" ++ columns)

/-! ### Turned sources -/

/-- The wording of a name behind `AS`, if there is one. -/
def markedAlias : Parse String := do
  if ← keyword? "AS" then return " AS " ++ (← identifier).text else return ""

/-- An aggregate over the rows that become columns, worded. -/
def pivotAggregate (d : DialectName) (r : Readings) : Parse String := do
  match ← take with
  | .word name =>
    let call ← functionCall d r [⟨name.value, none⟩]
    return call.text ++ (← markedAlias)
  | _ => refuse

/-- The values whose rows become columns, worded. -/
def pivotValues (d : DialectName) (r : Readings) : Parse String := do
  if ← keyword? "ANY" then return spacedText ["ANY", orderText (← orderClause d r)]
  else if queryAhead (← get) then return (← r.query).text
  else
    return commas (← commaSeparated do
      let value ← r.expression
      return value.text ++ (← markedAlias))

/-- A source whose rows become columns, behind the word. -/
def pivotedRows (d : DialectName) (r : Readings) (source : Relation) : Parse Relation := do
  expectSymbol "("
  let aggregates ← commaSeparated (pivotAggregate d r)
  expectKeyword "FOR"
  let column ← objectName
  expectKeyword "IN"
  let values ← inParens (pivotValues d r)
  let default ←
    if ← keywords? ["DEFAULT", "ON", "NULL"] then
      pure (" DEFAULT ON NULL (" ++ (← inParens r.expression).text ++ ")")
    else pure ""
  expectSymbol ")"
  wordedRelation d (source.text ++ " PIVOT(" ++ commas aggregates ++ " FOR " ++ pathText column ++
    " IN (" ++ values ++ ")" ++ default ++ ")")

/-- A source whose columns become rows, behind the word. -/
def pivotedColumns (d : DialectName) (source : Relation) : Parse Relation := do
  expectSymbol "("
  let value ← identifier
  expectKeyword "FOR"
  let name ← identifier
  expectKeyword "IN"
  let columns ← identifiersInParens
  expectSymbol ")"
  wordedRelation d (source.text ++ " UNPIVOT(" ++ value.text ++ " FOR " ++ name.text ++ " IN (" ++
    commas (columns.map Ident.text) ++ "))")

/-- A source turned as often as the words say. -/
def pivoted (d : DialectName) (r : Readings) : Nat → Relation → Parse Relation
  | 0, source => return source
  | n + 1, source => do
    if ← keyword? "PIVOT" then pivoted d r n (← pivotedRows d r source)
    else if ← keyword? "UNPIVOT" then pivoted d r n (← pivotedColumns d source)
    else return source

/-! ### Joins -/

/-- The condition of a join. -/
def joinConstraint (r : Readings) (natural : Bool) : Parse JoinConstraint := do
  if natural then return .natural
  else if ← keyword? "ON" then return .on (← r.expression)
  else if ← keyword? "USING" then
    return .other (" USING(" ++ commas ((← identifiersInParens).map Ident.text) ++ ")")
  else return .other ""

/-- The wording of a condition behind a join. -/
def JoinConstraint.text : JoinConstraint → String
  | .on condition => " ON " ++ condition.text
  | .natural => ""
  | .other text => text

/-- The condition of a join with the closest row. -/
def closestMatch (r : Readings) : Parse JoinConstraint := do
  expectKeyword "MATCH_CONDITION"
  let closeness ← inParens r.expression
  let constraint ← joinConstraint r false
  return .other (" MATCH_CONDITION (" ++ closeness.text ++ ")" ++ constraint.text)

/-- The wording of a join. -/
def JoinTree.text : JoinTree → String
  | .mk clustered kind constraint relation =>
    let word := match kind with
      | .directed .inner => "JOIN"
      | .directed .left => "LEFT JOIN"
      | .directed .right => "RIGHT JOIN"
      | .other text => text
    let natural := match constraint with
      | .natural => "NATURAL "
      | _ => ""
    (if clustered then " GLOBAL " else " ") ++ natural ++ word ++ " " ++ relation.text ++
      constraint.text

/-- The wording of a source with its joins. -/
def joinedText (base : Relation) (joins : List JoinTree) : String :=
  base.text ++ String.join (joins.map JoinTree.text)

/-- The words of a join without a condition; `none` where no such join starts. -/
def plainJoinWords : Parse (Option JoinKind) := do
  if ← keyword? "CROSS" then return some (.other ("CROSS " ++ (← expectOneOf ["JOIN", "APPLY"])))
  else if ← keyword? "OUTER" then
    expectKeyword "APPLY"
    return some (.other "OUTER APPLY")
  else return none

/-- The words of a join that a condition may follow; `none` where no such join starts. -/
def joinWords : Parse (Option JoinKind) := do
  if ← keyword? "INNER" then
    expectKeyword "JOIN"
    return some (.directed .inner)
  else if ← keyword? "JOIN" then return some (.directed .inner)
  else if ← keyword? "FULL" then
    let _ ← keyword? "OUTER"
    expectKeyword "JOIN"
    return some (.other "FULL JOIN")
  else if let some word ← oneOf? ["SEMI", "ANTI"] then
    expectKeyword "JOIN"
    return some (.other (word ++ " JOIN"))
  else if let some side ← oneOf? ["LEFT", "RIGHT"] then
    let directed := JoinKind.directed (if side = "LEFT" then .left else .right)
    match ← expectOneOf ["OUTER", "SEMI", "ANTI", "JOIN"] with
    | "OUTER" =>
      expectKeyword "JOIN"
      return some directed
    | "JOIN" => return some directed
    | word =>
      expectKeyword "JOIN"
      return some (.other (side ++ " " ++ word ++ " JOIN"))
  else return none

/-! ### Sources with their joins -/

/-- A lone source in parentheses that have been taken: they are dropped, and an alias behind them
stands for one inside. -/
def unwrapped (d : DialectName) (source : Relation) : Parse Relation := do
  match ← sourceAlias d with
  | none => return source
  | some label => if source.wording.label.isSome then refuse else return source.labelled label

mutual

/-- A source, read with a bound on the nesting of parentheses. -/
def relation (d : DialectName) (r : Readings) : Nat → Parse Relation
  | 0 => refuse
  | n + 1 => do
    let ls ← get
    if ← keyword? "LATERAL" then lateralRelation d r
    else if ← keyword? "TABLE" then expressionRelation d r
    else if ← symbol? "(" then
      match ← attempt (derivedRelation d r "") with
      | some source => pivoted d r (← remaining) source
      | none => nestedRelation d r n
    else if d = .generic && valuesAhead ls then rowsRelation d r
    else if ← onlyIf (d = .generic || d = .postgres) (keyword? "UNNEST") then unnestRelation d r
    else if ← onlyIf (symbolAhead "(" (ls.drop 1)) (keyword? "JSON_TABLE") then documentRelation d r
    else if ← onlyIf (symbolAhead "(" (ls.drop 1)) (keyword? "OPENJSON") then openedRelation d r
    else
      let source ← namedRelation d r
      pivoted d r (← remaining) source

/-- Sources in parentheses, behind the opening one. -/
def nestedRelation (d : DialectName) (r : Readings) : Nat → Parse Relation
  | 0 => refuse
  | n + 1 => do
    let (base, joins) ← relationWithJoins d r n
    expectSymbol ")"
    match joins, base with
    | [], .table .. | [], .derived .. | [], .other .. =>
      if d = .generic then unwrapped d base else refuse
    | _, _ => return .joined ⟨"(" ++ joinedText base joins ++ ")", ← sourceAlias d, ""⟩

/-- A source with its joins. -/
def relationWithJoins (d : DialectName) (r : Readings) : Nat → Parse (Relation × List JoinTree)
  | 0 => refuse
  | n + 1 => do
    let base ← relation d r n
    return (base, ← joinChain d r n)

/-- Joins as long as there is another one. -/
def joinChain (d : DialectName) (r : Readings) : Nat → Parse (List JoinTree)
  | 0 => return []
  | n + 1 => do
    let clustered ← keyword? "GLOBAL"
    if let some kind ← plainJoinWords then
      let target ← relation d r n
      return .mk clustered kind (.other "") target :: (← joinChain d r n)
    else if ← keyword? "ASOF" then
      expectKeyword "JOIN"
      let target ← relation d r n
      let constraint ← closestMatch r
      return .mk clustered (.other "ASOF JOIN") constraint target :: (← joinChain d r n)
    else
      let natural ← keyword? "NATURAL"
      match ← joinWords with
      | none => if natural then refuse else return []
      | some kind =>
        let target ← relation d r n
        let constraint ← joinConstraint r natural
        return .mk clustered kind constraint target :: (← joinChain d r n)

end

/-- A source with its joins, among the lexemes to come. -/
def joinedSource (d : DialectName) (r : Readings) : Parse (Relation × List JoinTree) := do
  relationWithJoins d r (3 * (← remaining) + 3)

end Polyquery.Sql
