import Polyquery.Sql.ChangeGrammar

/-!
# The grammar of SQL queries

* `queryBody` - selections and their combinations;
* `query` - a body with its ordering and paging;
* `readers` - expressions and queries within a nesting limit.

A part of a query that plays no role in its meaning here is read and worded only.
-/

namespace Polyquery.Sql

/-! ### Bodies of queries -/

/-- The name of a table behind `TABLE`, worded without quotes.  Three lexemes are taken, wherever
the name ends. -/
def tableReference : Parse String := do
  let ls ← get
  set (ls.drop 3)
  match ls with
  | .word schema :: .symbol "." :: .word name :: _ => return schema.value ++ "." ++ name.value
  | _ :: .symbol "." :: _ => refuse
  | .word name :: _ => return name.value
  | _ => refuse

/-- The body of a query: a selection, or anything else by its wording. -/
def simpleBody (d : DialectName) (r : Readings) : Parse (Option SelectTree × String) := do
  if keywordsAhead ["SELECT"] (← get) then
    let (tree, text) ← selection d r
    return (some tree, text)
  else if ← symbol? "(" then
    let query ← r.query
    expectSymbol ")"
    return (none, "(" ++ query.text ++ ")")
  else if ← keyword? "VALUES" then return (none, ← valueRows d r)
  else
    expectKeyword "TABLE"
    return (none, "TABLE " ++ (← tableReference))

/-- How a set operation treats duplicates and columns, worded.  Only a union matches columns by
name. -/
def setQuantifier (operator : String) : Parse String := do
  let named ← if operator = "UNION" then keywords? ["DISTINCT", "BY", "NAME"] else pure false
  if named then return " DISTINCT BY NAME"
  else
    let word ← oneOf? ["ALL", "DISTINCT"]
    let named ←
      if operator = "UNION" && word ≠ some "DISTINCT" then keywords? ["BY", "NAME"] else pure false
    return ((word.map fun w => " " ++ w).getD "") ++ (if named then " BY NAME" else "")

/-- Further operands of set operations of one strength. -/
def setChain (operators : List String) (operand : Parse (Option SelectTree × String)) :
    Nat → Option SelectTree × String → Parse (Option SelectTree × String)
  | 0, left => return left
  | n + 1, left => do
    match ← oneOf? operators with
    | none => return left
    | some operator =>
      let quantifier ← setQuantifier operator
      let right ← operand
      setChain operators operand n
        (none, left.2 ++ " " ++ operator ++ quantifier ++ " " ++ right.2)

/-- The body of a query; `INTERSECT` binds more tightly than `UNION` and `EXCEPT`. -/
def queryBody (d : DialectName) (r : Readings) : Parse (Option SelectTree × String) := do
  let tight : Parse (Option SelectTree × String) := do
    let first ← simpleBody d r
    setChain ["INTERSECT"] (simpleBody d r) (← remaining) first
  let first ← tight
  setChain ["UNION", "EXCEPT"] tight (← remaining) first

/-- A named query in front of another. -/
def commonTable (d : DialectName) (r : Readings) : Parse String := do
  let name ← identifier
  let columns ← aliasColumns d
  expectKeyword "AS"
  let materialized ←
    if d = .postgres then
      if ← keyword? "MATERIALIZED" then pure "MATERIALIZED "
      else do
        if ← keywords? ["NOT", "MATERIALIZED"] then pure "NOT MATERIALIZED " else pure ""
    else pure ""
  let query ← inParens r.query
  let source ← if ← keyword? "FROM" then pure (" FROM " ++ (← identifier).text) else pure ""
  return name.text ++ columns ++ " AS " ++ materialized ++ "(" ++ query.text ++ ")" ++ source

/-- Named queries in front of another. -/
def withClause (d : DialectName) (r : Readings) : Parse String := do
  if ← keyword? "WITH" then
    let recursive ← keyword? "RECURSIVE"
    let tables ← commaSeparated (commonTable d r)
    return (if recursive then "WITH RECURSIVE " else "WITH ") ++ commas tables
  else return ""

/-- A bound and an offset on the rows of a query, either first, and the wording of the offset. -/
structure Paging where
  limit : Option Tree
  offset : Option Tree
  offsetText : String

/-- One of the paging clauses, in the order they are written. -/
def pagingStep (d : DialectName) (r : Readings) (paging : Paging) : Parse Paging := do
  let paging ←
    if paging.limit.isNone then
      if ← keyword? "LIMIT" then
        if ← keyword? "ALL" then pure paging
        else pure { paging with limit := some (← r.expression) }
      else pure paging
    else pure paging
  let paging ←
    if paging.offset.isNone then
      if ← keyword? "OFFSET" then
        let offset ← r.expression
        let rows := (← oneOf? ["ROW", "ROWS"]).map fun word => " " ++ word
        pure ⟨paging.limit, some offset, "OFFSET " ++ offset.text ++ rows.getD ""⟩
      else pure paging
    else pure paging
  match paging.limit, paging.offset with
  | some offset, none =>
    if d ≠ .postgres && symbolAhead "," (← get) then
      expectSymbol ","
      return ⟨some (← r.expression), some offset, "OFFSET " ++ offset.text⟩
    else return paging
  | _, _ => return paging

/-- A bound on the rows of a query in words. -/
def fetchClause : Parse String := do
  if ← keyword? "FETCH" then
    let _ ← expectOneOf ["FIRST", "NEXT"]
    let quantity ←
      match ← oneOf? ["ROW", "ROWS"] with
      | some _ => pure ""
      | none =>
        let quantity ← constant
        let percent ← if ← keyword? "PERCENT" then pure " PERCENT" else pure ""
        let _ ← expectOneOf ["ROW", "ROWS"]
        pure (" " ++ quantity.render ++ percent)
    if ← keyword? "ONLY" then return "FETCH FIRST" ++ quantity ++ " ROWS ONLY"
    else
      expectKeywords ["WITH", "TIES"]
      return "FETCH FIRST" ++ quantity ++ " ROWS WITH TIES"
  else return ""

/-- A lock on the rows of a query, behind its first word. -/
def lockBody : Parse String := do
  let mode ← expectOneOf ["UPDATE", "SHARE"]
  let target ← if ← keyword? "OF" then pure (" OF " ++ pathText (← objectName)) else pure ""
  let wait ←
    if ← keyword? "NOWAIT" then pure " NOWAIT"
    else do
      if ← keywords? ["SKIP", "LOCKED"] then pure " SKIP LOCKED" else pure ""
  return "FOR " ++ mode ++ target ++ wait

/-- A column that an ordering with gaps carries on, worded. -/
def carriedColumn (r : Readings) : Parse String := do
  return (← identifier).text ++ (← clauseText r "AS")

/-- The columns that an ordering with gaps carries on, worded. -/
def interpolateClause (d : DialectName) (r : Readings) : Parse String := do
  if ← onlyIf (d = .generic) (keyword? "INTERPOLATE") then
    if ← symbol? "(" then
      if ← symbol? ")" then return " INTERPOLATE ()"
      else
        let columns ← commaSeparated (carriedColumn r)
        expectSymbol ")"
        return " INTERPOLATE (" ++ commas columns ++ ")"
    else return " INTERPOLATE"
  else return ""

/-- The format of the rows of a query, worded. -/
def formatClause (d : DialectName) : Parse String := do
  if ← onlyIf (d = .generic) (keyword? "FORMAT") then
    if ← keyword? "NULL" then return "FORMAT NULL" else return "FORMAT " ++ (← identifier).text
  else return ""

/-! ### Rows as documents -/

/-- A text in parentheses, worded between quotes as it stands, if it is there. -/
def optionalElementName (d : DialectName) : Parse String := do
  if symbolAhead "(" (← get) then return "('" ++ (← inParens (literalString d)) ++ "')"
  else return ""

/-- How the rows of a query are turned into one document. -/
structure RowsDocument where
  form : String
  binary : Bool
  typed : Bool
  /-- The wording of the name of the outermost element, if there is one. -/
  root : Option String
  elements : Bool
  nulls : Bool
  bare : Bool

/-- The name of the outermost element in parentheses, worded. -/
def rootName (d : DialectName) : Parse (Option String) := do
  return some (", ROOT('" ++ (← inParens (literalString d)) ++ "')")

/-- Options behind commas for rows as an XML document; other words end them. -/
def xmlOptions (d : DialectName) : Nat → RowsDocument → Parse RowsDocument
  | 0, form => return form
  | n + 1, form => do
    if ← symbol? "," then
      if ← keyword? "ELEMENTS" then xmlOptions d n { form with elements := true }
      else if ← keyword? "BINARY" then
        expectKeyword "BASE64"
        xmlOptions d n { form with binary := true }
      else if ← keyword? "ROOT" then xmlOptions d n { form with root := ← rootName d }
      else if ← keyword? "TYPE" then xmlOptions d n { form with typed := true }
      else xmlOptions d n form
    else return form

/-- Options behind commas for rows as a JSON document; other words end them. -/
def jsonOptions (d : DialectName) : Nat → RowsDocument → Parse RowsDocument
  | 0, form => return form
  | n + 1, form => do
    if ← symbol? "," then
      if ← keyword? "ROOT" then jsonOptions d n { form with root := ← rootName d }
      else if ← keyword? "INCLUDE_NULL_VALUES" then jsonOptions d n { form with nulls := true }
      else if ← keyword? "WITHOUT_ARRAY_WRAPPER" then jsonOptions d n { form with bare := true }
      else jsonOptions d n form
    else return form

/-- The wording of rows as a document. -/
def RowsDocument.text (form : RowsDocument) : String :=
  let mark := fun (set : Bool) (word : String) => if set then ", " ++ word else ""
  "FOR " ++ form.form ++ mark form.binary "BINARY BASE64" ++ mark form.typed "TYPE" ++
    form.root.getD "" ++ mark form.elements "ELEMENTS" ++ mark form.nulls "INCLUDE_NULL_VALUES" ++
    mark form.bare "WITHOUT_ARRAY_WRAPPER"

/-- Rows as a document, behind the first word, if they are asked for. -/
def documentBody? (d : DialectName) : Parse (Option String) := do
  let bound ← remaining
  let start : String → RowsDocument := fun form => ⟨form, false, false, none, false, false, false⟩
  if ← keyword? "XML" then
    let word ← expectOneOf ["RAW", "AUTO", "EXPLICIT", "PATH"]
    let name ← if word = "RAW" || word = "PATH" then optionalElementName d else pure ""
    return some (← xmlOptions d bound (start ("XML " ++ word ++ name))).text
  else if ← keyword? "JSON" then
    let word ← expectOneOf ["AUTO", "PATH"]
    return some (← jsonOptions d bound (start ("JSON " ++ word))).text
  else if ← keyword? "BROWSE" then return some "FOR BROWSE"
  else return none

/-- Locks on the rows of a query, worded, up to a document of them, which ends them. -/
def lockClauses (d : DialectName) : Nat → Parse (List String)
  | 0 => return []
  | n + 1 => do
    if ← keyword? "FOR" then
      match ← documentBody? d with
      | some document => return [document]
      | none =>
        let lock ← lockBody
        return lock :: (← lockClauses d n)
    else return []

/-! ### Queries -/

/-- A query that changes no rows, behind its named queries. -/
def selectingQuery (d : DialectName) (r : Readings) (withText : String) : Parse QueryTree := do
  let (select, bodyText) ← queryBody d r
  let ordering ← orderClause d r
  let carried ← if ordering.isEmpty then pure "" else interpolateClause d r
  let paging ← pagingStep d r ⟨none, none, ""⟩
  let paging ← pagingStep d r paging
  let limitBy ←
    if d = .generic then
      if ← keyword? "BY" then pure ("BY " ++ (← r.expressionTexts)) else pure ""
    else pure ""
  let settings ← settingsClause d
  let fetch ← fetchClause
  let locks ← lockClauses d (← remaining)
  let format ← formatClause d
  let limitText := (paging.limit.map fun t => "LIMIT " ++ t.text).getD ""
  return .mk (!withText.isEmpty) select bodyText ordering paging.limit paging.offset
    (spacedText ([withText, bodyText, orderText ordering ++ carried, limitText, paging.offsetText,
      limitBy, settings, fetch] ++ locks ++ [format]))

/-- A query.  One that changes rows goes by its first word. -/
def query (d : DialectName) (r : Readings) : Parse QueryTree := do
  let withText ← withClause d r
  let changing : String → QueryTree := fun word =>
    .mk (!withText.isEmpty) none word [] none none (spacedText [withText, word])
  if ← keyword? "INSERT" then
    insertBody d r
    return changing "INSERT"
  else if ← keyword? "UPDATE" then
    updateBody d r
    return changing "UPDATE"
  else selectingQuery d r withText

/-- Expressions and queries that nest at most the given number of levels, inside or outside a
hierarchy.  The readings inside a hierarchy are made where one stands, not with every level. -/
def readers (d : DialectName) (prior : Bool) : Nat → Deeper
  | 0 => ⟨fun _ => throw .tooDeep, throw .tooDeep, throw .tooDeep, prior⟩
  | n + 1 =>
    let inner := readings d (readers d prior n)
    ⟨subexpression d inner, query d inner,
      fun ls => subexpression d (readings d (readers d true n)) 0 ls, prior⟩

end Polyquery.Sql
