import Polyquery.Sql.SourceGrammar

/-!
# The grammar of selections in SQL

* `selectItem` - an entry of a projection;
* `groupClause` - the grouping of a selection;
* `windowClauses`, `hierarchyClause` - clauses behind the grouping, which are worded only;
* `selection` - a projection with its source, filter and grouping.

A part of a selection that plays no role in its meaning here is read and worded only.
-/

namespace Polyquery.Sql

/-! ### Projections -/

/-- A list in parentheses or a single entry, worded behind the word that announces it. -/
def listOrSingle (word : String) (item : Parse String) : Parse String := do
  if symbolAhead "(" (← get) then
    return " " ++ word ++ " (" ++ commas (← inParens (commaSeparated item)) ++ ")"
  else return " " ++ word ++ " " ++ (← item)

/-- What narrows or changes a star in a projection. -/
def starOptions (d : DialectName) (r : Readings) : Parse String := do
  if d = .generic then
    let name : Parse String := do return (← identifier).text
    let pattern ←
      if ← keyword? "ILIKE" then
        match ← take with
        | .text .single pattern => pure (" ILIKE " ++ inQuotes '\'' pattern)
        | _ => refuse
      else pure ""
    let excluded ←
      if ← onlyIf pattern.isEmpty (keyword? "EXCLUDE") then listOrSingle "EXCLUDE" name else pure ""
    let excepted ←
      if ← keyword? "EXCEPT" then
        if symbolAhead "(" (← get) then listOrSingle "EXCEPT" name
        else pure (" EXCEPT (" ++ (← name) ++ ")")
      else pure ""
    let replacement : Parse String := do
      let value ← r.expression
      let mark ← if ← keyword? "AS" then pure " AS " else pure " "
      return value.text ++ mark ++ (← name)
    let replaced ←
      if ← keyword? "REPLACE" then
        pure (" REPLACE (" ++ commas (← inParens (commaSeparated replacement)) ++ ")")
      else pure ""
    let change : Parse String := do
      let old ← name
      expectKeyword "AS"
      return old ++ " AS " ++ (← name)
    let renamed ← if ← keyword? "RENAME" then listOrSingle "RENAME" change else pure ""
    return pattern ++ excluded ++ excepted ++ replaced ++ renamed
  else return ""

/-- An expression in a projection with its alias, if it has one. -/
def valueItem (value : Tree) : Parse (SelectItem × String) := do
  match ← optionalAlias reservedInProjection with
  | some name => return (.value value (some name), value.text ++ " AS " ++ name.text)
  | none => return (.value value none, value.text)

/-- An entry of a projection, with its wording. -/
def selectItem (d : DialectName) (r : Readings) : Parse (SelectItem × String) := do
  match ← wildcardOrExpression r with
  | .everything => return (.everything, "*" ++ (← starOptions d r))
  | .everythingOf source =>
    return (.everythingOf source, pathText source ++ ".*" ++ (← starOptions d r))
  | .value (.name ⟨value, none⟩) =>
    if Text.lower value = "from" then refuse else valueItem (.name ⟨value, none⟩)
  | .value value => valueItem value
  | .other _ => refuse

/-- A bound on the number of rows in front of a projection. -/
def topClause (r : Readings) : Parse String := do
  if ← keyword? "TOP" then
    let quantity ←
      if ← symbol? "(" then
        let quantity ← r.expression
        expectSymbol ")"
        pure ("(" ++ quantity.text ++ ")")
      else wholeNumber
    let percent ← if ← keyword? "PERCENT" then pure " PERCENT" else pure ""
    let ties ← if ← keywords? ["WITH", "TIES"] then pure " WITH TIES" else pure ""
    return "TOP " ++ quantity ++ percent ++ ties
  else return ""

/-- Which duplicates a projection drops, with its wording. -/
def distinctClause (r : Readings) : Parse (DistinctTree × String) := do
  let every ← keyword? "ALL"
  if ← keyword? "DISTINCT" then
    if every then refuse
    else if ← keyword? "ON" then
      expectSymbol "("
      let columns ←
        if symbolAhead ")" (← get) then pure [] else commaSeparated r.expression
      expectSymbol ")"
      return (.distinctOn, "DISTINCT ON (" ++ commas (columns.map Tree.text) ++ ")")
    else return (.distinct, "DISTINCT")
  else return (.all, "")

/-- The table a selection is stored in. -/
def intoClause : Parse String := do
  if ← keyword? "INTO" then
    let temporary ← oneOf? ["TEMP", "TEMPORARY"]
    let unlogged ← keyword? "UNLOGGED"
    let table ← keyword? "TABLE"
    let name ← objectName
    return spacedText ["INTO", if temporary.isSome then "TEMPORARY" else "",
      if unlogged then "UNLOGGED" else "", if table then "TABLE" else "", pathText name]
  else return ""

/-! ### Groups -/

/-- Expressions in parentheses, or a single one without. -/
def groupingSet (r : Readings) (single : Bool) : Parse (List Tree) := do
  if single && !symbolAhead "(" (← get) then return [← r.expression]
  else
    expectSymbol "("
    if ← symbol? ")" then return []
    else
      let keys ← commaSeparated r.expression
      expectSymbol ")"
      return keys

/-- The wording of a set of grouping keys. -/
def groupingSetText (single : Bool) (keys : List Tree) : String :=
  match single, keys with
  | true, [key] => key.text
  | _, keys => "(" ++ commas (keys.map Tree.text) ++ ")"

/-- A grouping key. -/
def groupingKey (d : DialectName) (r : Readings) : Parse Tree := do
  let sets : String → Bool → Parse Tree := fun word single => do
    let sets ← inParens (commaSeparated (groupingSet r single))
    return .other (word ++ " (" ++ commas (sets.map (groupingSetText single)) ++ ")")
  if d = .generic || d = .postgres then
    if ← keywords? ["GROUPING", "SETS"] then sets "GROUPING SETS" false
    else if ← keyword? "CUBE" then sets "CUBE" true
    else if ← keyword? "ROLLUP" then sets "ROLLUP" true
    else
      match ← get with
      | .symbol "(" :: .symbol ")" :: rest =>
        set rest
        return .other "()"
      | _ => r.expression
  else r.expression

/-- The grouping of a selection, with its wording. -/
def groupClause (d : DialectName) (r : Readings) : Parse (GroupTree × String) := do
  if ← keywords? ["GROUP", "BY"] then
    let (grouping, text) ←
      if ← keyword? "ALL" then pure (GroupTree.byEverything, "GROUP BY ALL")
      else
        let keys ← commaSeparated (groupingKey d r)
        pure (GroupTree.by keys, "GROUP BY " ++ commas (keys.map Tree.text))
    let modifiers ← repeated (do
      if d = .generic then
        if ← keyword? "WITH" then
          return some (" WITH " ++ (← expectOneOf ["ROLLUP", "CUBE", "TOTALS"]))
        else return none
      else return none) (← remaining)
    return (grouping, text ++ String.join modifiers)
  else return (.by [], "")

/-- An expression behind a word, if the word stands in front. -/
def optionalClause (r : Readings) (word : String) : Parse (Option Tree) := do
  if ← keyword? word then return some (← r.expression) else return none

/-- A list of expressions behind two words, worded. -/
def listClause (r : Readings) (first second : String) : Parse String := do
  if ← keywords? [first, second] then
    return first ++ " " ++ second ++ " " ++ (← r.expressionTexts)
  else return ""

/-! ### Windows and hierarchies -/

/-- A named window, worded. -/
def namedWindow (d : DialectName) (r : Readings) : Parse String := do
  let name ← identifier
  expectKeyword "AS"
  if ← symbol? "(" then return name.text ++ " AS (" ++ (← windowSpec d r) ++ ")"
  else if d = .generic then return name.text ++ " AS " ++ (← identifier).text
  else refuse

/-- Named windows behind their word, worded, if they are there. -/
def windowClause (d : DialectName) (r : Readings) : Parse String := do
  if ← keyword? "WINDOW" then
    return "WINDOW " ++ commas (← commaSeparated (namedWindow d r))
  else return ""

/-- Named windows and the filter over them, in any order, worded as they are written. -/
def windowClauses (d : DialectName) (r : Readings) : Parse String := do
  let filter : Parse String := do
    return ((← optionalClause r "QUALIFY").map fun t => "QUALIFY " ++ t.text).getD ""
  let windows ← windowClause d r
  if windows.isEmpty then
    let filter ← filter
    if filter.isEmpty then return "" else return spacedText [filter, ← windowClause d r]
  else return spacedText [windows, ← filter]

/-- The steps of a hierarchy, behind their words, worded. -/
def hierarchySteps (r : Readings) : Parse String := do
  expectKeywords ["CONNECT", "BY"]
  return "CONNECT BY " ++ commas ((← commaSeparated r.hierarchical).map Tree.text)

/-- The start of a hierarchy, behind its words, worded. -/
def hierarchyStart (r : Readings) : Parse String := do
  expectKeywords ["START", "WITH"]
  return "START WITH " ++ (← r.expression).text

/-- The start and the steps of a hierarchy in any order, worded with the start in front. -/
def hierarchyClause (d : DialectName) (r : Readings) : Parse String := do
  let ls ← get
  if d = .generic && (keywordsAhead ["START"] ls || keywordsAhead ["CONNECT"] ls) then
    if keywordsAhead ["CONNECT", "BY"] ls then
      let steps ← hierarchySteps r
      return spacedText [← hierarchyStart r, steps]
    else
      let start ← hierarchyStart r
      return spacedText [start, ← hierarchySteps r]
  else return ""

/-! ### Selections -/

/-- Columns that a function spreads over rows, worded. -/
def lateralView (r : Readings) : Parse (Option String) := do
  if ← keywords? ["LATERAL", "VIEW"] then
    let outer ← if ← keyword? "OUTER" then pure "OUTER " else pure ""
    let value ← r.expression
    let name ← objectName
    let label := optionalAlias ["WHERE", "GROUP", "CLUSTER", "HAVING", "LATERAL"]
    let names := (← commaSeparated label).filterMap id
    let namesText := if names.isEmpty then "" else " AS " ++ commas (names.map Ident.text)
    return some ("LATERAL VIEW " ++ outer ++ value.text ++ " " ++ pathText name ++ namesText)
  else return none

/-- A selection, with its wording. -/
def selection (d : DialectName) (r : Readings) : Parse (SelectTree × String) := do
  expectKeyword "SELECT"
  let (duplicates, distinctText) ← distinctClause r
  let top ← topClause r
  let items ← commaSeparated (selectItem d r)
  let into ← intoClause
  let sources ← if ← keyword? "FROM" then commaSeparated (joinedSource d r) else pure []
  let views ← repeated (lateralView r) (← remaining)
  let earlier ← if d = .generic then optionalClause r "PREWHERE" else pure none
  let filter ← optionalClause r "WHERE"
  let (grouping, groupText) ← groupClause d r
  let cluster ← listClause r "CLUSTER" "BY"
  let distribute ← listClause r "DISTRIBUTE" "BY"
  let sort ← listClause r "SORT" "BY"
  let having ← optionalClause r "HAVING"
  let windows ← windowClauses d r
  let hierarchy ← hierarchyClause d r
  let clause := fun (word : String) (tree : Option Tree) =>
    (tree.map fun t => word ++ " " ++ t.text).getD ""
  let sourceTexts := sources.map fun (base, joins) => joinedText base joins
  let text := spacedText ["SELECT", distinctText, top, commas (items.map Prod.snd), into,
    if sources.isEmpty then "" else "FROM " ++ commas sourceTexts, spacedText views,
    clause "PREWHERE" earlier, clause "WHERE" filter, groupText, cluster, distribute, sort,
    clause "HAVING" having, windows, hierarchy]
  let (base, joins) := match sources with
    | [(base, joins)] => (some base, joins)
    | _ => (none, [])
  return (.mk duplicates (items.map Prod.fst) sources.length base joins filter grouping
    having.isSome, text)

end Polyquery.Sql
