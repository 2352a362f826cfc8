import Polyquery.Sql.Precedence
import Polyquery.Sql.TypeName

/-!
# The grammar of calls in SQL

* `Deeper`, `Readings` - the readings that the grammar of expressions and queries recurs by;
* `orderItem` - a term of an ordering;
* `argumentList` - the arguments of a call with the clauses behind them;
* `windowSpec` - a window;
* `intervalBody` - a duration, which may also bound a window;
* `functionCall` - a call of a named function.
-/

namespace Polyquery.Sql

/-- The readings one level further down. -/
structure Deeper where
  /-- An expression whose operators bind more tightly than the given strength. -/
  subexpression : Nat → Parse Tree
  query : Parse QueryTree
  /-- An expression of a hierarchy, where `PRIOR` is an operator. -/
  hierarchical : Parse Tree
  /-- `PRIOR` is an operator here. -/
  prior : Bool

/-- The readings that the forms of one level are made of: those one level further down and an
operand of the level itself. -/
structure Readings extends Deeper where
  /-- An operand, for the forms that take one without nesting. -/
  operand : Parse Tree

/-- An expression of any operators. -/
def Readings.expression (r : Readings) : Parse Tree := r.subexpression 0

/-- The wordings of expressions with commas between them. -/
def Readings.expressionTexts (r : Readings) : Parse String := do
  return commas ((← commaSeparated r.expression).map Tree.text)

/-- Whether a query starts here. -/
def queryAhead (ls : List Lexeme) : Bool :=
  keywordsAhead ["SELECT"] ls || keywordsAhead ["WITH"] ls

/-! ### Orderings -/

/-- The wording of an expression behind a word, if the word stands in front. -/
def clauseText (r : Readings) (word : String) : Parse String := do
  if ← keyword? word then return " " ++ word ++ " " ++ (← r.expression).text else return ""

/-- How an ordering fills the gaps between its values, worded. -/
def fillClause (d : DialectName) (r : Readings) : Parse String := do
  if d = .generic then
    if ← keywords? ["WITH", "FILL"] then
      let start ← clauseText r "FROM"
      let stop ← clauseText r "TO"
      return " WITH FILL" ++ start ++ stop ++ (← clauseText r "STEP")
    else return ""
  else return ""

/-- An ordering term. -/
def orderItem (d : DialectName) (r : Readings) : Parse OrderItem := do
  let value ← r.expression
  let ascending ← keyword? "ASC"
  let descending ← if ascending then pure false else keyword? "DESC"
  let nulls ←
    if ← keywords? ["NULLS", "FIRST"] then pure " NULLS FIRST"
    else do
      if ← keywords? ["NULLS", "LAST"] then pure " NULLS LAST" else pure ""
  let fill ← fillClause d r
  return ⟨value, descending,
    (if descending then " DESC" else if ascending then " ASC" else "") ++ nulls ++ fill⟩

/-- Ordering terms behind their words, if they are there. -/
def orderClause (d : DialectName) (r : Readings) : Parse (List OrderItem) := do
  if ← keywords? ["ORDER", "BY"] then commaSeparated (orderItem d r) else return []

/-- The wording of ordering terms behind their words, if there are any. -/
def orderText (items : List OrderItem) : String :=
  if items.isEmpty then "" else "ORDER BY " ++ commas (items.map OrderItem.text)

/-! ### Durations -/

/-- The number of digits of a unit in parentheses, if it is there. -/
def unitPrecision : Parse String := do
  if symbolAhead "(" (← get) then return "(" ++ (← inParens wholeNumber) ++ ")" else return ""

/-- The rest of a duration, behind its word. -/
def intervalBody (d : DialectName) (r : Readings) : Parse Tree := do
  let value ← if d = .mySql then r.expression else r.operand
  let unit ←
    if ((← get).head?.map fun l => l.isOneOf temporalUnits).getD false then dateField d
    else if d = .mySql then refuse
    else pure ""
  let precision ← if unit = "SECOND" then optionalPrecision ", " else unitPrecision
  let last ←
    if ← onlyIf (unit ≠ "SECOND") (keyword? "TO") then
      let last ← dateField d
      pure (spacedText ["TO", last, ← if last = "SECOND" then unitPrecision else pure ""])
    else pure ""
  return .other (spacedText ["INTERVAL", value.text, unit, precision, last])

/-! ### Arguments -/

/-- The operator between the name of an argument and its value. -/
def argumentMark (d : DialectName) : Parse String := do
  if ← keyword? "VALUE" then return "VALUE"
  else if ← symbol? "=>" then return "=>"
  else if ← symbol? ":=" then if d = .generic then return ":=" else refuse
  else if ← symbol? ":" then if d = .postgres then return ":" else refuse
  else refuse

/-- A part of a path behind its point, and whether it is a star, which ends the path. -/
def wildcardPart : Parse (Option Ident) := do
  match ← take with
  | .word name => return some name
  | .text .single value => return some ⟨value, some '\''⟩
  | .symbol "*" => return none
  | _ => refuse

/-- Whether a path ends in a star, by the lexemes from a point on; a path that breaks off ends
neither way. -/
def starPath : Nat → List Ident → Parse (Option (List Ident))
  | 0, _ => return none
  | n + 1, names => do
    if ← symbol? "." then
      match ← wildcardPart with
      | some name => starPath n (name :: names)
      | none => return some names.reverse
    else return none

/-- Everything or everything of a source, if one of them stands in front. -/
def wildcard? : Parse (Option Argument) := do
  let start ← get
  match start with
  | .symbol "*" :: rest =>
    set rest
    return some .everything
  | first :: .symbol "." :: _ =>
    match first with
    | .word _ | .text .single _ =>
      let name ← identifier
      match ← starPath (← remaining) [name] with
      | some names => return some (.everythingOf names)
      | none =>
        set start
        return none
    | _ => return none
  | _ => return none

/-- Everything, everything of a source, or an expression. -/
def wildcardOrExpression (r : Readings) : Parse Argument := do
  match ← wildcard? with
  | some star => return star
  | none => return .value (← r.expression)

/-- The rest of an argument with a name in front, by the wording of the name. -/
def namedArgument (d : DialectName) (r : Readings) (name : String) : Parse Argument := do
  let mark ← argumentMark d
  let value ← wildcardOrExpression r
  return .other (name ++ " " ++ mark ++ " " ++ value.text)

/-- An argument of a call.  Where any expression may name an argument, the expression that turns out
to name none is the argument itself. -/
def argument (d : DialectName) (r : Readings) : Parse Argument := do
  let start ← get
  if d = .postgres then
    match ← attempt r.expression with
    | none => wildcardOrExpression r
    | some name =>
      match ← attempt (namedArgument d r name.text) with
      | some named => return named
      | none =>
        let behind ← get
        set start
        match ← wildcard? with
        | some star => return star
        | none =>
          set behind
          return .value name
  else
    match ← attempt (do namedArgument d r (← identifier).text) with
    | some named => return named
    | none => wildcardOrExpression r

/-- How a function treats nulls. -/
def nullTreatment : Parse (Option String) := do
  match ← oneOf? ["RESPECT", "IGNORE"] with
  | some word =>
    expectKeyword "NULLS"
    return some (word ++ " NULLS")
  | none => return none

/-- Whether nulls go into a document that a call builds. -/
def nullClause : Parse (List String) := do
  if ← keywords? ["ABSENT", "ON", "NULL"] then return ["ABSENT ON NULL"]
  else if ← keywords? ["NULL", "ON", "NULL"] then return ["NULL ON NULL"]
  else return []

/-- What becomes of a text that grows too long. -/
def overflowClause (r : Readings) : Parse (List String) := do
  if ← keywords? ["ON", "OVERFLOW"] then
    if ← keyword? "ERROR" then return ["ON OVERFLOW ERROR"]
    else
      expectKeyword "TRUNCATE"
      let filler ←
        match ← get with
        | .text .single _ :: _ | .text .escaped _ :: _ | .text .unicode _ :: _ |
          .text .national _ :: _ | .text .hex _ :: _ => pure (← r.expression).text
        | _ => pure ""
      let count ← expectOneOf ["WITH", "WITHOUT"]
      expectKeyword "COUNT"
      return [spacedText ["ON OVERFLOW TRUNCATE", filler, count, "COUNT"]]
  else return []

/-- A list with the item that a word in front announces, if it stands there. -/
def wordClause (word : String) (item : Parse String) : Parse (List String) := do
  if ← keyword? word then return [word ++ " " ++ (← item)] else return []

/-- The clauses behind the arguments of a call, and whether they say how nulls are treated. -/
def argumentClauses (d : DialectName) (r : Readings) : Parse (List String × Bool) := do
  let nulls ← if d = .generic then nullTreatment else pure none
  let order ←
    if ← keywords? ["ORDER", "BY"] then
      pure [orderText (← commaSeparated (orderItem d r))]
    else pure []
  let limit ← wordClause "LIMIT" do return (← r.expression).text
  let bound ←
    if d = .generic then
      wordClause "HAVING" do
        let kind ← expectOneOf ["MIN", "MAX"]
        return kind ++ " " ++ (← r.expression).text
    else pure []
  let separator ←
    if d = .generic || d = .mySql then wordClause "SEPARATOR" do return (← constant).render
    else pure []
  let overflow ← overflowClause r
  let absent ← nullClause
  return (nulls.toList ++ order ++ limit ++ bound ++ separator ++ overflow ++ absent,
    nulls.isSome)

/-- The arguments of a call between its parentheses. -/
structure ArgumentList where
  shape : CallShape
  arguments : List Argument
  /-- A clause says how nulls are treated. -/
  nullsTreated : Bool

/-- The arguments of a call, behind its opening parenthesis. -/
def argumentList (d : DialectName) (r : Readings) : Parse ArgumentList := do
  let absent ← nullClause
  if ← symbol? ")" then return ⟨.arguments none absent, [], false⟩
  else
    let every ← keyword? "ALL"
    let distinct ← keyword? "DISTINCT"
    if every && distinct then refuse
    else
      let arguments ← commaSeparated (argument d r)
      let (clauses, nullsTreated) ← argumentClauses d r
      expectSymbol ")"
      let treatment :=
        if every then some "ALL" else if distinct then some "DISTINCT" else none
      return ⟨.arguments treatment (absent ++ clauses), arguments, nullsTreated⟩

/-! ### Windows -/

/-- A bound of a window frame. -/
def frameBound (d : DialectName) (r : Readings) : Parse String := do
  if ← keywords? ["CURRENT", "ROW"] then return "CURRENT ROW"
  else
    let rows ←
      if ← keyword? "UNBOUNDED" then pure "UNBOUNDED"
      else
        match ← get with
        | .text .single _ :: _ => pure (← intervalBody d r).text
        | _ => pure (← r.expression).text
    return rows ++ " " ++ (← expectOneOf ["PRECEDING", "FOLLOWING"])

/-- The rows of a window around the current one, worded. -/
def frameClause (d : DialectName) (r : Readings) : Parse String := do
  let units ← expectOneOf ["ROWS", "RANGE", "GROUPS"]
  if ← keyword? "BETWEEN" then
    let start ← frameBound d r
    expectKeyword "AND"
    return units ++ " BETWEEN " ++ start ++ " AND " ++ (← frameBound d r)
  else return units ++ " " ++ (← frameBound d r)

/-- A window, behind its opening parenthesis. -/
def windowSpec (d : DialectName) (r : Readings) : Parse String := do
  let name ←
    match ← get with
    | l@(.word name) :: rest =>
      if l.isVocabulary then pure ""
      else
        set rest
        pure name.text
    | _ => pure ""
  let partition ←
    if ← keywords? ["PARTITION", "BY"] then
      pure ("PARTITION BY " ++ (← r.expressionTexts))
    else pure ""
  let order := orderText (← orderClause d r)
  let frame ←
    if symbolAhead ")" (← get) then pure "" else frameClause d r
  expectSymbol ")"
  return spacedText [name, partition, order, frame]

/-- What a call ranges over, if it ranges over a window. -/
def overClause (d : DialectName) (r : Readings) : Parse (Option String) := do
  if ← keyword? "OVER" then
    if ← symbol? "(" then return some (" OVER (" ++ (← windowSpec d r) ++ ")")
    else return some (" OVER " ++ (← identifier).text)
  else return none

/-! ### Calls -/

/-- The condition on the rows that an aggregate takes in.  Where the words do not go on as one,
those that have been taken stay taken. -/
def aggregateFilter (d : DialectName) (r : Readings) : Parse String := do
  if d = .sqlite || d = .postgres then
    if ← keyword? "FILTER" then
      if ← symbol? "(" then
        if ← keyword? "WHERE" then
          let condition ← r.expression
          expectSymbol ")"
          return " FILTER (WHERE " ++ condition.text ++ ")"
        else return ""
      else return ""
    else return ""
  else return ""

/-- The parts of a call of a named function, and its arguments. -/
def callParts (d : DialectName) (r : Readings) (name : List Ident) :
    Parse (CallHead × List Argument) := do
  expectSymbol "("
  let list ← argumentList d r
  let (parameters, list) ← do
    if d = .generic then
      if ← symbol? "(" then
        let arguments ← argumentList d r
        pure ((CallHead.of [] list.shape).apply (argumentTexts list.arguments), arguments)
      else pure ("", list)
    else pure ("", list)
  let group ←
    if ← keywords? ["WITHIN", "GROUP"] then
      let order ← inParens do
        expectKeywords ["ORDER", "BY"]
        commaSeparated (orderItem d r)
      pure (" WITHIN GROUP (" ++ orderText order ++ ")")
    else pure ""
  let filter ← aggregateFilter d r
  let nulls ← if list.nullsTreated then pure none else nullTreatment
  let window ← overClause d r
  let tail := group ++ filter ++ ((nulls.map fun n => " " ++ n).getD "") ++ window.getD ""
  return (⟨name, parameters, list.shape, window.isSome, tail, false⟩, list.arguments)

/-- A call of a named function. -/
def functionCall (d : DialectName) (r : Readings) (name : List Ident) : Parse Tree := do
  let (head, arguments) ← callParts d r name
  return .call head arguments

/-- A call whose parentheses may be left out. -/
def timeFunction (d : DialectName) (r : Readings) (name : Ident) : Parse Tree := do
  if ← symbol? "(" then
    let list ← argumentList d r
    return .call (.of [name] list.shape) list.arguments
  else return .call (.of [name] .bare) []

end Polyquery.Sql
