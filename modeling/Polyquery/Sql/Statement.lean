import Polyquery.Query
import Polyquery.Sql.Render

/-!
# SQL statements

Statements are assembled from a query token by token; every expression goes through
`Dialect.render`.

* `Dialect.selectTokens`, `insertTokens`, `updateTokens`, `deleteTokens` - one kind of statement;
* `Dialect.statementTokens` - any statement, a SELECT with its paging clause;
* `Dialect.format` and its companions - the texts.
-/

namespace Polyquery.Sql

/-! ### Clauses -/

/-- A clause behind a space, after its keyword. -/
def clause (k : Keyword) (ts : List Token) : List Token := Token.spaced (.keyword k) ++ ts

/-- A row bound and an offset, each only if positive. -/
def boundTokens (limit offset : Int64) : List Token :=
  Token.separated [.space]
    ((if 0 < limit then [[.keyword .limit, .space, .int limit]] else []) ++
      (if 0 < offset then [[.keyword .offset, .space, .int offset]] else []))

namespace Dialect

variable (d : Dialect)

/-- The paging clause; an offset without a bound takes the largest one where the dialect
needs it. -/
def pagingTokens (limit offset : Int64) : List Token :=
  match d.unboundedLimit with
  | none => boundTokens limit offset
  | some unbounded =>
    if 0 < limit ∨ ¬ 0 < offset then boundTokens limit offset
    else
      [.keyword .limit, .space, .raw unbounded, .space, .keyword .offset, .space, .int offset]

/-- The paging clause behind a space, if there is one. -/
def pagingClause (limit offset : Int64) : List Token :=
  let ts := d.pagingTokens limit offset
  if ts.isEmpty then [] else .space :: ts

/-- The filter clause, if there is a filter. -/
def whereClause (q : Query) : QueryResult (List Token) :=
  match q.effectiveFilter with
  | none => .ok []
  | some filter => (d.render filter).map (clause .where)

/-- The grouping clause, if there is a grouping. -/
def groupClause (q : Query) : QueryResult (List Token) :=
  if q.grouping.isEmpty then .ok []
  else (q.grouping.mapM d.render).map fun keys => clause .groupBy (Token.commaSeparated keys)

/-- An ordering term with its direction. -/
def orderTokens (t : OrderTerm) : QueryResult (List Token) :=
  (d.render t.expr).map fun ts =>
    ts ++ [.space, .keyword (if t.descending then .desc else .asc)]

/-- The ordering clause, if there is an ordering. -/
def orderClause (q : Query) : QueryResult (List Token) :=
  if q.ordering.isEmpty then .ok []
  else (q.ordering.mapM d.orderTokens).map fun ts => clause .orderBy (Token.commaSeparated ts)

/-- A projected field; a computed one takes its name as an alias. -/
def fieldTokens (f : Field) : QueryResult (List Token) :=
  match f.expr with
  | none => .ok (pathTokens f.name)
  | some e => (d.render e).map fun ts => Token.infixed ts (.keyword .as) [.ident f.name]

/-- The projection, or everything. -/
def projectionTokens (q : Query) : QueryResult (List Token) :=
  if q.fields.isEmpty then .ok [.symbol "*"]
  else (q.fields.mapM d.fieldTokens).map Token.commaSeparated

/-- An alias behind a space. -/
def aliasTokens (aliasName : Option String) : List Token :=
  match aliasName with
  | some name => [.space, .ident name]
  | none => []

/-- A collection with its alias. -/
def entityTokens (e : Entity) : List Token := pathTokens e.collection ++ aliasTokens e.aliasName

/-! ### Joins -/

/-- The keyword of a join direction. -/
def directionKeyword : JoinDirection → Keyword
  | .inner => .inner
  | .left => .left
  | .right => .right

/-- A name as it is, or behind a reference if it has no qualifier. -/
def qualified (name reference : String) : String :=
  if name.toList.contains '.' then name else reference ++ "." ++ name

/-- The condition of a join between a base and a joined collection. -/
def conditionExpr (base joined : String) : JoinCondition → Expr
  | .fields localField foreignField =>
    .compare .eq (.field (qualified localField base)) (.field (qualified foreignField joined))
  | .filter e => e

/-- The alias of a joined collection; a name equal to the collection's own is not repeated. -/
def joinAlias (aliasName : Option String) (e : Entity) : Option String :=
  (aliasName <|> e.aliasName).filter (· != e.collection)

/-- A join from the tokens of what is joined. -/
def joinTokens (base : Entity) (l : Lookup Query) (target : List Token) :
    QueryResult (List Token) :=
  (d.render (conditionExpr base.reference (l.reference?.getD base.reference) l.condition)).map
    fun condition =>
      Token.keywords [directionKeyword l.direction, .join] ++ [.space] ++ target ++
        clause .on condition

/-- A SELECT without paging, from the tokens of its joins. -/
def selectWith (q : Query) (joins : Entity → QueryResult (List Token)) :
    QueryResult (List Token) :=
  if q.kind ≠ .select then .error (.unsupportedStatement q.kind.sqlName)
  else
    match q.collection with
    | none => .error (.invalidExpression "SELECT without a collection")
    | some entity => do
      let projection ← d.projectionTokens q
      let joins ← joins entity
      let filter ← d.whereClause q
      let groups ← d.groupClause q
      let order ← d.orderClause q
      .ok ([.keyword .select, .space] ++
        (if q.distinct then [.keyword .distinct, .space] else []) ++ projection ++
        clause .from (entityTokens entity) ++ joins ++ filter ++ groups ++ order)

mutual

/-- A SELECT without its paging clause. -/
def selectTokens : Query → QueryResult (List Token)
  | { collection, fields, filter, prepared, ordering, grouping, lookups, limit, offset, distinct,
      payload, pending, connective, staged, resolvers } =>
    selectWith d ⟨collection, fields, filter, prepared, ordering, grouping, lookups, limit, offset,
      distinct, payload, pending, connective, staged, resolvers⟩
      fun base => joinsTokens base lookups

/-- Joins, each behind a space. -/
def joinsTokens (base : Entity) : List (Lookup Query) → QueryResult (List Token)
  | [] => .ok []
  | ⟨target, direction, aliasName, condition⟩ :: rest => do
    let source ← targetTokens aliasName target
    let join ← joinTokens d base ⟨target, direction, aliasName, condition⟩ source
    let joins ← joinsTokens base rest
    .ok (.space :: (join ++ joins))

/-- What is joined, with its alias; a query keeps its own paging clause. -/
def targetTokens (aliasName : Option String) : JoinTarget Query → QueryResult (List Token)
  | .collection e => .ok (pathTokens e.collection ++ aliasTokens (joinAlias aliasName e))
  | .query q => do
    let ts ← selectTokens q
    .ok (Token.parenthesized (ts ++ d.pagingClause q.limit q.offset) ++
      aliasTokens (aliasName <|> q.collection.map Entity.reference))

end

/-- A SELECT followed by its paging clause. -/
def limitSelectTokens (q : Query) : QueryResult (List Token) :=
  (d.selectTokens q).map fun ts => ts ++ d.pagingClause q.limit q.offset

/-! ### Writes -/

/-- The failure of writing one kind of statement from a query of another. -/
def kindMismatch (expected : String) (q : Query) : QueryError :=
  .unsupportedStatement (expected ++ " formatter called on " ++ q.kind.sqlName)

/-- The collection that is written to. -/
def targetTable (q : Query) : QueryResult (List Token) :=
  match q.collection with
  | some e => .ok (pathTokens e.collection)
  | none => .error (.invalidExpression "write statement without a collection")

/-- An INSERT. -/
def insertTokens (q : Query) : QueryResult (List Token) :=
  match q.payload with
  | some (.insert values) =>
    if values.isEmpty then .error (.emptyPayload "INSERT")
    else do
      let table ← targetTable q
      let rendered ← values.mapM fun a => d.render a.value
      let columns := values.map fun a => [Token.ident a.column]
      .ok (Token.keywords [.insert, .into] ++ [.space] ++ table ++ [.space] ++
        Token.parenthesized (Token.commaSeparated columns) ++
        clause .values (Token.parenthesized (Token.commaSeparated rendered)))
  | _ => .error (kindMismatch "INSERT" q)

/-- A column set to a value. -/
def assignmentTokens (a : Assignment) : QueryResult (List Token) :=
  (d.render a.value).map fun ts => Token.infixed [.ident a.column] (.symbol "=") ts

/-- An UPDATE. -/
def updateTokens (q : Query) : QueryResult (List Token) :=
  match q.payload with
  | some (.update values) =>
    if values.isEmpty then .error (.emptyPayload "UPDATE")
    else do
      let table ← targetTable q
      let sets ← values.mapM d.assignmentTokens
      let filter ← d.whereClause q
      .ok ([.keyword .update, .space] ++ table ++ clause .set (Token.commaSeparated sets) ++ filter)
  | _ => .error (kindMismatch "UPDATE" q)

/-- A DELETE. -/
def deleteTokens (q : Query) : QueryResult (List Token) :=
  match q.payload with
  | some .delete => do
    let table ← targetTable q
    let filter ← d.whereClause q
    .ok (Token.keywords [.delete, .from] ++ [.space] ++ table ++ filter)
  | _ => .error (kindMismatch "DELETE" q)

/-- The tokens of a query's statement. -/
def statementTokens (q : Query) : QueryResult (List Token) :=
  match q.kind with
  | .select => d.limitSelectTokens q
  | .insert => d.insertTokens q
  | .update => d.updateTokens q
  | .delete => d.deleteTokens q

/-! ### Texts -/

/-- The text of a query's statement. -/
def format (q : Query) : QueryResult String := (d.statementTokens q).map d.text

/-- The text of a SELECT without its paging clause. -/
def formatSelect (q : Query) : QueryResult String := (d.selectTokens q).map d.text

/-- The text of a SELECT with its paging clause. -/
def formatLimitSelect (q : Query) : QueryResult String := (d.limitSelectTokens q).map d.text

/-- The text of an INSERT. -/
def formatInsert (q : Query) : QueryResult String := (d.insertTokens q).map d.text

/-- The text of an UPDATE. -/
def formatUpdate (q : Query) : QueryResult String := (d.updateTokens q).map d.text

/-- The text of a DELETE. -/
def formatDelete (q : Query) : QueryResult String := (d.deleteTokens q).map d.text

end Dialect

end Polyquery.Sql
