import Polyquery.Sql.Statement

/-!
# Running queries

The seam between queries and the stores that run them.

* `Adapter` - what a store offers: running one query, and running steps as one transaction;
* `Adapter.executeAll` - queries in one transaction;
* `Adapter.recorder` - a store that only writes down what it would run.
-/

namespace Polyquery

/-- A row of a result: values by column. -/
abbrev Row := List (String × Json)

/-- Steps on a store that may fail. -/
abbrev Steps (σ ε α : Type) := ExceptT ε (StateM σ) α

/-- What a store offers. -/
structure Adapter (σ ε : Type) where
  /-- Run one query; writes give no rows. -/
  execute : Query → Steps σ ε (List Row)
  /-- Run steps as one transaction. -/
  transaction : {α : Type} → Steps σ ε α → Steps σ ε α

namespace Adapter

/-- Run queries in one transaction, up to the first that fails. -/
def executeAll {σ ε : Type} (a : Adapter σ ε) (queries : List Query) :
    Steps σ ε (List (List Row)) :=
  a.transaction (queries.mapM a.execute)

/-! ### Recording -/

/-- Write down a statement. -/
def record {ε : Type} (statement : String) : Steps (List String) ε Unit :=
  modify fun log => log ++ [statement]

/-- Run steps between `BEGIN` and `COMMIT`, or `ROLLBACK` if they fail. -/
def recordTransaction {ε α : Type} (steps : Steps (List String) ε α) :
    Steps (List String) ε α := do
  record "BEGIN"
  try
    let result ← steps
    record "COMMIT"
    return result
  catch e =>
    record "ROLLBACK"
    throw e

/-- Write down the statement of a query that passes a check, and give it as the only row. -/
def recordQuery (d : Sql.Dialect) (check : String → QueryResult Unit) (q : Query) :
    Steps (List String) QueryError (List Row) := do
  let sql ← ExceptT.mk (pure (d.format q))
  ExceptT.mk (pure (check sql))
  record sql
  return [[("sql", .string sql)]]

/-- A store that writes down statements in a dialect. -/
def recorder (d : Sql.Dialect) (check : String → QueryResult Unit) :
    Adapter (List String) QueryError :=
  ⟨recordQuery d check, recordTransaction⟩

end Adapter

end Polyquery
