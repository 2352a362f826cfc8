import Polyquery.OData.Grammar
import Polyquery.Query

/-!
# Lists in query options

* `parseSelect` - projected fields, from `$select`;
* `parseOrder` - ordering terms, from `$orderby`;
* `parseGroup` - grouping keys, from `$groupby`.
-/

namespace Polyquery.OData

/-- An entry of a projection: everything, or an expression with its alias. -/
inductive SelectEntry where
  | everything
  | value (expr : Expr) (aliasName : Option String)

/-- An entry of a projection at the front of a token list. -/
def selectEntry (ctx : Context) : Parser SelectEntry := fun ts =>
  match eat? .star ts with
  | some ts => .ok (.everything, ts)
  | none => do
    let (expr, ts) ← expression ctx ts
    match eatKeyword? "as" ts with
    | none => .ok (.value expr none, ts)
    | some ts =>
      let (aliasName, ts) ← ctx.identifier ts
      .ok (.value expr (some aliasName), ts)

/-- The fields of a projection.  Entries for everything are left out, and computed entries without
an alias are numbered, `unnamed` of them having been met before. -/
def nameEntries (unnamed : Nat) : List SelectEntry → List Field
  | [] => []
  | .everything :: rest => nameEntries unnamed rest
  | .value expr (some name) :: rest => Field.computed name expr :: nameEntries unnamed rest
  | .value (.field path) none :: rest => Field.named path :: nameEntries unnamed rest
  | .value expr none :: rest =>
    Field.computed ("field" ++ Integer.natText (unnamed + 1)) expr ::
      nameEntries (unnamed + 1) rest

/-- Read a projection. -/
def parseSelect (resolvers : Resolvers) (text : List Char) : QueryResult (List Field) :=
  (parseText resolvers (fun ctx => commaSeparated (selectEntry ctx)) text).map (nameEntries 0)

/-- An ordering term at the front of a token list. -/
def orderEntry (ctx : Context) : Parser OrderTerm := fun ts => do
  let (expr, ts) ← expression ctx ts
  match eatKeyword? "desc" ts with
  | some ts => .ok (⟨expr, true⟩, ts)
  | none => .ok (⟨expr, false⟩, (eatKeyword? "asc" ts).getD ts)

/-- Read an ordering. -/
def parseOrder (resolvers : Resolvers) (text : List Char) : QueryResult (List OrderTerm) :=
  parseText resolvers (fun ctx => commaSeparated (orderEntry ctx)) text

/-- Read a grouping. -/
def parseGroup (resolvers : Resolvers) (text : List Char) : QueryResult (List Expr) :=
  parseText resolvers (fun ctx => commaSeparated (expression ctx)) text

end Polyquery.OData
