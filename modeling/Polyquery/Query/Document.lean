import Polyquery.Query

/-!
# Documents of queries

* `Query.toDocument` - the JSON form of a query, one key for every clause that is set;
* `Lookup.document` - the JSON form of a join.
-/

namespace Polyquery

/-- The document of the conditions of a join. -/
def JoinCondition.entries : JoinCondition → List (String × Json)
  | .fields localField foreignField =>
    [("localField", .string localField), ("foreignField", .string foreignField)]
  | .filter expr =>
    [("pipeline", .array [.object [("$match", .object [("$expr", expr.toDocument)])]])]

/-- The document of a join, from the document of what it joins. -/
def Lookup.document (l : Lookup Query) (source : Json) : Json :=
  .object
    ([("from", source), ("direction", .string l.direction.name)] ++
      (l.reference?.toList.map fun name => ("as", .string name)) ++ l.condition.entries)

/-- The document of an ordering term. -/
def OrderTerm.toDocument (t : OrderTerm) : Json :=
  .object [("$expr", t.expr.toDocument), ("direction", .int (if t.descending then -1 else 1))]

/-- The document of written values; texts are texts even with a leading dollar sign. -/
def Assignment.documents (values : List Assignment) : Json :=
  Json.ofFields (values.map fun a =>
    (a.column, match a.value with
      | .literal (.string s) => .string s
      | other => other.toDocument))

namespace Query

/-- One key, if there is a value. -/
def entry (key : String) (value : Option Json) : List (String × Json) :=
  value.toList.map fun v => (key, v)

/-- A list, unless it is empty. -/
def listEntry (key : String) (items : List Json) : List (String × Json) :=
  if items.isEmpty then [] else [(key, .array items)]

/-- The key of the payload. -/
def payloadEntry : Option Payload → List (String × Json)
  | some (.insert values) => [("$insert", Assignment.documents values)]
  | some (.update values) => [("$update", Assignment.documents values)]
  | some .delete => [("$delete", .bool true)]
  | none => []

/-- The document of a query, from the documents of its joins. -/
def documentWith (q : Query) (lookups : List Json) : Json :=
  .object
    (entry "$collection" (q.collection.map Entity.toDocument) ++
      (if q.fields.isEmpty then []
        else [("$select", Json.ofFields (q.fields.map fun f => (f.name, f.documentValue)))]) ++
      entry "$where" (q.filter.map Expr.toDocument) ++
      entry "$prepared" (q.prepared.map Expr.toDocument) ++
      listEntry "$order" (q.ordering.map OrderTerm.toDocument) ++
      listEntry "$group" (q.grouping.map Expr.toDocument) ++
      listEntry "$lookup" lookups ++
      (if q.limit = 0 then [] else [("$limit", .int q.limit.toInt)]) ++
      (if q.offset = 0 then [] else [("$skip", .int q.offset.toInt)]) ++
      (if q.distinct then [("$distinct", .bool true)] else []) ++
      payloadEntry q.payload)

mutual

/-- The document of a query. -/
def toDocument : Query → Json
  | { collection, fields, filter, prepared, ordering, grouping, lookups, limit, offset, distinct,
      payload, pending, connective, staged, resolvers } =>
    documentWith ⟨collection, fields, filter, prepared, ordering, grouping, lookups, limit, offset,
      distinct, payload, pending, connective, staged, resolvers⟩ (lookupDocuments lookups)

/-- The documents of joins. -/
def lookupDocuments : List (Lookup Query) → List Json
  | [] => []
  | ⟨target, direction, aliasName, condition⟩ :: rest =>
    Lookup.document ⟨target, direction, aliasName, condition⟩ (targetDocument target) ::
      lookupDocuments rest

/-- The document of what is joined. -/
def targetDocument : JoinTarget Query → Json
  | .collection entity => .string entity.collection
  | .query q => toDocument q

end

end Query

end Polyquery
