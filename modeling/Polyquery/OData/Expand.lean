import Polyquery.OData.Clause
import Polyquery.OData.Node

/-!
# Reading query options

* `OptionName` - the options that are known;
* `Reader` - the resolvers, and how deep expansions may nest;
* `Reader.parseExpand` - the expansions of a text such as `customer/address,items($top=5)`;
* `Reader.applyOption` - apply one option to a node;
* `Reader.parseQuery` - the node of a collection and its options.

An expansion of a path is one expansion inside the other, and counts as deep as the path is long.
-/

namespace Polyquery.OData

/-- The query options that are known. -/
inductive OptionName where
  | filter | select | orderby | groupby | expand | top | skip | count | levels
deriving DecidableEq

/-- The option of a name in any letter case. -/
def OptionName.ofText? (name : String) : Option OptionName :=
  match Text.asciiLower name with
  | "$filter" => some .filter
  | "$select" => some .select
  | "$orderby" => some .orderby
  | "$groupby" => some .groupby
  | "$expand" => some .expand
  | "$top" => some .top
  | "$skip" => some .skip
  | "$count" => some .count
  | "$levels" => some .levels
  | _ => none

/-- What reading options depends on. -/
structure Reader where
  resolvers : Resolvers
  maxDepth : Nat

/-! ### Values -/

/-- The fault of a whole value. -/
def badValue (text : List Char) : QueryError :=
  .syntaxAt (.invalidLiteral (String.ofList text)) ⟨0, Text.byteLength text⟩

/-- A number between blanks. -/
def numberValue (text : List Char) : QueryResult Int64 :=
  match Integer.parse64? (Text.trim text) with
  | some n => .ok n
  | none => .error (badValue text)

/-- A truth value between blanks. -/
def flagValue (text : List Char) : QueryResult Bool :=
  match String.ofList (Text.trim text) with
  | "true" => .ok true
  | "false" => .ok false
  | _ => .error (badValue text)

/-- A depth between blanks. -/
def levelsValue (text : List Char) : QueryResult Levels :=
  let cs := Text.trim text
  if Text.asciiLower (String.ofList cs) = "max" then .ok .max
  else
    match Integer.parseNat32? cs with
    | some n => .ok (.count n)
    | none => .error (badValue text)

namespace Node

/-- The node with another query. -/
def withQuery (n : Node) (q : Query) : Node := { n with query := q }

/-- The outcome of a change that either happens or fails. -/
def changed (n : Node) : QueryResult Node → Node × QueryResult Unit
  | .ok m => (m, .ok ())
  | .error e => (n, .error e)

/-- Apply an option, given a reader of expansions.  Only a failing expansion may leave the node
changed: it keeps the expansions added before the one that conflicts. -/
def setOption (n : Node) (rs : Resolvers) (expansions : List Char → QueryResult (List Node))
    (name : OptionName) (text : List Char) : Node × QueryResult Unit :=
  match name with
  | .filter => n.changed ((parseFilter rs text).map fun e => n.withQuery (n.query.whereExpr e))
  | .select => n.changed ((parseSelect rs text).map fun fs => n.withQuery (n.query.select fs))
  | .orderby =>
    n.changed ((parseOrder rs text).map fun ts => n.withQuery (n.query.orderByTerms ts))
  | .groupby =>
    n.changed ((parseGroup rs text).map fun es => n.withQuery (n.query.groupByExprs es))
  | .expand =>
    match expansions text with
    | .ok children => n.expandAll children
    | .error e => (n, .error e)
  | .top => n.changed ((numberValue text).map fun k => n.withQuery (n.query.take k))
  | .skip => n.changed ((numberValue text).map fun k => n.withQuery (n.query.skip k))
  | .count => n.changed ((flagValue text).map fun b => { n with count := b })
  | .levels => n.changed ((levelsValue text).map fun l => { n with levels := some l })

end Node

/-! ### Expansions -/

/-- The tokens up to a semicolon or a closing parenthesis of their own depth, and those after them;
`depth` is the number of parentheses that are open. -/
def valueTokens (depth : Nat) : List Token → List Token × List Token
  | [] => ([], [])
  | t :: rest =>
    match t.kind, depth with
    | .rightParen, 0 | .semicolon, 0 => ([], t :: rest)
    | .leftParen, d =>
      let (value, after) := valueTokens (d + 1) rest
      (t :: value, after)
    | .rightParen, d + 1 =>
      let (value, after) := valueTokens d rest
      (t :: value, after)
    | _, d =>
      let (value, after) := valueTokens d rest
      (t :: value, after)

/-- The place of the value of an option. -/
def optionValue (ctx : Context) : Parser Span := fun ts =>
  match valueTokens 0 ts with
  | ([], _) => .error (ctx.expectedOperand ts)
  | (first :: more, after) =>
    .ok (⟨first.span.start, ((first :: more).getLast?.getD first).span.stop⟩, after)

/-- The options of an expansion up to the closing parenthesis, applied in turn. -/
def nodeOptions (ctx : Context) (source : List Char)
    (apply : Node → OptionName → List Char → Node × QueryResult Unit) :
    Nat → Node → Parser Node
  | 0, _, ts => .error (ctx.unexpected ts)
  | fuel + 1, n, ts => do
    let nameSpan := ctx.currentSpan ts
    let (name, ts) ← ctx.identifier ts
    let ts ← ctx.expect .equals ts
    let (span, ts) ← optionValue ctx ts
    match OptionName.ofText? name with
    | none => .error (.syntaxAt (.unexpectedToken name) nameSpan)
    | some option =>
      match apply n option (Text.slice span.start span.stop source) with
      | (_, .error e) => .error (e.shifted span.start)
      | (n, .ok ()) =>
        match eat? .semicolon ts with
        | some ts => nodeOptions ctx source apply fuel n ts
        | none => do
          let ts ← ctx.expect .rightParen ts
          .ok (n, ts)

/-- The names of a path. -/
def pathNames (ctx : Context) : Parser (List String) := fun ts => do
  let (name, ts) ← ctx.identifier ts
  pathSegments ctx [name] ts.length ts

namespace Reader

/-- The failure of expansions that nest too deep. -/
def tooDeep (r : Reader) : QueryError :=
  .unsupported ("$expand nested deeper than " ++ Integer.natText r.maxDepth ++ " levels")

/-- One expansion of a list: a path and its options.  Below the first name of the path there are
`levels` levels, and `deeper k` reads the expansions inside the name that is `k` levels down. -/
def expandEntry (r : Reader) (ctx : Context) (source : List Char) (levels : Nat)
    (deeper : Nat → List Char → QueryResult (List Node)) : Parser Node := fun ts => do
  let (names, ts) ← pathNames ctx ts
  let parents := names.dropLast
  if levels < parents.length then .error r.tooDeep
  else
    let leaf := Node.navigation (names.getLast?.getD "")
    let apply (n : Node) := n.setOption r.resolvers (deeper parents.length)
    let (leaf, ts) ← match eat? .leftParen ts with
      | some ts => nodeOptions ctx source apply (ts.length + 1) leaf ts
      | none => .ok (leaf, ts)
    .ok (Node.nest parents leaf, ts)

/-- The expansions of a text that may nest some levels deep. -/
def expansions (r : Reader) (levels : Nat) (text : List Char) : QueryResult (List Node) :=
  match levels with
  | 0 => .error r.tooDeep
  | below + 1 =>
    parseText r.resolvers
      (fun ctx => commaSeparated
        (r.expandEntry ctx text below fun k inner => expansions r (below - k) inner)) text
termination_by levels
decreasing_by omega

/-- Read expansions. -/
def parseExpand (r : Reader) (text : List Char) : QueryResult (List Node) :=
  r.expansions r.maxDepth text

/-! ### Options -/

/-- Apply an option given by its name and value, both as text; the answer tells whether it is known.
Blanks around the name do not count. -/
def applyOption (r : Reader) (n : Node) (name value : String) : Node × QueryResult Bool :=
  match OptionName.ofText? (String.ofList (Text.trim name.toList)) with
  | none => (n, .ok false)
  | some option =>
    let (n, outcome) := n.setOption r.resolvers r.parseExpand option value.toList
    (n, outcome.map fun _ => true)

/-- Apply options in turn up to the first that fails. -/
def applyOptions (r : Reader) (n : Node) : List (String × String) → QueryResult Node
  | [] => .ok n
  | (name, value) :: rest =>
    match r.applyOption n name value with
    | (n, .ok _) => applyOptions r n rest
    | (_, .error e) => .error e

/-- The node of a collection and its options. -/
def parseQuery (r : Reader) (collection : Entity) (options : List (String × String)) :
    QueryResult Node :=
  r.applyOptions (Node.ofQuery (Query.empty.fromCollection collection)) options

end Reader

end Polyquery.OData
