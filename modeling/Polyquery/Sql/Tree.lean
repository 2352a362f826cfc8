import Polyquery.Query.Lookup
import Polyquery.Sql.Lexeme

/-!
# Trees of SQL text

What the grammar reads, before any meaning is given to it.  Forms that have a meaning in queries are
kept in full; every other form keeps its canonical wording only, so that it can be named in a
message.

* `Constant`, `Tree`, `Argument` - expressions, with `Tree.text`;
* `Tree.joined` - a chain of one connective from two operands;
* `Relation`, `JoinTree`, `SelectTree`, `QueryTree` - queries, each with its wording;
* `Statement` - a query, or the kind of any other statement.
-/

namespace Polyquery.Sql

/-! ### Wording of names and constants -/

/-- A text between quotes: a lone quote is doubled, a pair stays, and so does a quote behind a
backslash. -/
def requoted (quote : Char) : Char → List Char → List Char
  | _, [] => []
  | last, [c] => if c = quote && last ≠ '\\' then [c, c] else [c]
  | last, c :: next :: rest =>
    if c = quote then
      if last = '\\' then c :: requoted quote last (next :: rest)
      else if next = quote then c :: c :: requoted quote c rest
      else c :: c :: requoted quote c (next :: rest)
    else c :: requoted quote c (next :: rest)

/-- A text in quotes. -/
def inQuotes (quote : Char) (s : String) : String :=
  String.ofList (quote :: requoted quote '\x00' s.toList ++ [quote])

/-- The wording of a name. -/
def Ident.text (i : Ident) : String :=
  match i.quote with
  | none => i.value
  | some '[' => "[" ++ i.value ++ "]"
  | some quote => inQuotes quote i.value

/-- Names with points between them. -/
def pathText (names : List Ident) : String := ".".intercalate (names.map Ident.text)

/-- Words with commas between them. -/
def commas (words : List String) : String := ", ".intercalate words

/-- Words joined by blanks, without the empty ones. -/
def spacedText (parts : List String) : String :=
  " ".intercalate (parts.filter fun part => !part.isEmpty)

/-- A constant. -/
inductive Constant where
  | null
  | bool (value : Bool)
  | number (digits : String) (long : Bool)
  | text (kind : TextKind) (value : String)
  | placeholder (text : String)
deriving DecidableEq

/-- A character of an escape string. -/
def escapedChar : Char → List Char
  | '\'' => ['\\', '\'']
  | '\\' => ['\\', '\\']
  | '\n' => ['\\', 'n']
  | '\t' => ['\\', 't']
  | '\x0d' => ['\\', 'r']
  | c => [c]

/-- A number in upper-case hexadecimal digits, padded with zeros. -/
def hexText (width n : Nat) : List Char :=
  let digits := (Nat.toDigits 16 n).map Text.asciiUpperChar
  List.replicate (width - digits.length) '0' ++ digits

/-- A character of a string with Unicode escapes. -/
def unicodeChar (c : Char) : List Char :=
  if c = '\'' then ['\'', '\'']
  else if c = '\\' then ['\\', '\\']
  else if c.toNat < 128 then [c]
  else if c.toNat ≤ 65535 then '\\' :: hexText 4 c.toNat
  else '\\' :: '+' :: hexText 6 c.toNat

/-- The wording of a text constant. -/
def TextKind.render (kind : TextKind) (value : String) : String :=
  match kind with
  | .single => inQuotes '\'' value
  | .double => inQuotes '"' value
  | .national => "N'" ++ value ++ "'"
  | .hex => "X'" ++ value ++ "'"
  | .escaped => "E'" ++ String.ofList (value.toList.flatMap escapedChar) ++ "'"
  | .unicode => "U&'" ++ String.ofList (value.toList.flatMap unicodeChar) ++ "'"
  | .bits quote => "B" ++ String.singleton quote ++ value ++ String.singleton quote
  | .raw quote long =>
    let mark := String.ofList (List.replicate (if long then 3 else 1) quote)
    "R" ++ mark ++ value ++ mark
  | .dollar tag => "$" ++ tag ++ "$" ++ value ++ "$" ++ tag ++ "$"

/-- A name between its quotes as it stands. -/
def Ident.spelled (i : Ident) : String :=
  match i.quote with
  | none => i.value
  | some '[' => "[" ++ i.value ++ "]"
  | some quote => String.singleton quote ++ i.value ++ String.singleton quote

/-- The wording of a constant. -/
def Constant.render : Constant → String
  | .null => "NULL"
  | .bool b => if b then "true" else "false"
  | .number digits long => if long then digits ++ "L" else digits
  | .text kind value => kind.render value
  | .placeholder mark => mark

/-- The wording of a lexeme on its own. -/
def Lexeme.spelled : Lexeme → String
  | .word name => name.spelled
  | .number digits long => (Constant.number digits long).render
  | .text .single value => "'" ++ value ++ "'"
  | .text .double value => "\"" ++ value ++ "\""
  | .text .escaped value => "E'" ++ value ++ "'"
  | .text .unicode value => "U&'" ++ value ++ "'"
  | .text kind value => kind.render value
  | .symbol "!=" => "<>"
  | .placeholder mark | .symbol mark | .customOperator mark => mark

/-! ### Expressions -/

/-- An operator whose chains are read as one. -/
inductive ChainOp where
  | logical (op : LogicalOp)
  | concat
deriving DecidableEq

/-- The wording of a chain operator. -/
def ChainOp.text : ChainOp → String
  | .logical .and => "AND"
  | .logical .or => "OR"
  | .concat => "||"

/-- The wording of a comparison. -/
def comparisonText : ComparisonOp → String
  | .eq => "="
  | .ne => "<>"
  | .gt => ">"
  | .gte => ">="
  | .lt => "<"
  | .lte => "<="

/-- The wording of an arithmetic operator. -/
def arithmeticText : ArithmeticOp → String
  | .add => "+"
  | .subtract => "-"
  | .multiply => "*"
  | .divide => "/"
  | .modulo => "%"

/-- An operator between two operands. -/
inductive BinaryOp where
  | compare (op : ComparisonOp)
  | arithmetic (op : ArithmeticOp)
  | other (text : String)
deriving DecidableEq

/-- The wording of an operator. -/
def BinaryOp.text : BinaryOp → String
  | .compare op => comparisonText op
  | .arithmetic op => arithmeticText op
  | .other text => text

/-- An operator with one operand. -/
inductive UnaryOp where
  | not
  | plus
  | minus
  | other (text : String)
  /-- An operator that follows its operand. -/
  | after (text : String)
deriving DecidableEq

/-- The wording of an operator. -/
def UnaryOp.text : UnaryOp → String
  | .not => "NOT"
  | .plus => "+"
  | .minus => "-"
  | .other text | .after text => text

/-- The wording of an operator with its operand. -/
def UnaryOp.apply (op : UnaryOp) (operand : String) : String :=
  match op with
  | .not => "NOT " ++ operand
  | .after text => operand ++ text
  | op => op.text ++ operand

/-- The wording of a negation in front of an operator word. -/
def negation (negated : Bool) : String := if negated then "NOT " else ""

/-- The wording of an escape clause. -/
def escapeClause : Option String → String
  | none => ""
  | some escape => " ESCAPE '" ++ escape ++ "'"

/-- What stands between the parentheses of a call. -/
inductive CallShape where
  /-- There are no parentheses. -/
  | bare
  /-- A query, of which the wording is kept. -/
  | subquery (text : String)
  /-- A list of arguments with the clauses after it. -/
  | arguments (treatment : Option String) (clauses : List String)
deriving DecidableEq

/-- The parts of a call around its arguments: the name, a parameter list in front of the arguments,
whether the call ranges over a window, the wording of what follows, and whether the whole stands
between braces. -/
structure CallHead where
  name : List Ident
  parameters : String
  shape : CallShape
  windowed : Bool
  tail : String
  braced : Bool
deriving DecidableEq

/-- A call with nothing around its arguments. -/
def CallHead.of (name : List Ident) (shape : CallShape) : CallHead :=
  ⟨name, "", shape, false, "", false⟩

/-- The wording of a call. -/
def CallHead.apply (head : CallHead) (arguments : List String) : String :=
  let inner := match head.shape with
    | .bare => ""
    | .subquery text => "(" ++ text ++ ")"
    | .arguments treatment clauses =>
      let treatment := match treatment with
        | some word => word ++ " "
        | none => ""
      let gap := if clauses.isEmpty || arguments.isEmpty then "" else " "
      "(" ++ treatment ++ commas arguments ++ gap ++ " ".intercalate clauses ++ ")"
  let text := pathText head.name ++ head.parameters ++ inner ++ head.tail
  if head.braced then "\x7bfn " ++ text ++ "\x7d" else text

mutual

/-- An expression. -/
inductive Tree where
  | name (ident : Ident)
  | path (idents : List Ident)
  | constant (value : Constant)
  | nested (inner : Tree)
  | chain (op : ChainOp) (operands : List Tree)
  | binary (op : BinaryOp) (left right : Tree)
  | unary (op : UnaryOp) (operand : Tree)
  | isNull (negated : Bool) (operand : Tree)
  | between (negated : Bool) (operand low high : Tree)
  | inList (negated : Bool) (operand : Tree) (items : List Tree)
  /-- A match against a pattern: `caseless` for `ILIKE`, `any` for any of several patterns. -/
  | like (negated caseless any : Bool) (operand pattern : Tree) (escape : Option String)
  | case (operand : Option Tree) (branches : List (Tree × Tree)) (otherwise : Option Tree)
  | extract (field separator : String) (operand : Tree)
  /-- A part of a text, worded with commas or with `FROM` and `FOR`. -/
  | substring (commas : Bool) (operand : Tree) (start length : Option Tree)
  | trim (operand : Tree) (characters : List Tree)
  /-- `CEIL` or `FLOOR`, with the wording of its precision. -/
  | rounding (function : String) (operand : Tree) (precision : String)
  | call (head : CallHead) (arguments : List Argument)
  /-- A query in parentheses, of which the wording is kept. -/
  | subquery (text : String)
  /-- Any other expression, of which the wording is kept. -/
  | other (text : String)

/-- An argument of a call. -/
inductive Argument where
  | value (value : Tree)
  | everything
  /-- Everything of one source. -/
  | everythingOf (source : List Ident)
  | other (text : String)

end

mutual

/-- The wording of an expression. -/
def Tree.text : Tree → String
  | .name ident => ident.text
  | .path idents => pathText idents
  | .constant value => value.render
  | .nested inner => "(" ++ inner.text ++ ")"
  | .chain op operands => (" " ++ op.text ++ " ").intercalate (treeTexts operands)
  | .binary op left right => left.text ++ " " ++ op.text ++ " " ++ right.text
  | .unary op operand => op.apply operand.text
  | .isNull negated operand => operand.text ++ " IS " ++ negation negated ++ "NULL"
  | .between negated operand low high =>
    operand.text ++ " " ++ negation negated ++ "BETWEEN " ++ low.text ++ " AND " ++ high.text
  | .inList negated operand items =>
    operand.text ++ " " ++ negation negated ++ "IN (" ++ commas (treeTexts items) ++ ")"
  | .like negated caseless any operand pattern escape =>
    operand.text ++ " " ++ negation negated ++ (if caseless then "ILIKE " else "LIKE ") ++
      (if any then "ANY " else "") ++ pattern.text ++ escapeClause escape
  | .case operand branches otherwise =>
    "CASE" ++ optionalText " " operand ++ branchesText branches ++
      optionalText " ELSE " otherwise ++ " END"
  | .extract field separator operand =>
    "EXTRACT(" ++ field ++ separator ++ operand.text ++ ")"
  | .substring commas operand start length =>
    "SUBSTRING(" ++ operand.text ++ optionalText (if commas then ", " else " FROM ") start ++
      optionalText (if commas then ", " else " FOR ") length ++ ")"
  | .trim operand characters =>
    "TRIM(" ++ commas (operand.text :: treeTexts characters) ++ ")"
  | .rounding function operand precision => function ++ "(" ++ operand.text ++ precision ++ ")"
  | .call head arguments => head.apply (argumentTexts arguments)
  | .subquery text => "(" ++ text ++ ")"
  | .other text => text

/-- The wordings of expressions. -/
def treeTexts : List Tree → List String
  | [] => []
  | t :: ts => t.text :: treeTexts ts

/-- The wording of a part that may be missing, after a word. -/
def optionalText (word : String) : Option Tree → String
  | none => ""
  | some t => word ++ t.text

/-- The wording of the branches of a case. -/
def branchesText : List (Tree × Tree) → String
  | [] => ""
  | (condition, result) :: rest =>
    " WHEN " ++ condition.text ++ " THEN " ++ result.text ++ branchesText rest

/-- The wording of an argument. -/
def Argument.text : Argument → String
  | .value value => value.text
  | .everything => "*"
  | .everythingOf source => pathText source ++ ".*"
  | .other text => text

/-- The wordings of arguments. -/
def argumentTexts : List Argument → List String
  | [] => []
  | a :: as => a.text :: argumentTexts as

end

/-- The operands an expression adds to a chain: those of its own chain, if it is one of the same
operator. -/
def Tree.operands (op : ChainOp) : Tree → List Tree
  | .chain inner operands => if inner = op then operands else [.chain inner operands]
  | t => [t]

/-- The chain of two expressions. -/
def Tree.joined (op : ChainOp) (left right : Tree) : Tree :=
  .chain op (left.operands op ++ right.operands op)

/-! ### Queries -/

/-- Which duplicates a projection drops. -/
inductive DistinctTree where
  | all
  | distinct
  | distinctOn
deriving DecidableEq

/-- An entry of a projection. -/
inductive SelectItem where
  | value (value : Tree) (aliasName : Option Ident)
  | everything
  /-- Everything of one source. -/
  | everythingOf (source : List Ident)

/-- A term of an ordering, with the wording of its direction. -/
structure OrderItem where
  value : Tree
  descending : Bool
  direction : String

/-- The wording of an ordering term. -/
def OrderItem.text (item : OrderItem) : String := item.value.text ++ item.direction

/-- Grouping of a selection. -/
inductive GroupTree where
  | byEverything
  | by (keys : List Tree)

/-- The condition of a join. -/
inductive JoinConstraint where
  | on (condition : Tree)
  | natural
  | other (text : String)

/-- The kind of a join: one with a condition in queries, or any other. -/
inductive JoinKind where
  | directed (direction : JoinDirection)
  | other (text : String)

/-- The alias of a source, with the wording of the names for its columns. -/
structure SourceLabel where
  name : Ident
  columns : String
deriving DecidableEq

/-- The wording of an alias behind its source. -/
def SourceLabel.text (label : SourceLabel) : String := " AS " ++ label.name.text ++ label.columns

/-- The wording of a source on both sides of its alias. -/
structure SourceText where
  front : String
  label : Option SourceLabel
  back : String
deriving DecidableEq

/-- The wording of a source with its alias. -/
def SourceText.text (wording : SourceText) : String :=
  wording.front ++ (wording.label.map SourceLabel.text).getD "" ++ wording.back

/-- The alias of a source, if it has one. -/
def SourceText.aliasName (wording : SourceText) : Option String :=
  wording.label.map fun label => label.name.value

mutual

/-- What is selected from or joined. -/
inductive Relation where
  | table (name : List Ident) (wording : SourceText)
  | derived (query : QueryTree) (wording : SourceText)
  /-- Joined sources in parentheses. -/
  | joined (wording : SourceText)
  | other (wording : SourceText)

/-- A join, perhaps one over the nodes of a cluster. -/
inductive JoinTree where
  | mk (clustered : Bool) (kind : JoinKind) (constraint : JoinConstraint) (relation : Relation)

/-- A selection: its source with the joins, if there is exactly one, and how many there are. -/
inductive SelectTree where
  | mk (duplicates : DistinctTree) (items : List SelectItem) (sources : Nat)
    (base : Option Relation) (joins : List JoinTree) (filter : Option Tree) (grouping : GroupTree)
    (having : Bool)

/-- A query; its body is a selection or, if it is anything else, worded only. -/
inductive QueryTree where
  | mk (withClauses : Bool) (select : Option SelectTree) (bodyText : String)
    (ordering : List OrderItem) (limit offset : Option Tree) (text : String)

end

/-- The wording of a source around its alias. -/
def Relation.wording : Relation → SourceText
  | .table _ wording | .derived _ wording | .joined wording | .other wording => wording

/-- The wording of a source. -/
def Relation.text (r : Relation) : String := r.wording.text

/-- A source under another alias. -/
def Relation.labelled (label : SourceLabel) : Relation → Relation
  | .table name wording => .table name { wording with label := some label }
  | .derived query wording => .derived query { wording with label := some label }
  | .joined wording => .joined { wording with label := some label }
  | .other wording => .other { wording with label := some label }

/-- The wording of a query. -/
def QueryTree.text : QueryTree → String
  | .mk _ _ _ _ _ _ text => text

/-- A statement: a query, or the first word of any other. -/
inductive Statement where
  | query (tree : QueryTree)
  | other (kind : String)

end Polyquery.Sql
