import Polyquery.Expr

/-!
# Output tokens of SQL

Statements are written as lists of tokens and spelled out once, at the end, for a dialect.

* `Keyword`, `Token` - the tokens;
* `Token.joined`, `Token.parenthesized`, `Token.keywords` - common arrangements.
-/

namespace Polyquery.Sql

/-- Reserved words. -/
inductive Keyword where
  | select | distinct | from | where | groupBy | orderBy | asc | desc | limit | offset
  | inner | left | right | join | on | as
  | and | or | not | is | like | case | when | then | else | end | cast
  | insert | into | values | update | set | delete
deriving DecidableEq

namespace Keyword

/-- Every reserved word. -/
def all : List Keyword :=
  [.select, .distinct, .from, .where, .groupBy, .orderBy, .asc, .desc, .limit, .offset,
    .inner, .left, .right, .join, .on, .as,
    .and, .or, .not, .is, .like, .case, .when, .then, .else, .end, .cast,
    .insert, .into, .values, .update, .set, .delete]

/-- The text of a reserved word. -/
def text : Keyword → String
  | .select => "SELECT"
  | .distinct => "DISTINCT"
  | .from => "FROM"
  | .where => "WHERE"
  | .groupBy => "GROUP BY"
  | .orderBy => "ORDER BY"
  | .asc => "ASC"
  | .desc => "DESC"
  | .limit => "LIMIT"
  | .offset => "OFFSET"
  | .inner => "INNER"
  | .left => "LEFT"
  | .right => "RIGHT"
  | .join => "JOIN"
  | .on => "ON"
  | .as => "AS"
  | .and => "AND"
  | .or => "OR"
  | .not => "NOT"
  | .is => "IS"
  | .like => "LIKE"
  | .case => "CASE"
  | .when => "WHEN"
  | .then => "THEN"
  | .else => "ELSE"
  | .end => "END"
  | .cast => "CAST"
  | .insert => "INSERT"
  | .into => "INTO"
  | .values => "VALUES"
  | .update => "UPDATE"
  | .set => "SET"
  | .delete => "DELETE"

/-- The reserved word of a text. -/
def ofText? (text : String) : Option Keyword := all.find? fun k => k.text == text

end Keyword

/-- A piece of SQL text.  Only identifiers, literals and the concatenation operator depend on the
dialect.  `raw` holds fixed SQL and exact decimals, never text from a query. -/
inductive Token where
  | keyword (k : Keyword)
  | symbol (text : String)
  | concat
  | space
  | ident (name : String)
  | int (n : Int64)
  | float (f : Double)
  | string (s : String)
  | bool (b : Bool)
  | null
  | functionName (name : String)
  | raw (text : String)

namespace Token

/-- A comma. -/
def comma : Token := .symbol ","

/-- An opening parenthesis. -/
def leftParen : Token := .symbol "("

/-- A closing parenthesis. -/
def rightParen : Token := .symbol ")"

/-- Tokens between parentheses. -/
def parenthesized (ts : List Token) : List Token := leftParen :: (ts ++ [rightParen])

/-- Items with a separator between them. -/
def separated (separator : List Token) : List (List Token) → List Token
  | [] => []
  | [item] => item
  | item :: rest => item ++ separator ++ separated separator rest

/-- Items with commas between them. -/
def commaSeparated (items : List (List Token)) : List Token := separated [comma, .space] items

/-- A token with a space on either side. -/
def spaced (t : Token) : List Token := [.space, t, .space]

/-- Reserved words with a space between them. -/
def keywords (ks : List Keyword) : List Token := separated [.space] (ks.map fun k => [.keyword k])

/-- A call from the tokens of its arguments. -/
def call (name : String) (args : List (List Token)) : List Token :=
  [.functionName name, leftParen] ++ commaSeparated args ++ [rightParen]

/-- Two operands with an operator between them. -/
def infixed (left : List Token) (operator : Token) (right : List Token) : List Token :=
  left ++ spaced operator ++ right

end Token

end Polyquery.Sql
