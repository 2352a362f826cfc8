import Polyquery.Sql.Parse

/-!
# Binding strength of operators

* `Level` - groups of operators of one strength;
* `rank` - the strength of a level in a dialect;
* `precedence` - the strength of the operator in front of a list of lexemes, zero if there is none.
-/

namespace Polyquery.Sql

/-- Groups of operators of one strength. -/
inductive Level where
  | cast | bracket | collate | zone | caret | multiplicative | additive | xor | ampersand | pipe
  | special | between | like | comparison | is | not | and | or
deriving DecidableEq

/-- The strength of a level outside PostgreSQL. -/
def commonRank : Level → Nat
  | .cast | .bracket => 50
  | .collate => 45
  | .zone => 41
  | .multiplicative => 40
  | .additive => 30
  | .xor => 24
  | .ampersand => 23
  | .caret => 22
  | .pipe => 21
  | .between | .comparison => 20
  | .like => 19
  | .is => 17
  | .special => 16
  | .not => 15
  | .and => 10
  | .or => 5

/-- The strength of a level in PostgreSQL. -/
def postgresRank : Level → Nat
  | .cast => 140
  | .bracket => 130
  | .collate => 120
  | .zone => 110
  | .caret => 100
  | .multiplicative => 90
  | .additive => 80
  | .xor => 75
  | .ampersand | .pipe | .special => 70
  | .between | .like => 60
  | .comparison => 50
  | .is => 40
  | .not => 30
  | .and => 20
  | .or => 10

/-- The strength of a level in a dialect. -/
def rank : DialectName → Level → Nat
  | .postgres => postgresRank
  | _ => commonRank

/-- The level of an operator word, by the words that follow it. -/
def wordLevel? (d : DialectName) (word : String) (rest : List Lexeme) : Option Level :=
  match word with
  | "OR" => some .or
  | "AND" => some .and
  | "XOR" => some .xor
  | "AT" => if keywordsAhead ["TIME", "ZONE"] rest then some .zone else none
  | "NOT" =>
    match rest.head?.bind Lexeme.keyword? with
    | some "IN" | some "BETWEEN" => some .between
    | some "LIKE" | some "ILIKE" | some "RLIKE" | some "REGEXP" | some "SIMILAR" => some .like
    | _ => none
  | "IS" => some .is
  | "IN" | "BETWEEN" | "OPERATOR" => some .between
  | "LIKE" | "ILIKE" | "RLIKE" | "REGEXP" | "SIMILAR" => some .like
  | "DIV" => some .multiplicative
  | "COLLATE" => if d = .postgres then some .collate else none
  | _ => none

/-- The level of an operator symbol. -/
def symbolLevel? (d : DialectName) (symbol : String) : Option Level :=
  if ["=", "<", "<=", "<>", "!=", ">", ">=", "==", "~", "~*", "!~", "!~*", "~~", "~~*", "!~~",
      "!~~*", "<=>"].contains symbol then some .comparison
  else if symbol = "|" then some .pipe
  else if symbol = "^" then some .caret
  else if ["#", ">>", "<<"].contains symbol then
    some (if d = .postgres then .special else .caret)
  else if symbol = "&" then some .ampersand
  else if symbol = "+" || symbol = "-" then some .additive
  else if ["*", "/", "//", "%"].contains symbol then some .multiplicative
  else if symbol = "||" then some (if d = .postgres then .special else .multiplicative)
  else if symbol = "::" then some .cast
  else if symbol = "[" then some .bracket
  else if ["!", "&&", "^@"].contains symbol then some (if d = .postgres then .special else .cast)
  else if ["->", "->>", "#>", "#>>", "@>", "<@", "#-", "@?", "@@", "?", "?&", "?|"].contains
      symbol then
    some .special
  else none

/-- The strength of the operator in front, zero if there is none. -/
def precedence (d : DialectName) : List Lexeme → Nat
  | [] => 0
  | .symbol text :: _ => ((symbolLevel? d text).map (rank d)).getD 0
  | .customOperator _ :: _ => rank d .special
  | l :: rest =>
    match l.keyword? with
    | some word => ((wordLevel? d word rest).map (rank d)).getD 0
    | none => 0

end Polyquery.Sql
