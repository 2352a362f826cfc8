import Polyquery.Number.Layout
import Polyquery.Sql.Token
import Polyquery.Text.Case
import Polyquery.Text.Delimited

/-!
# SQL dialects

A dialect is a record of decisions: how names and constants are spelled, and which of a few forms an
operator takes.

* `Dialect` - the decisions;
* `Dialect.generic`, `Dialect.sqlite`, `Dialect.postgres`, `Dialect.mySql` - the built-in dialects;
* `DialectName` - their names, with `DialectName.parse`;
* `Dialect.tokenText`, `Dialect.text` - tokens spelled out.
-/

namespace Polyquery.Sql

/-- How a part of a date is taken. -/
inductive DatePartForm where
  /-- A function named for the part. -/
  | function
  /-- Formatting the date and converting the text to a number. -/
  | formatted
  /-- `EXTRACT` of the part. -/
  | extract
deriving DecidableEq

/-- How a text is matched against a regular expression. -/
inductive RegexForm where
  /-- The function `REGEXP_LIKE`. -/
  | function
  /-- The operators `~` and `~*`. -/
  | operator
  /-- Plain text functions for literal patterns, `LIKE` where letter case is ignored, and the
  operator `REGEXP` for all others. -/
  | textFunctions
deriving DecidableEq

/-- The decisions of a dialect. -/
structure Dialect where
  name : String
  quoteIdentifier : String → String
  quoteString : String → String
  boolText : Bool → String
  nullText : String
  concatOperator : String
  /-- Texts are concatenated by the operator, not by a function. -/
  concatByOperator : Bool
  /-- The bound to write where an offset needs one, if it does. -/
  unboundedLimit : Option String
  datePart : DatePartForm
  lengthFunction : String
  /-- The length function takes any number of arguments. -/
  lengthAnyArity : Bool
  substringFunction : String
  /-- The function that finds a text in another. -/
  locateFunction : String
  /-- That function takes the text to find first. -/
  locateNeedleFirst : Bool
  regex : RegexForm
  /-- The function that stands for a foreign operator, if there is one. -/
  customFunction? : String → Option String

/-! ### Quoting -/

/-- A name between double quotes. -/
def quoteDouble (name : String) : String := Text.delimited '"' name

/-- The grave accent. -/
def graveAccent : Char := '\x60'

/-- A name between grave accents. -/
def quoteGrave (name : String) : String := Text.delimited graveAccent name

/-- A text between single quotes. -/
def quoteSingle (s : String) : String := Text.delimited '\'' s

/-- An ASCII letter or an underscore, followed by such characters and digits. -/
def isBareName (name : String) : Bool :=
  match name.toList with
  | [] => false
  | c :: rest =>
    (Text.isAsciiLetter c || c = '_') &&
      rest.all fun d => Text.isAsciiLetter d || Text.isAsciiDigit d || d = '_'

/-- Plain words stay bare, other names go between double quotes. -/
def quoteIfNeeded (name : String) : String := if isBareName name then name else quoteDouble name

namespace Dialect

/-- No particular database: bare words, and the plainest form of everything. -/
def generic : Dialect where
  name := "generic"
  quoteIdentifier := quoteIfNeeded
  quoteString := quoteSingle
  boolText b := if b then "TRUE" else "FALSE"
  nullText := "NULL"
  concatOperator := "||"
  concatByOperator := true
  unboundedLimit := none
  datePart := .function
  lengthFunction := "LENGTH"
  lengthAnyArity := false
  substringFunction := "SUBSTRING"
  locateFunction := "LOCATE"
  locateNeedleFirst := true
  regex := .function
  customFunction? _ := none

/-- SQLite. -/
def sqlite : Dialect :=
  { generic with
    name := "sqlite"
    quoteIdentifier := quoteGrave
    boolText := fun b => if b then "1" else "0"
    unboundedLimit := some "-1"
    datePart := .formatted
    substringFunction := "SUBSTR"
    locateFunction := "INSTR"
    locateNeedleFirst := false
    regex := .textFunctions }

/-- PostgreSQL. -/
def postgres : Dialect :=
  { generic with
    name := "postgres"
    quoteIdentifier := quoteDouble
    boolText := fun b => if b then "true" else "false"
    datePart := .extract
    locateFunction := "STRPOS"
    locateNeedleFirst := false
    regex := .operator }

/-- MySQL. -/
def mySql : Dialect :=
  { generic with
    name := "mysql"
    quoteIdentifier := quoteGrave
    boolText := fun b => if b then "1" else "0"
    concatByOperator := false
    unboundedLimit := some "18446744073709551615" }

/-- The text of a token. -/
def tokenText (d : Dialect) : Token → String
  | .keyword k => k.text
  | .symbol text => text
  | .concat => d.concatOperator
  | .space => " "
  | .ident name => d.quoteIdentifier name
  | .int n => Integer.text64 n
  | .float f => NumberLayout.literal.render f
  | .string s => d.quoteString s
  | .bool b => d.boolText b
  | .null => d.nullText
  | .functionName name => Text.upper name
  | .raw text => text

/-- The text of tokens. -/
def text (d : Dialect) (ts : List Token) : String := String.join (ts.map d.tokenText)

end Dialect

/-- The built-in dialects. -/
inductive DialectName where
  | generic | sqlite | postgres | mySql
deriving DecidableEq, Inhabited

namespace DialectName

/-- Every built-in dialect. -/
def all : List DialectName := [.generic, .sqlite, .postgres, .mySql]

/-- The decisions of a built-in dialect. -/
def dialect : DialectName → Dialect
  | .generic => .generic
  | .sqlite => .sqlite
  | .postgres => .postgres
  | .mySql => .mySql

/-- The text of a name. -/
def text (n : DialectName) : String := n.dialect.name

/-- The dialect of a name in any letter case. -/
def parse (s : String) : QueryResult DialectName :=
  match all.find? fun n => Text.eqIgnoreAsciiCase n.text s with
  | some n => .ok n
  | none => .error (.unsupported ("SQL dialect '" ++ s ++ "'"))

end DialectName

end Polyquery.Sql
