import Polyquery.Diagnostic
import Polyquery.Json.Printer
import Polyquery.OData.Expand
import Polyquery.Settings
import Polyquery.Sql.Reader
import Polyquery.Sql.Statement

/-!
# The command line

* `Command` - what is asked for; `Invocation` - a command with its options;
* `Invocation.ofArguments?` - the invocation of a list of arguments;
* `Config` - what has been found where a configuration is looked for;
* `Invocation.run` - what an invocation prints, and whether it succeeds.
-/

namespace Polyquery

/-- What is asked for. -/
inductive Command where
  /-- Print the query options of a SQL text. -/
  | sqlToOData (sql : String)
  /-- Print the SQL of a collection and a query string. -/
  | odataToSql (collection queryString : String)

/-- A command with its options. -/
structure Invocation where
  command : Command
  dialect : Option Sql.DialectName
  config : Option String

/-- What a run leaves behind. -/
structure Outcome where
  succeeded : Bool
  output : String
  errors : String

/-- What has been found where a configuration is looked for. -/
inductive Config where
  | absent
  | document (text : String)
  | missing (path : String)
  | unreadable (reason : String)

namespace Config

/-- The settings of a configuration, or what is wrong with it. -/
def settings : Config → Except String Settings
  | .absent => .ok .standard
  | .document text =>
    match Settings.parse? text with
    | some s => .ok s
    | none => .error "Failed to parse config file: not a document of settings"
  | .missing path => .error ("Config file not found: " ++ path)
  | .unreadable reason => .error ("Failed to read config file: " ++ reason)

end Config

namespace Outcome

/-- A success that prints a line. -/
def success (line : String) : Outcome := ⟨true, line ++ "\n", ""⟩

/-- A failure that prints some text. -/
def failure (text : String) : Outcome := ⟨false, "", text⟩

/-- The text that tells about a failure in a source text. -/
def errorText (e : QueryError) (source : String) : String :=
  match e with
  | .syntaxError e => e.report source.toList
  | other => "Error: " ++ other.message ++ "\n"

/-- A failure with a query. -/
def ofError (e : QueryError) (source : String) : Outcome := failure (errorText e source)

end Outcome

namespace Command

/-- Query options of a SQL text. -/
def options (s : Settings) (dialect : Option Sql.DialectName) (sql : String) : Outcome :=
  let options := do
    let q ← Sql.parse (dialect.getD s.sql.parserDialect) Resolvers.empty sql
    (OData.Writer.ofSettings s.odata).options q
  match options with
  | .ok options => .success options.toDocument.pretty
  | .error e => .ofError e sql

/-- Apply options in turn; a failure tells which option it is in. -/
def applyOptions (r : OData.Reader) (n : OData.Node) :
    List (String × String) → Except Outcome OData.Node
  | [] => .ok n
  | (name, value) :: rest =>
    match r.applyOption n name value with
    | (n, .ok _) => applyOptions r n rest
    | (_, .error e) =>
      .error (.failure ("In " ++ name ++ ":\n" ++ Outcome.errorText e value))

/-- SQL of a collection and a query string; expansions have none. -/
def sql (s : Settings) (dialect : Option Sql.DialectName) (collection queryString : String) :
    Outcome :=
  let reader : OData.Reader := ⟨Resolvers.empty, s.odata.maxExpandDepth⟩
  let start := OData.Node.ofQuery (Query.empty.fromCollection (Entity.named collection))
  match applyOptions reader start (Text.formPairs queryString) with
  | .error failure => failure
  | .ok n =>
    match (dialect.getD s.sql.dialect).dialect.format n.query with
    | .ok sql => .success sql
    | .error e => .ofError e queryString

/-- What a command prints. -/
def run (s : Settings) (dialect : Option Sql.DialectName) : Command → Outcome
  | .sqlToOData text => options s dialect text
  | .odataToSql collection queryString => sql s dialect collection queryString

end Command

/-- What an invocation prints. -/
def Invocation.run (i : Invocation) (config : Config) : Outcome :=
  match config.settings with
  | .ok s => i.command.run s i.dialect
  | .error reason => .failure ("Configuration error: " ++ reason ++ "\n")

/-! ### Arguments -/

/-- Arguments sorted into options and the others. -/
structure Arguments where
  options : List (String × String)
  others : List String

/-- The long name of an option. -/
def optionName? (argument : String) : Option String :=
  match argument with
  | "--config" | "-c" => some "config"
  | "--dialect" | "-d" => some "dialect"
  | "--collection" => some "collection"
  | _ => none

/-- Sort arguments; the value of an option stands behind it, or behind a `=` in the same one. -/
def Arguments.sort? : List String → Option Arguments
  | [] => some ⟨[], []⟩
  | "--" :: rest => some ⟨[], rest⟩
  | [argument] =>
    let name := String.ofList (argument.toList.takeWhile (· ≠ '='))
    let value := String.ofList ((argument.toList.dropWhile (· ≠ '=')).drop 1)
    match optionName? name with
    | some option => if name = argument then none else some ⟨[(option, value)], []⟩
    | none => if "-".toList.isPrefixOf argument.toList then none else some ⟨[], [argument]⟩
  | argument :: next :: rest =>
    let name := String.ofList (argument.toList.takeWhile (· ≠ '='))
    let value := String.ofList ((argument.toList.dropWhile (· ≠ '=')).drop 1)
    match optionName? name with
    | some option =>
      if name = argument then
        (Arguments.sort? rest).map fun a => { a with options := (option, next) :: a.options }
      else
        (Arguments.sort? (next :: rest)).map fun a =>
          { a with options := (option, value) :: a.options }
    | none =>
      if "-".toList.isPrefixOf argument.toList then none
      else
        (Arguments.sort? (next :: rest)).map fun a => { a with others := argument :: a.others }

/-- The value of an option. -/
def Arguments.value? (a : Arguments) (option : String) : Option String :=
  (a.options.find? fun o => o.1 == option).map (·.2)

/-- The invocation of a list of arguments. -/
def Invocation.ofArguments? (arguments : List String) : Option Invocation := do
  let a ← Arguments.sort? arguments
  let dialect ← match a.value? "dialect" with
    | none => some none
    | some name => (Settings.dialectNamed? name).map some
  let command ← match a.others, a.value? "collection" with
    | ["sql-to-odata", sql], none => some (Command.sqlToOData sql)
    | ["odata-to-sql", queryString], some collection =>
      some (.odataToSql collection queryString)
    | _, _ => none
  return ⟨command, dialect, a.value? "config"⟩

end Polyquery
