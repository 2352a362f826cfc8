import Polyquery.CommandLine

/-!
# The program

Reads the arguments and the configuration, and prints what the invocation gives.
-/

open Polyquery

/-- How the program is called. -/
def usage : String :=
  "Usage: polyquery sql-to-odata <SQL>\n" ++
    "       polyquery odata-to-sql --collection <NAME> <QUERY_STRING>\n" ++
    "Options: --dialect <generic|sqlite|postgres|mysql>, --config <FILE>\n"

/-- The configuration in a file that should be there. -/
def readConfig (path : String) : IO Config := do
  try return .document (← IO.FS.readFile path)
  catch
    | .noFileOrDirectory .. => return .missing path
    | e => return .unreadable (toString e)

/-- The configuration of an invocation: the file it names, the one the environment names, or the
local one. -/
def findConfig (i : Invocation) : IO Config := do
  match i.config, ← IO.getEnv "POLYQUERY_CONFIG" with
  | some path, _ => readConfig path
  | none, some path => readConfig path
  | none, none =>
    match ← readConfig "polyquery.toml" with
    | .missing _ => return .absent
    | found => return found

/-- Run the program. -/
def main (arguments : List String) : IO UInt32 := do
  match Invocation.ofArguments? arguments with
  | none =>
    (← IO.getStderr).putStr usage
    return 2
  | some i =>
    let outcome := i.run (← findConfig i)
    (← IO.getStdout).putStr outcome.output
    (← IO.getStderr).putStr outcome.errors
    return if outcome.succeeded then 0 else 1
