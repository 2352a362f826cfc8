import Polyquery.Json
import Polyquery.Number.Integer
import Polyquery.Number.Layout

/-!
# JSON text

* `Json.compact` - one line without spaces;
* `Json.pretty` - one entry a line, indented by two spaces a level.

Quotes, backslashes and controls are escaped; every other character stands for itself.
-/

namespace Polyquery.Json

/-- The escaped form of one character of a string. -/
def escapedChar (c : Char) : List Char :=
  if c = '"' then ['\\', '"']
  else if c = '\\' then ['\\', '\\']
  else if c = '\n' then ['\\', 'n']
  else if c = '\r' then ['\\', 'r']
  else if c = '\t' then ['\\', 't']
  else if c.toNat = 8 then ['\\', 'b']
  else if c.toNat = 12 then ['\\', 'f']
  else if c.toNat < 32 then
    let digits := Nat.toDigits 16 c.toNat
    ['\\', 'u'] ++ List.replicate (4 - digits.length) '0' ++ digits
  else [c]

/-- A string between quotes. -/
def stringText (s : String) : String :=
  String.ofList ('"' :: (s.toList.flatMap escapedChar ++ ['"']))

/-- The text of a number. -/
def floatText (f : Double) : String :=
  if f.isFinite then NumberLayout.document.render f else "null"

mutual

/-- The text of a document on one line. -/
def compact : Json → String
  | .null => "null"
  | .bool true => "true"
  | .bool false => "false"
  | .int n => Integer.text n
  | .float f => floatText f
  | .string s => stringText s
  | .array items => "[" ++ compactItems items ++ "]"
  | .object fields => "\x7b" ++ compactFields fields ++ "\x7d"

/-- Array items with commas between them. -/
def compactItems : List Json → String
  | [] => ""
  | [item] => compact item
  | item :: rest => compact item ++ "," ++ compactItems rest

/-- Object entries with commas between them. -/
def compactFields : List (String × Json) → String
  | [] => ""
  | [(key, value)] => stringText key ++ ":" ++ compact value
  | (key, value) :: rest => stringText key ++ ":" ++ compact value ++ "," ++ compactFields rest

end

/-- A line break followed by the indentation of a level. -/
def newline (level : Nat) : String := String.ofList ('\n' :: List.replicate (2 * level) ' ')

mutual

/-- The text of a document with one entry a line, at an indentation level. -/
def prettyAt (level : Nat) : Json → String
  | .null => "null"
  | .bool true => "true"
  | .bool false => "false"
  | .int n => Integer.text n
  | .float f => floatText f
  | .string s => stringText s
  | .array [] => "[]"
  | .array (item :: rest) =>
    "[" ++ newline (level + 1) ++ prettyAt (level + 1) item ++ prettyItems (level + 1) rest ++
      newline level ++ "]"
  | .object [] => "\x7b\x7d"
  | .object ((key, value) :: rest) =>
    "\x7b" ++ newline (level + 1) ++ stringText key ++ ": " ++ prettyAt (level + 1) value ++
      prettyFields (level + 1) rest ++ newline level ++ "\x7d"

/-- Further array items, each after a comma on its own line. -/
def prettyItems (level : Nat) : List Json → String
  | [] => ""
  | item :: rest => "," ++ newline level ++ prettyAt level item ++ prettyItems level rest

/-- Further object entries, each after a comma on its own line. -/
def prettyFields (level : Nat) : List (String × Json) → String
  | [] => ""
  | (key, value) :: rest =>
    "," ++ newline level ++ stringText key ++ ": " ++ prettyAt level value ++
      prettyFields level rest

end

/-- The text of a document with one entry a line. -/
def pretty (j : Json) : String := prettyAt 0 j

end Polyquery.Json
