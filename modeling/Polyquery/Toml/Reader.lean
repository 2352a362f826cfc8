import Polyquery.Toml.Scalar

/-!
# Reading configuration documents

* `Reading` - a reading at the front of a text;
* `quotedText`, `keyPath`, `value` - the pieces of a line;
* `parse?` - the outermost table of a document, if it is one.
-/

namespace Polyquery.Toml

/-- A reading at the front of a text. -/
abbrev Reading := StateT (List Char) Option

/-- The text does not fit. -/
def refuse {α : Type} : Reading α := fun _ => none

/-- Take a text, if it stands in front. -/
def accept? (text : String) : Reading Bool := fun cs =>
  if text.toList.isPrefixOf cs then some (true, cs.drop text.length) else some (false, cs)

/-- Take a text. -/
def expect (text : String) : Reading Unit := do
  unless ← accept? text do refuse

/-- Take the characters in front that have a property. -/
def takeWhile (p : Char → Bool) : Reading (List Char) := fun cs =>
  some (cs.takeWhile p, cs.dropWhile p)

/-- A bound on the number of characters to come. -/
def remaining : Reading Nat := do return (← get).length

/-! ### Blanks and comments -/

/-- A space or a tab. -/
def isSpace (c : Char) : Bool := c = ' ' || c = '\t'

/-- A character that comments and texts may hold: any but controls other than the tab. -/
def isPlain (c : Char) : Bool := c = '\t' || (decide (32 ≤ c.toNat) && c.toNat != 127)

/-- Skip spaces and tabs. -/
def skipSpaces : Reading Unit := do
  let _ ← takeWhile isSpace

/-- Take a line break, if one stands in front. -/
def lineBreak? : Reading Bool := do
  if ← accept? "\n" then return true else accept? "\r\n"

/-- Skip spaces and a comment. -/
def skipComment : Reading Unit := do
  skipSpaces
  if ← accept? "#" then
    let _ ← takeWhile isPlain

/-- Skip spaces, comments and line breaks. -/
def skipLines : Nat → Reading Unit
  | 0 => skipComment
  | fuel + 1 => do
    skipComment
    if ← lineBreak? then skipLines fuel

/-- Take the end of a line or of the document. -/
def endLine : Reading Unit := do
  skipComment
  unless ← lineBreak? do
    unless (← get).isEmpty do refuse

/-! ### Texts -/

/-- The character of hexadecimal digits. -/
def codePoint (count : Nat) : Reading Char := do
  let ds := (← get).take count
  let n := digitsOf 16 ds
  if ds.length = count ∧ ds.all (isDigitOf 16) ∧ n.isValidChar then
    set ((← get).drop count)
    return Char.ofNat n
  else refuse

/-- The character of an escape, behind the backslash. -/
def escaped : Reading Char := do
  match ← get with
  | c :: rest =>
    set rest
    match c with
    | 'b' => return '\x08'
    | 't' => return '\t'
    | 'n' => return '\n'
    | 'f' => return '\x0c'
    | 'r' => return '\r'
    | 'e' => return '\x1b'
    | '"' => return '"'
    | '\\' => return '\\'
    | 'x' => codePoint 2
    | 'u' => codePoint 4
    | 'U' => codePoint 8
    | _ => refuse
  | [] => refuse

/-- A text up to a double quote, escapes resolved. -/
def basicText : Nat → Reading (List Char)
  | 0 => refuse
  | fuel + 1 => do
    let taken ← takeWhile fun c => isPlain c && c ≠ '"' && c ≠ '\\'
    if ← accept? "\"" then return taken
    else
      expect "\\"
      let c ← escaped
      return taken ++ c :: (← basicText fuel)

/-- A text up to a single quote. -/
def literalText : Reading (List Char) := do
  let taken ← takeWhile fun c => isPlain c && c ≠ '\''
  expect "'"
  return taken

/-- Up to two quotes right behind the closing ones, which belong to the text. -/
def trailingQuotes (quote : String) : Reading (List Char) := do
  if ← accept? (quote ++ quote) then return (quote ++ quote).toList
  else if ← accept? quote then return quote.toList
  else return []

/-- Skip the rest of a line that ends in a backslash, and the blanks that start the next ones. -/
def foldLines : Reading Unit := do
  skipSpaces
  if ← lineBreak? then
    let _ ← takeWhile fun c => isSpace c || c = '\n' || c = '\r'
  else refuse

/-- A text over several lines up to three double quotes. -/
def longBasicText : Nat → Reading (List Char)
  | 0 => refuse
  | fuel + 1 => do
    let taken ← takeWhile fun c => isPlain c && c ≠ '"' && c ≠ '\\'
    if ← accept? "\"\"\"" then return taken ++ (← trailingQuotes "\"")
    else if ← accept? "\"" then return taken ++ '"' :: (← longBasicText fuel)
    else if ← lineBreak? then return taken ++ '\n' :: (← longBasicText fuel)
    else
      expect "\\"
      match ← get with
      | c :: _ =>
        if isSpace c || c = '\n' || c = '\r' then
          foldLines
          return taken ++ (← longBasicText fuel)
        else
          let c ← escaped
          return taken ++ c :: (← longBasicText fuel)
      | [] => refuse

/-- A text over several lines up to three single quotes. -/
def longLiteralText : Nat → Reading (List Char)
  | 0 => refuse
  | fuel + 1 => do
    let taken ← takeWhile fun c => isPlain c && c ≠ '\''
    if ← accept? "'''" then return taken ++ (← trailingQuotes "'")
    else if ← accept? "'" then return taken ++ '\'' :: (← longLiteralText fuel)
    else if ← lineBreak? then return taken ++ '\n' :: (← longLiteralText fuel)
    else refuse

/-- A quoted text of one line, if one stands in front. -/
def quotedText? : Reading (Option String) := do
  if ← accept? "\"" then return some (String.ofList (← basicText (← remaining)))
  else if ← accept? "'" then return some (String.ofList (← literalText))
  else return none

/-- A quoted text of one or more lines, if one stands in front. -/
def longText? : Reading (Option String) := do
  if ← accept? "\"\"\"" then
    let _ ← lineBreak?
    return some (String.ofList (← longBasicText (← remaining)))
  else if ← accept? "'''" then
    let _ ← lineBreak?
    return some (String.ofList (← longLiteralText (← remaining)))
  else quotedText?

/-! ### Keys -/

/-- A character of a key without quotes. -/
def isBare (c : Char) : Bool :=
  Text.isAsciiLetter c || Text.isAsciiDigit c || c = '_' || c = '-'

/-- One name of a key. -/
def simpleKey : Reading String := do
  match ← quotedText? with
  | some text => return text
  | none =>
    let name ← takeWhile isBare
    if name.isEmpty then refuse else return String.ofList name

/-- Further names of a key, each behind a point. -/
def moreKeys : Nat → Reading (List String)
  | 0 => return []
  | fuel + 1 => do
    skipSpaces
    if ← accept? "." then
      skipSpaces
      let name ← simpleKey
      return name :: (← moreKeys fuel)
    else return []

/-- The names of a key: those of the path, and the last one. -/
def keyPath : Reading (List String × String) := do
  skipSpaces
  let first ← simpleKey
  let names := first :: (← moreKeys (← remaining))
  return (names.dropLast, names.getLast?.getD first)

/-! ### Values -/

/-- A character of a value without quotes. -/
def isScalarChar (c : Char) : Bool :=
  isBare c || c = '+' || c = '.' || c = ':'

/-- A value without quotes; a date and its time may have a space between them. -/
def scalar : Reading Value := do
  let first ← takeWhile isScalarChar
  let rest ← get
  let cs := match afterDay? first, rest with
    | some [], ' ' :: time => if (twoDigits? time).isSome then
        first ++ ' ' :: time.takeWhile isScalarChar else first
    | _, _ => first
  set (rest.drop (cs.length - first.length))
  match scalar? cs with
  | some v => return v
  | none => refuse

/-- Items of an array up to the closing bracket. -/
def arrayItems (item : Reading Value) : Nat → Reading (List Value)
  | 0 => refuse
  | fuel + 1 => do
    skipLines (← remaining)
    if ← accept? "]" then return []
    else
      let v ← item
      skipLines (← remaining)
      if ← accept? "," then return v :: (← arrayItems item fuel)
      else
        expect "]"
        return [v]

/-- One key with its value, set in a table; blanks may stand around the sign between them. -/
def assignment (blanks : Reading Unit) (item : Reading Value)
    (change : List String → String → Value → Table → Option Table) (t : Table) :
    Reading Table := do
  let (path, key) ← keyPath
  blanks
  expect "="
  blanks
  let v ← item
  match change path key v t with
  | some t => return t
  | none => refuse

/-- Keys and values up to the closing brace; comments and line breaks may stand between them, and
a comma behind the last one. -/
def inlineEntries (item : Reading Value) : Nat → Table → Reading Table
  | 0, _ => refuse
  | fuel + 1, t => do
    skipLines (← remaining)
    if ← accept? "\x7d" then return t
    else
      let t ← assignment (do skipLines (← remaining)) item Table.assign t
      skipLines (← remaining)
      if ← accept? "," then inlineEntries item fuel t
      else
        expect "\x7d"
        return t

/-- A value; arrays and tables hold items, if they may hold any. -/
def valueWith (item : Option (Reading Value)) : Reading Value := do
  match ← longText? with
  | some text => return .string text
  | none =>
    if ← accept? "[" then
      match item with
      | some item => return .array false (← arrayItems item (← remaining))
      | none => refuse
    else if ← accept? "\x7b" then
      match item with
      | some item =>
        let t ← inlineEntries item (← remaining) Table.empty
        return .table .closed t.entries
      | none => refuse
    else scalar

/-- How deep arrays and tables between braces may nest. -/
def nestingLimit : Nat := 80

/-- A value that nests at most so deep. -/
def valueAt : Nat → Reading Value
  | 0 => valueWith none
  | depth + 1 => valueWith (some (valueAt depth))

/-- A value. -/
def value : Reading Value := valueAt nestingLimit

/-! ### Documents -/

/-- A change of the table under the last header. -/
def underHeader (header : List String) (path : List String) (key : String) (v : Value) (t : Table) :
    Option Table :=
  t.within false (Table.assign path key v) header

/-- A header and the table after it. -/
def header (t : Table) : Reading (List String × Table) := do
  let next ← accept? "["
  let (path, key) ← keyPath
  skipSpaces
  expect (if next then "]]" else "]")
  match if next then t.openNext path key else t.open path key with
  | some t => return (path ++ [key], t)
  | none => refuse

/-- Lines from a header on. -/
def document : Nat → List String → Table → Reading Table
  | 0, _, _ => refuse
  | fuel + 1, at?, t => do
    skipLines (← remaining)
    if (← get).isEmpty then return t
    else if ← accept? "[" then
      let (path, t) ← header t
      endLine
      document fuel path t
    else
      let t ← assignment skipSpaces value (underHeader at?) t
      endLine
      document fuel at? t

/-- The outermost table of a document. -/
def parse? (text : String) : Option Table :=
  let cs := match text.toList with
    | '\ufeff' :: rest => rest
    | cs => cs
  ((document (cs.length + 1) [] Table.empty).run cs).map (·.1)

end Polyquery.Toml
