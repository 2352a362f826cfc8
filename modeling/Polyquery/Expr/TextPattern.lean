import Polyquery.Expr

/-!
# Text patterns

Prefix, suffix and substring tests are regular expressions made of escaped literal text and at most
one anchor.

* `TextPattern` - the three shapes;
* `TextPattern.regex` - the regular expression of a shape;
* `TextPattern.ofRegex?` - the shape of a regular expression that uses nothing else;
* `Expr.startsWith`, `Expr.endsWith`, `Expr.contains` - the tests as expressions.
-/

namespace Polyquery

/-- The shape of a literal text test. -/
inductive TextPattern where
  | startsWith (text : String)
  | endsWith (text : String)
  | contains (text : String)
deriving DecidableEq

namespace TextPattern

/-- The text that is looked for. -/
def text : TextPattern → String
  | .startsWith s | .endsWith s | .contains s => s

/-- Characters that a literal text escapes. -/
def isEscaped (c : Char) : Bool :=
  c ∈ ['\\', '.', '+', '*', '?', '(', ')', '|', '[', ']', '\x7b', '\x7d', '^', '$', '#', '&', '-',
    '~']

/-- Characters that mean something in a regular expression unless they are escaped. -/
def isOperator (c : Char) : Bool :=
  c ∈ ['.', '+', '*', '?', '(', ')', '|', '[', ']', '\x7b', '\x7d', '^', '$']

/-- A literal text with its special characters escaped. -/
def escape (cs : List Char) : List Char :=
  cs.flatMap fun c => if isEscaped c then ['\\', c] else [c]

/-- The literal text of an escaped one; operators and escapes of letters or digits have none. -/
def unescape? : List Char → Option (List Char)
  | [] => some []
  | '\\' :: [] => none
  | '\\' :: c :: rest =>
    if Text.isAlphanumeric c then none else (unescape? rest).map (c :: ·)
  | c :: rest => if isOperator c then none else (unescape? rest).map (c :: ·)

/-- The characters of the regular expression of a shape. -/
def regexChars : TextPattern → List Char
  | .startsWith s => '^' :: escape s.toList
  | .endsWith s => escape s.toList ++ ['$']
  | .contains s => escape s.toList

/-- The regular expression of a shape. -/
def regex (p : TextPattern) : String := String.ofList p.regexChars

/-- Whether the characters end in the given ones. -/
def endsIn (tail cs : List Char) : Bool := tail.reverse.isPrefixOf cs.reverse

/-- The shape of a regular expression made of literal text and at most one anchor. -/
def ofRegexChars? (cs : List Char) : Option TextPattern :=
  let literal (f : String → TextPattern) (cs : List Char) : Option TextPattern :=
    (unescape? cs).map fun text => f (String.ofList text)
  match cs with
  | '^' :: rest =>
    if endsIn ['$'] rest && !endsIn ['\\', '$'] rest then none else literal .startsWith rest
  | _ =>
    if endsIn ['$'] cs && !endsIn ['\\'] cs.dropLast then literal .endsWith cs.dropLast
    else literal .contains cs

/-- The shape of a regular expression made of literal text and at most one anchor. -/
def ofRegex? (regex : String) : Option TextPattern := ofRegexChars? regex.toList

end TextPattern

namespace Expr

/-- `input` matches a text pattern. -/
def textMatch (input : Expr) (p : TextPattern) : Expr := .regexMatch input p.regex none

/-- `input` starts with a text. -/
def startsWith (input : Expr) (text : String) : Expr := input.textMatch (.startsWith text)

/-- `input` ends with a text. -/
def endsWith (input : Expr) (text : String) : Expr := input.textMatch (.endsWith text)

/-- `input` contains a text. -/
def contains (input : Expr) (text : String) : Expr := input.textMatch (.contains text)

end Expr

end Polyquery
