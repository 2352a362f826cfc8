import Polyquery.Sql.Tree

/-!
# Reading lexemes

* `Refusal` - why a reading fails: a lexeme that does not fit, or nesting beyond the limit;
* `Parse` - a reading at the front of a list of lexemes;
* `attempt` - a reading that may fail and then takes nothing;
* `onlyIf` - a reading that is tried under a condition;
* `keyword?`, `symbol?`, `expectKeyword`, `expectSymbol` - words and punctuation;
* `commaSeparated`, `inParens` - lists;
* `identifier`, `objectName`, `optionalAlias` - names.

A reading that does not fit leaves the choice to another one.  A reading that is nested too deeply
ends the whole text.
-/

namespace Polyquery.Sql

/-- Why a reading fails. -/
inductive Refusal where
  | mismatch
  | tooDeep
deriving DecidableEq

/-- A reading at the front of a list of lexemes. -/
abbrev Parse := StateT (List Lexeme) (Except Refusal)

/-- The lexemes do not fit. -/
def refuse {α : Type} : Parse α := throw .mismatch

/-- A reading that takes nothing where it does not fit. -/
def attempt {α : Type} (p : Parse α) : Parse (Option α) := fun ls =>
  match p ls with
  | .ok (a, rest) => .ok (some a, rest)
  | .error .mismatch => .ok (none, ls)
  | .error .tooDeep => .error .tooDeep

/-- A reading that is tried under a condition only; where it fails, nothing is taken. -/
def onlyIf (condition : Bool) (p : Parse Bool) : Parse Bool :=
  if condition then p else return false

/-- Take the lexeme in front. -/
def take : Parse Lexeme := do
  match ← get with
  | l :: rest =>
    set rest
    return l
  | [] => refuse

/-- A bound on the number of lexemes to come. -/
def remaining : Parse Nat := do return (← get).length

/-! ### Words and punctuation -/

/-- A word without quotes, in upper case. -/
def Lexeme.keyword? : Lexeme → Option String
  | .word ⟨value, none⟩ => some (Text.upper value)
  | _ => none

/-- Whether a lexeme is the given word. -/
def Lexeme.isKeyword (word : String) (l : Lexeme) : Bool := l.keyword? = some word

/-- Whether a lexeme is one of the given words. -/
def Lexeme.isOneOf (words : List String) (l : Lexeme) : Bool :=
  match l.keyword? with
  | some found => words.contains found
  | none => false

/-- Whether the given words stand in front. -/
def keywordsAhead (words : List String) (ls : List Lexeme) : Bool :=
  match words, ls with
  | [], _ => true
  | word :: words, l :: ls => l.isKeyword word && keywordsAhead words ls
  | _ :: _, [] => false

/-- Take the given words, if all of them stand in front. -/
def keywords? (words : List String) : Parse Bool := do
  let ls ← get
  if keywordsAhead words ls then
    set (ls.drop words.length)
    return true
  else return false

/-- Take a word, if it stands in front. -/
def keyword? (word : String) : Parse Bool := keywords? [word]

/-- Take one of the given words, if one stands in front. -/
def oneOf? (words : List String) : Parse (Option String) := do
  match ← get with
  | l :: rest =>
    if l.isOneOf words then
      set rest
      return l.keyword?
    else return none
  | [] => return none

/-- Take a word. -/
def expectKeyword (word : String) : Parse Unit := do
  unless ← keyword? word do refuse

/-- Take the given words. -/
def expectKeywords (words : List String) : Parse Unit := do
  unless ← keywords? words do refuse

/-- Take one of the given words. -/
def expectOneOf (words : List String) : Parse String := do
  match ← oneOf? words with
  | some word => return word
  | none => refuse

/-- Whether a symbol stands in front. -/
def symbolAhead (text : String) (ls : List Lexeme) : Bool := ls.head? = some (.symbol text)

/-- Take a symbol, if it stands in front. -/
def symbol? (text : String) : Parse Bool := do
  let ls ← get
  if symbolAhead text ls then
    set (ls.drop 1)
    return true
  else return false

/-- Take a symbol. -/
def expectSymbol (text : String) : Parse Unit := do
  unless ← symbol? text do refuse

/-! ### Repetition -/

/-- Further items after commas. -/
def commaRest {α : Type} (item : Parse α) : Nat → Parse (List α)
  | 0 => return []
  | n + 1 => do
    if ← symbol? "," then
      let a ← item
      return a :: (← commaRest item n)
    else return []

/-- Items with commas between them. -/
def commaSeparated {α : Type} (item : Parse α) : Parse (List α) := do
  let bound ← remaining
  let a ← item
  return a :: (← commaRest item bound)

/-- Items as long as there is another one. -/
def repeated {α : Type} (item : Parse (Option α)) : Nat → Parse (List α)
  | 0 => return []
  | n + 1 => do
    match ← item with
    | some a => return a :: (← repeated item n)
    | none => return []

/-- A reading between parentheses. -/
def inParens {α : Type} (p : Parse α) : Parse α := do
  expectSymbol "("
  let a ← p
  expectSymbol ")"
  return a

/-! ### Names -/

/-- The name a lexeme stands for. -/
def Lexeme.ident? : Lexeme → Option Ident
  | .word name => some name
  | .text .single value => some ⟨value, some '\''⟩
  | .text .double value => some ⟨value, some '"'⟩
  | _ => none

/-- A name. -/
def identifier : Parse Ident := do
  match (← take).ident? with
  | some name => return name
  | none => refuse

/-- Names with points between them. -/
def objectName : Parse (List Ident) := do
  let name ← identifier
  let more ← repeated (do
    if ← symbol? "." then return some (← identifier) else return none) (← remaining)
  return name :: more

/-- Names in parentheses. -/
def identifiersInParens : Parse (List Ident) := inParens (commaSeparated identifier)

/-- Words that end a projection and so are no alias in it. -/
def reservedInProjection : List String :=
  ["WITH", "EXPLAIN", "ANALYZE", "SELECT", "WHERE", "GROUP", "SORT", "HAVING", "ORDER", "TOP",
    "LATERAL", "VIEW", "LIMIT", "OFFSET", "FETCH", "UNION", "EXCEPT", "INTERSECT", "CLUSTER",
    "DISTRIBUTE", "RETURNING", "FROM", "INTO", "END"]

/-- Words that end a source and so are no alias of it. -/
def reservedInSource : List String :=
  ["WITH", "EXPLAIN", "ANALYZE", "SELECT", "WHERE", "GROUP", "SORT", "HAVING", "ORDER", "PIVOT",
    "UNPIVOT", "TOP", "LATERAL", "VIEW", "LIMIT", "OFFSET", "FETCH", "UNION", "EXCEPT",
    "INTERSECT", "ON", "JOIN", "INNER", "CROSS", "FULL", "LEFT", "RIGHT", "NATURAL", "USING",
    "CLUSTER", "DISTRIBUTE", "GLOBAL", "ANTI", "SEMI", "RETURNING", "ASOF", "MATCH_CONDITION",
    "OUTER", "SET", "QUALIFY", "WINDOW", "END", "FOR", "PARTITION", "PREWHERE", "SETTINGS",
    "FORMAT", "START", "CONNECT", "MATCH_RECOGNIZE"]

/-- An alias, with `AS` in front or, if it is not one of the reserved words, without. -/
def optionalAlias (reserved : List String) : Parse (Option Ident) := do
  let marked ← keyword? "AS"
  match ← get with
  | l :: rest =>
    match l.ident? with
    | some name =>
      if marked || !l.isOneOf reserved then
        set rest
        return some name
      else return none
    | none => if marked then refuse else return none
  | [] => if marked then refuse else return none

end Polyquery.Sql
