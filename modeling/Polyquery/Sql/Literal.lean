import Polyquery.Sql.Vocabulary

/-!
# Constants where the grammar asks for one

* `constant` - a constant of any kind, or a placeholder;
* `literalString` - a text;
* `wholeNumber` - a number without sign, point or exponent that fits in 64 bits;
* `signedNumber` - a number or placeholder with an optional sign, worded.
-/

namespace Polyquery.Sql

/-- A placeholder behind a colon or an at sign. -/
def markedPlaceholder (mark : String) : Parse Constant := do
  match ← take with
  | .word name => return .placeholder (mark ++ name.value)
  | .number digits false => return .placeholder (mark ++ digits)
  | _ => refuse

/-- A constant of any kind, or a placeholder. -/
def constant : Parse Constant := do
  let l ← take
  match l with
  | .word name =>
    match l.keyword? with
    | some "TRUE" => return .bool true
    | some "FALSE" => return .bool false
    | some "NULL" => return .null
    | _ => if name.quote = some '"' then return .text .double name.value else refuse
  | .number digits long => return .number digits long
  | .text kind text => return .text kind text
  | .placeholder text => return .placeholder text
  | .symbol mark => if mark = ":" || mark = "@" then markedPlaceholder mark else refuse
  | .customOperator _ => refuse

/-- A text where the grammar asks for one: a constant, or a word without a meaning of its own. -/
def literalString (d : DialectName) : Parse String := do
  let l ← take
  match l with
  | .word name => if l.isVocabulary then refuse else return name.value
  | .text .single value | .text .double value | .text .unicode value => return value
  | .text .escaped value => if d = .generic || d = .postgres then return value else refuse
  | _ => refuse

/-- A number without sign, point or exponent that fits in 64 bits, in its shortest digits. -/
def wholeNumber : Parse String := do
  match ← take with
  | .number digits _ =>
    let n := BinaryFloat.digitsValue digits.toList
    if digits.toList.all Text.isAsciiDigit && decide (n < Nat.pow 2 64) then
      return Integer.natText n
    else refuse
  | _ => refuse

/-- A number or placeholder with an optional sign, worded. -/
def signedNumber : Parse String := do
  let sign ←
    if ← symbol? "+" then pure "+"
    else do
      if ← symbol? "-" then pure "-" else pure ""
  match ← constant with
  | .number digits long => return sign ++ (Constant.number digits long).render
  | .placeholder text => return sign ++ text
  | _ => refuse

end Polyquery.Sql
