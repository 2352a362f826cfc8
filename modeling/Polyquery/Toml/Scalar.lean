import Polyquery.Number.BinaryFloat
import Polyquery.Toml

/-!
# Unquoted values

Numbers, truth values and dates of configuration documents.

* `integer?` - decimal, hexadecimal, octal and binary integers;
* `isFloat` - numbers with a fraction or an exponent, infinities and not-a-number;
* `isDate` - dates, times, and both with an optional offset;
* `scalar?` - the value of an unquoted text.
-/

namespace Polyquery.Toml

/-! ### Numbers -/

/-- The digits of a numeral without the underscores between them. -/
def plainDigits? (isDigit : Char → Bool) : List Char → Option (List Char)
  | [] => none
  | [c] => if isDigit c then some [c] else none
  | c :: '_' :: rest =>
    if isDigit c then (plainDigits? isDigit rest).map fun ds => c :: ds else none
  | c :: rest => if isDigit c then (plainDigits? isDigit rest).map fun ds => c :: ds else none

/-- The value of a digit in any base up to sixteen. -/
def digitValue (c : Char) : Nat :=
  if c.toNat ≤ 57 then c.toNat - 48 else if c.toNat ≤ 70 then c.toNat - 55 else c.toNat - 87

/-- Whether a character is a digit of a base up to sixteen. -/
def isDigitOf (base : Nat) (c : Char) : Bool :=
  (Text.isAsciiDigit c || (Text.isAsciiLetter c && decide (c.toNat % 32 ≤ 6))) &&
    decide (digitValue c < base)

/-- The value of digits of a base. -/
def digitsOf (base : Nat) (ds : List Char) : Nat :=
  ds.foldl (fun n c => base * n + digitValue c) 0

/-- An integer of a base. -/
def basedInteger? (base : Nat) (cs : List Char) : Option Int :=
  (plainDigits? (isDigitOf base) cs).map fun ds => (digitsOf base ds : Int)

/-- The digits of a decimal integer: no zero stands before another digit. -/
def decimalDigits? (cs : List Char) : Option (List Char) := do
  let ds ← plainDigits? Text.isAsciiDigit cs
  if ds.length ≥ 2 ∧ ds.head? = some '0' then none else some ds

/-- Whether an integer can be kept. -/
def isKept (n : Int) : Bool := decide (-Int.pow 2 127 ≤ n) && decide (n < Int.pow 2 128)

/-- The integer of a text. -/
def integer? (cs : List Char) : Option Int :=
  match cs with
  | '0' :: 'x' :: ds => basedInteger? 16 ds
  | '0' :: 'o' :: ds => basedInteger? 8 ds
  | '0' :: 'b' :: ds => basedInteger? 2 ds
  | _ =>
    let (negative, ds) := BinaryFloat.splitSign cs
    (decimalDigits? ds).map fun ds =>
      if negative then -(digitsOf 10 ds : Int) else (digitsOf 10 ds : Int)

/-- Whether a text is the exponent of a number. -/
def isExponent (cs : List Char) : Bool :=
  (plainDigits? Text.isAsciiDigit (BinaryFloat.splitSign cs).2).isSome

/-- Whether a character starts an exponent. -/
def isExponentMark (c : Char) : Bool := c = 'e' || c = 'E'

/-- Whether a text is a fraction with an optional exponent. -/
def isFraction (cs : List Char) : Bool :=
  (plainDigits? Text.isAsciiDigit (cs.takeWhile fun c => !isExponentMark c)).isSome &&
    match cs.dropWhile fun c => !isExponentMark c with
    | [] => true
    | _ :: exponent => isExponent exponent

/-- Whether a text is a number that is not an integer. -/
def isFloat (cs : List Char) : Bool :=
  let body := (BinaryFloat.splitSign cs).2
  let whole := body.takeWhile fun c => c ≠ '.' && !isExponentMark c
  body = ['i', 'n', 'f'] || body = ['n', 'a', 'n'] ||
    ((decimalDigits? whole).isSome &&
      match body.drop whole.length with
      | '.' :: fraction => isFraction fraction
      | c :: exponent => isExponentMark c && isExponent exponent
      | [] => false)

/-- Whether a number that is not an integer can be kept: digits must not grow into an infinity. -/
def isFloatKept (cs : List Char) : Bool :=
  (BinaryFloat.splitSign cs).2 = ['i', 'n', 'f'] ||
    match (BinaryFloat.parse? (cs.filter fun c => c ≠ '_') : Option Double) with
    | some (.infinite _) => false
    | _ => true

/-! ### Dates -/

/-- A number of two digits, and the characters after it. -/
def twoDigits? : List Char → Option (Nat × List Char)
  | a :: b :: rest =>
    if Text.isAsciiDigit a && Text.isAsciiDigit b then some (digitsOf 10 [a, b], rest) else none
  | _ => none

/-- The number of days of a month. -/
def monthLength (year month : Nat) : Nat :=
  if month = 2 then
    if year % 4 = 0 ∧ (year % 100 ≠ 0 ∨ year % 400 = 0) then 29 else 28
  else if month ∈ [4, 6, 9, 11] then 30
  else 31

/-- The characters after a date. -/
def afterDay? (cs : List Char) : Option (List Char) := do
  let (century, cs) ← twoDigits? cs
  let (year, cs) ← twoDigits? cs
  match cs with
  | '-' :: cs =>
    let (month, cs) ← twoDigits? cs
    match cs with
    | '-' :: cs =>
      let (day, cs) ← twoDigits? cs
      if 1 ≤ month ∧ month ≤ 12 ∧ 1 ≤ day ∧ day ≤ monthLength (100 * century + year) month then
        some cs
      else none
    | _ => none
  | _ => none

/-- The characters after the fraction of a second, if there is one. -/
def afterFraction? (cs : List Char) : Option (List Char) :=
  match cs with
  | '.' :: c :: rest =>
    if Text.isAsciiDigit c then some (rest.dropWhile Text.isAsciiDigit) else none
  | '.' :: [] => none
  | _ => some cs

/-- The characters after hours and minutes. -/
def afterMinutes? (cs : List Char) : Option (List Char) := do
  let (hour, cs) ← twoDigits? cs
  match cs with
  | ':' :: cs =>
    let (minute, cs) ← twoDigits? cs
    if hour ≤ 23 ∧ minute ≤ 59 then some cs else none
  | _ => none

/-- The characters after a time of day; the seconds may be left out. -/
def afterTime? (cs : List Char) : Option (List Char) := do
  match ← afterMinutes? cs with
  | ':' :: cs =>
    let (second, cs) ← twoDigits? cs
    if second ≤ 60 then afterFraction? cs else none
  | rest => some rest

/-- Whether a text is an offset from universal time, or nothing. -/
def isOffset (cs : List Char) : Bool :=
  match cs with
  | [] | ['Z'] | ['z'] => true
  | c :: rest => (c = '+' || c = '-') && afterMinutes? rest == some []

/-- Whether a text is a date, a time, or a date and a time. -/
def isDate (cs : List Char) : Bool :=
  afterTime? cs == some [] ||
    match afterDay? cs with
    | some [] => true
    | some (c :: time) =>
      (c = 'T' || c = 't' || c = ' ') &&
        match afterTime? time with
        | some rest => isOffset rest
        | none => false
    | none => false

/-! ### Values -/

/-- The value of an unquoted text. -/
def scalar? (cs : List Char) : Option Value :=
  let text := String.ofList cs
  if text = "true" then some (.bool true)
  else if text = "false" then some (.bool false)
  else
    match integer? cs with
    | some n => if isKept n then some (.integer n) else none
    | none =>
      if isFloat cs then if isFloatKept cs then some (.float text) else none
      else if isDate cs then some (.date text)
      else none

end Polyquery.Toml
