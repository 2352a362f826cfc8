import Polyquery.Json
import Polyquery.Number.Integer

/-!
# Reading JSON text

* `Json.parse?` - one document with nothing but blanks around it;
* `Json.number?` - a number: an integer of at most 64 bits, or a floating-point number;
* `Json.scaleByTen?` - a significand scaled by a power of ten, rounding once for the significand
  and once for every factor.

A repeated key keeps its first place and its last value.
-/

namespace Polyquery.Json

/-- Blanks between the tokens of a document. -/
def isSpace (c : Char) : Bool := c = ' ' || c = '\n' || c = '\r' || c = '\t'

/-- The characters after leading blanks. -/
def skipSpaces (cs : List Char) : List Char := cs.dropWhile isSpace

/-! ### Numbers -/

/-- Divide by large powers of ten until the exponent is in the range of one factor. -/
def shrink : Nat → Double → Nat → Double × Nat
  | 0, f, e => (f, e)
  | fuel + 1, f, e =>
    if 308 < e then shrink fuel (f.div (BinaryFloat.ofDecimal false 1 308)) (e - 308) else (f, e)

/-- The double near `significand * 10 ^ exponent`; a value beyond the range gives nothing. -/
def scaleByTen? (negative : Bool) (significand : Nat) (exponent : Int) : Option Double :=
  let f : Double := BinaryFloat.ofNat significand
  let magnitude? : Option Double :=
    if f.isZero then some f
    else if 308 < exponent then none
    else if 0 ≤ exponent then
      let r := f.mul (BinaryFloat.ofDecimal false 1 exponent)
      if r.isFinite then some r else none
    else if exponent < -1000 then some (BinaryFloat.zero false)
    else
      let (g, e) := shrink 4 f exponent.natAbs
      some (g.div (BinaryFloat.ofDecimal false 1 e))
  magnitude?.map fun r => if negative then r.neg else r

/-- Append digits to a significand of at most 64 bits; gives the significand, the number of digits
taken, and the digits left over. -/
def significandOf (significand taken : Nat) : List Char → Nat × Nat × List Char
  | [] => (significand, taken, [])
  | c :: rest =>
    let next := 10 * significand + (c.toNat - 48)
    if next < Nat.pow 2 64 then significandOf next (taken + 1) rest
    else (significand, taken, c :: rest)

/-- The value of a number from its whole digits, fraction digits and exponent. -/
def numberValue? (negative : Bool) (whole fraction : List Char) (exponent : Option Int) :
    Option Json :=
  let (significand, _, extra) := significandOf 0 0 whole
  if extra.isEmpty && fraction.isEmpty && exponent.isNone then
    if !negative then some (.int significand)
    else if significand = 0 ∨ Nat.pow 2 63 < significand then
      some (.float ((BinaryFloat.ofNat significand : Double).neg))
    else some (.int (-(significand : Int)))
  else
    let (full, taken, _) := significandOf significand 0 fraction
    (scaleByTen? negative full
      ((extra.length : Int) - (taken : Int) + exponent.getD 0)).map Json.float

/-- Read a number; gives the value and the rest. -/
def number? (cs : List Char) : Option (Json × List Char) := do
  let (negative, cs) := match cs with
    | '-' :: rest => (true, rest)
    | _ => (false, cs)
  let whole := cs.takeWhile Text.isAsciiDigit
  let rest := cs.dropWhile Text.isAsciiDigit
  if whole.isEmpty || (whole.length != 1 && whole.head? == some '0') then none
  else
    let (fraction, rest) ← match rest with
      | '.' :: tail =>
        let digits := tail.takeWhile Text.isAsciiDigit
        if digits.isEmpty then none else some (digits, tail.dropWhile Text.isAsciiDigit)
      | _ => some ([], rest)
    let (exponent, rest) ← match rest with
      | c :: tail =>
        if c = 'e' ∨ c = 'E' then
          let (minus, digits) := BinaryFloat.splitSign tail
          let ds := digits.takeWhile Text.isAsciiDigit
          if ds.isEmpty then none
          else
            let n : Int := BinaryFloat.digitsValue ds
            some (some (if minus then -n else n), digits.dropWhile Text.isAsciiDigit)
        else some (none, rest)
      | [] => some (none, rest)
    let value ← numberValue? negative whole fraction exponent
    some (value, rest)

/-! ### Strings -/

/-- The value of four hexadecimal digits. -/
def hex4? (cs : List Char) : Option (Nat × List Char) :=
  let digit? (c : Char) : Option Nat :=
    if 48 ≤ c.toNat ∧ c.toNat ≤ 57 then some (c.toNat - 48)
    else if 97 ≤ c.toNat ∧ c.toNat ≤ 102 then some (c.toNat - 87)
    else if 65 ≤ c.toNat ∧ c.toNat ≤ 70 then some (c.toNat - 55)
    else none
  match cs with
  | a :: b :: c :: d :: rest => do
    let a ← digit? a
    let b ← digit? b
    let c ← digit? c
    let d ← digit? d
    some (((a * 16 + b) * 16 + c) * 16 + d, rest)
  | _ => none

/-- The character of an escape after its backslash. -/
def escape? : List Char → Option (Char × List Char)
  | '"' :: rest => some ('"', rest)
  | '\\' :: rest => some ('\\', rest)
  | '/' :: rest => some ('/', rest)
  | 'b' :: rest => some (Char.ofNat 8, rest)
  | 'f' :: rest => some (Char.ofNat 12, rest)
  | 'n' :: rest => some ('\n', rest)
  | 'r' :: rest => some ('\r', rest)
  | 't' :: rest => some ('\t', rest)
  | 'u' :: rest => do
    let (high, rest) ← hex4? rest
    if 0xD800 ≤ high ∧ high < 0xDC00 then
      match rest with
      | '\\' :: 'u' :: tail =>
        let (low, tail) ← hex4? tail
        if 0xDC00 ≤ low ∧ low < 0xE000 then
          some (Char.ofNat (0x10000 + (high - 0xD800) * 0x400 + (low - 0xDC00)), tail)
        else none
      | _ => none
    else if 0xDC00 ≤ high ∧ high < 0xE000 then none
    else some (Char.ofNat high, rest)
  | _ => none

/-- Read the rest of a string after its opening quote, latest characters first. -/
def stringFrom : Nat → List Char → List Char → Option (String × List Char)
  | 0, _, _ => none
  | _, _, [] => none
  | fuel + 1, acc, c :: rest =>
    if c = '"' then some (String.ofList acc.reverse, rest)
    else if c = '\\' then
      match escape? rest with
      | some (d, tail) => stringFrom fuel (d :: acc) tail
      | none => none
    else if c.toNat < 32 then none
    else stringFrom fuel (c :: acc) rest

/-! ### Values -/

/-- The rest after a fixed word. -/
def word? (word : String) (cs : List Char) : Option (List Char) :=
  if word.toList.isPrefixOf cs then some (cs.drop word.length) else none

mutual

/-- Read one value. -/
def value? : Nat → List Char → Option (Json × List Char)
  | 0, _ => none
  | fuel + 1, cs =>
    match skipSpaces cs with
    | '"' :: rest => (stringFrom (rest.length + 1) [] rest).map fun r => (.string r.1, r.2)
    | '[' :: rest =>
      match skipSpaces rest with
      | ']' :: tail => some (.array [], tail)
      | _ => (items? fuel rest).map fun r => (.array r.1, r.2)
    | '\x7b' :: rest =>
      match skipSpaces rest with
      | '\x7d' :: tail => some (.object [], tail)
      | _ => (fields? fuel [] rest).map fun r => (.object r.1, r.2)
    | 't' :: rest => (word? "rue" rest).map fun r => (.bool true, r)
    | 'f' :: rest => (word? "alse" rest).map fun r => (.bool false, r)
    | 'n' :: rest => (word? "ull" rest).map fun r => (.null, r)
    | cs => number? cs

/-- Read array items up to the closing bracket. -/
def items? : Nat → List Char → Option (List Json × List Char)
  | 0, _ => none
  | fuel + 1, cs => do
    let (item, rest) ← value? fuel cs
    match skipSpaces rest with
    | ',' :: tail =>
      let (items, tail) ← items? fuel tail
      some (item :: items, tail)
    | ']' :: tail => some ([item], tail)
    | _ => none

/-- Read object entries up to the closing brace into `acc`. -/
def fields? : Nat → List (String × Json) → List Char →
    Option (List (String × Json) × List Char)
  | 0, _, _ => none
  | fuel + 1, acc, cs =>
    match skipSpaces cs with
    | '"' :: rest => do
      let (key, rest) ← stringFrom (rest.length + 1) [] rest
      match skipSpaces rest with
      | ':' :: rest =>
        let (value, rest) ← value? fuel rest
        let acc := insert key value acc
        match skipSpaces rest with
        | ',' :: tail => fields? fuel acc tail
        | '\x7d' :: tail => some (acc, tail)
        | _ => none
      | _ => none
    | _ => none

end

/-- Read a whole document. -/
def parse? (s : String) : Option Json := do
  let cs := s.toList
  let (value, rest) ← value? (cs.length + 1) cs
  if (skipSpaces rest).isEmpty then some value else none

end Polyquery.Json
