import Polyquery.Number.BinaryFloat

/-!
# Decimal texts of integers

* `Integer.chars`, `Integer.text` - the decimal digits of an integer, with a minus sign if negative;
* `Integer.ofDigits64?` - a signed 64-bit integer from a sign and digits;
* `Integer.parse64?` - a signed 64-bit integer read from text;
* `Integer.parseNat32?` - an unsigned 32-bit integer read from text.
-/

namespace Polyquery.Integer

/-- The characters of an integer in decimal. -/
def chars (n : Int) : List Char :=
  if n < 0 then '-' :: Nat.toDigits 10 n.natAbs else Nat.toDigits 10 n.natAbs

/-- The decimal text of an integer. -/
def text (n : Int) : String := String.ofList (chars n)

/-- The decimal text of a 64-bit integer. -/
def text64 (n : Int64) : String := text n.toInt

/-- The decimal text of a natural number. -/
def natText (n : Nat) : String := String.ofList (Nat.toDigits 10 n)

/-- Whether an integer has a signed 64-bit representation. -/
def fits64 (n : Int) : Bool := decide (-Int.pow 2 63 ≤ n) && decide (n < Int.pow 2 63)

/-- The 64-bit integer equal to `n`, if there is one. -/
def to64? (n : Int) : Option Int64 := if fits64 n then some (Int64.ofInt n) else none

/-- The 64-bit integer with the given sign and decimal digits; no digits and values out of range
give nothing. -/
def ofDigits64? (negative : Bool) (digits : List Char) : Option Int64 :=
  if digits.isEmpty || !digits.all Text.isAsciiDigit then none
  else
    let n : Int := BinaryFloat.digitsValue digits
    to64? (if negative then -n else n)

/-- Read an optional sign and decimal digits as a 64-bit integer. -/
def parse64? (cs : List Char) : Option Int64 :=
  let (negative, digits) := BinaryFloat.splitSign cs
  ofDigits64? negative digits

/-- Read an optional plus sign and decimal digits as an unsigned 32-bit integer. -/
def parseNat32? (cs : List Char) : Option UInt32 :=
  let digits := match cs with
    | '+' :: rest => rest
    | _ => cs
  if digits.isEmpty || !digits.all Text.isAsciiDigit then none
  else
    let n := BinaryFloat.digitsValue digits
    if n < Nat.pow 2 32 then some (UInt32.ofNat n) else none

end Polyquery.Integer
