import Polyquery.Number.Integer

/-!
# Scaled decimals

Decimal numbers with a 96-bit coefficient and at most 28 fraction digits.  The scale is part of the
value as written: `1.50` keeps its zero.

* `Decimal` - sign, coefficient and scale;
* `Decimal.parsePlain?` - plain notation, rounded where the fraction has too many digits;
* `Decimal.parse?` - plain notation or notation with an exponent;
* `Decimal.text` - the digits with the scale kept;
* `Decimal.toDouble` - the nearby double.
-/

namespace Polyquery

/-- The number `± coefficient / 10 ^ scale`. -/
structure Decimal where
  negative : Bool
  coefficient : Nat
  scale : Nat
deriving DecidableEq

namespace Decimal

/-- The largest number of fraction digits. -/
def maxScale : Nat := 28

/-- Coefficients are below this bound. -/
def coefficientBound : Nat := Nat.pow 2 96

/-- A zero loses its sign. -/
def signed (negative : Bool) (coefficient scale : Nat) : Decimal :=
  ⟨negative && coefficient != 0, coefficient, scale⟩

/-- Numerical equality: the scale does not matter, and neither does the sign of zero. -/
def eq (a b : Decimal) : Bool :=
  a.coefficient * Nat.pow 10 b.scale == b.coefficient * Nat.pow 10 a.scale &&
    (a.negative == b.negative || a.coefficient == 0)

/-- The number with the other sign; zero keeps a sign too. -/
def neg (d : Decimal) : Decimal := { d with negative := !d.negative }

/-- Round the digits read so far by the character that no longer fits; a mark that is no digit
counts as zero. -/
def roundBy (coefficient scale : Nat) (c : Char) : Option (Nat × Nat) :=
  let digit? : Option Nat :=
    if Text.isAsciiDigit c then some (c.toNat - 48)
    else if c = '_' ∨ c = '.' then some 0
    else none
  digit?.bind fun digit =>
    if digit < 5 then some (coefficient, scale)
    else if coefficient + 1 < coefficientBound then some (coefficient + 1, scale)
    else if scale = 0 then none
    else some ((coefficient + 5) / 10, scale - 1)

/-- A coefficient from here on is wide. -/
def wideBound : Nat := (Nat.pow 2 64 - 1) / 10 - 255

/-- Read on with a wide coefficient.  `point` tells whether the point has been read, and `full`
whether the last digit was the last one that the scale admits: the next character rounds, but an
underscore lets one more digit in. -/
def readWide (point full : Bool) (coefficient scale : Nat) : List Char → Option (Nat × Nat)
  | [] => some (coefficient, scale)
  | c :: rest =>
    if full && c != '_' then roundBy coefficient scale c
    else if Text.isAsciiDigit c then
      let next := 10 * coefficient + (c.toNat - 48)
      if next < coefficientBound then
        let places := if point then scale + 1 else 0
        readWide point (point && decide (maxScale ≤ places)) next places rest
      else if point then roundBy coefficient scale c
      else none
    else if c = '.' && !point then readWide true false coefficient scale rest
    else if c = '_' then readWide point false coefficient scale rest
    else none

/-- Read digits into a coefficient and a scale.  `seen` tells whether a digit has been read; the
other flags are as above. -/
def readDigits (point seen full : Bool) (coefficient scale : Nat) :
    List Char → Option (Nat × Nat)
  | [] => if seen then some (coefficient, scale) else none
  | c :: rest =>
    if full then roundBy coefficient scale c
    else if Text.isAsciiDigit c then
      let next := 10 * coefficient + (c.toNat - 48)
      let places := if point then scale + 1 else 0
      let full := point && decide (maxScale ≤ places)
      if !full && decide (wideBound ≤ next) then readWide point false next places rest
      else readDigits point true full next places rest
    else if c = '.' && !point then readDigits true seen false coefficient scale rest
    else if c = '_' && seen then readDigits point seen false coefficient scale rest
    else none

/-- Read a decimal in plain notation.  A digit let in beyond the largest scale wraps the scale. -/
def parsePlain? (cs : List Char) : Option Decimal :=
  let (negative, digits) := BinaryFloat.splitSign cs
  (readDigits false false false 0 0 digits).map fun r =>
    signed negative r.1 (r.2 % (maxScale + 1))

/-- Read an unsigned 32-bit exponent, a plus sign allowed. -/
def exponent? (cs : List Char) : Option Nat :=
  let digits := match cs with
    | '+' :: rest => rest
    | _ => cs
  if digits.isEmpty || !digits.all Text.isAsciiDigit then none
  else
    let n := BinaryFloat.digitsValue digits
    if n < Nat.pow 2 32 then some n else none

/-- Shift the scale up, if it stays in range. -/
def scaled? (d : Decimal) (scale : Nat) : Option Decimal :=
  if scale ≤ maxScale then some { d with scale := scale } else none

/-- Apply an exponent: the scale moves, and what is left of a positive exponent multiplies. -/
def shifted? (d : Decimal) : List Char → Option Decimal
  | '-' :: digits => (exponent? digits).bind fun e => d.scaled? (d.scale + e)
  | digits =>
    (exponent? digits).bind fun e =>
      if e ≤ d.scale then d.scaled? (d.scale - e)
      else if maxScale < e then none
      else
        let whole := d.coefficient * Nat.pow 10 (e - d.scale)
        if whole < coefficientBound then some (signed d.negative whole 0) else none

/-- Whether a character starts an exponent. -/
def isExponentMark (c : Char) : Bool := c = 'e' || c = 'E'

/-- Read a decimal, with or without an exponent. -/
def parse? (cs : List Char) : Option Decimal :=
  match cs.dropWhile (!isExponentMark ·) with
  | [] => parsePlain? cs
  | _ :: exponent =>
    (parsePlain? (cs.takeWhile (!isExponentMark ·))).bind fun d => d.shifted? exponent

/-- The digits of the coefficient, padded so that one stands before the point. -/
def paddedDigits (d : Decimal) : List Char :=
  let ds := Nat.toDigits 10 d.coefficient
  List.replicate (d.scale + 1 - ds.length) '0' ++ ds

/-- The text of a decimal with its scale kept. -/
def text (d : Decimal) : String :=
  let ds := d.paddedDigits
  let whole := ds.take (ds.length - d.scale)
  let fraction := ds.drop (ds.length - d.scale)
  let body := if d.scale = 0 then whole else whole ++ '.' :: fraction
  String.ofList (if d.negative then '-' :: body else body)

/-- A double near the decimal: whole and fractional part are converted apart, added, and the sum is
rounded at the scale. -/
def toDouble (d : Decimal) : Double :=
  if d.scale = 0 then
    BinaryFloat.ofInt (if d.negative then -(d.coefficient : Int) else (d.coefficient : Int))
  else
    let unit := Nat.pow 10 d.scale
    let whole : Double := BinaryFloat.ofNat (d.coefficient / unit)
    let fraction := (BinaryFloat.ofNat (d.coefficient % unit) : Double).div (BinaryFloat.ofNat unit)
    let value :=
      if fraction.isZero then whole
      else
        let shift : Double := BinaryFloat.powTen d.scale
        (((whole.add fraction).mul shift).roundToInteger).div shift
    if d.negative then value.neg else value

end Decimal

end Polyquery
