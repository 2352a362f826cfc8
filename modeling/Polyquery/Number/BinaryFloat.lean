import Polyquery.Text.Letter

/-!
# Binary floating-point numbers

Floating-point values as exact dyadic rationals, with rounding to nearest and ties to the even
mantissa.  Every operation is computed on natural numbers and rounded once.

* `FloatFormat` - the width of the mantissa and the range of exponents;
* `BinaryFloat F` - not-a-number, an infinity, or `± mantissa * 2 ^ exponent`;
* `BinaryFloat.ofRatio` - the value nearest to a quotient of natural numbers;
* `BinaryFloat.ofDecimal` - the value nearest to `digits * 10 ^ exponent`;
* `BinaryFloat.parse?` - a decimal numeral, an infinity or not-a-number read from text;
* `neg`, `add`, `mul`, `div`, `powTen`, `roundToInteger`, `convert` - rounded arithmetic.
-/

namespace Polyquery

/-- A binary floating-point format: mantissas have at most `precision` bits, and the unit in the
last place is a power of two between `2 ^ minExponent` and `2 ^ maxExponent`. -/
structure FloatFormat where
  precision : Nat
  minExponent : Int
  maxExponent : Int
deriving DecidableEq

/-- Single precision: 24 bits. -/
def FloatFormat.single : FloatFormat := ⟨24, -149, 104⟩

/-- Double precision: 53 bits. -/
def FloatFormat.double : FloatFormat := ⟨53, -1074, 971⟩

/-- A floating-point value of a format. -/
inductive BinaryFloat (F : FloatFormat) where
  | nan
  | infinite (negative : Bool)
  | finite (negative : Bool) (mantissa : Nat) (exponent : Int)
deriving DecidableEq

/-- Single-precision values. -/
abbrev Single := BinaryFloat FloatFormat.single

/-- Double-precision values. -/
abbrev Double := BinaryFloat FloatFormat.double

namespace BinaryFloat

variable {F : FloatFormat}

/-- Zero with a sign. -/
def zero (negative : Bool) : BinaryFloat F := .finite negative 0 F.minExponent

instance : Inhabited (BinaryFloat F) := ⟨zero false⟩

/-- Whether the value is a number other than an infinity. -/
def isFinite : BinaryFloat F → Bool
  | .finite .. => true
  | _ => false

/-- The sign of a value; not-a-number counts as positive. -/
def isNegative : BinaryFloat F → Bool
  | .nan => false
  | .infinite s => s
  | .finite s _ _ => s

/-- Whether the value is a zero of either sign. -/
def isZero : BinaryFloat F → Bool
  | .finite _ 0 _ => true
  | _ => false

/-- A nonnegative rational `m * 2 ^ e` as a numerator and a positive denominator. -/
def dyadic (m : Nat) (e : Int) : Nat × Nat :=
  if 0 ≤ e then (m * Nat.pow 2 e.toNat, 1) else (m, Nat.pow 2 (-e).toNat)

/-- The magnitude of a finite value as a fraction. -/
def magnitude : BinaryFloat F → Nat × Nat
  | .finite _ m e => dyadic m e
  | _ => (0, 1)

/-- Numerical equality: the zeros agree, and not-a-number differs from everything. -/
def eq : BinaryFloat F → BinaryFloat F → Bool
  | .nan, _ => false
  | _, .nan => false
  | .infinite s, .infinite t => s == t
  | .infinite _, .finite .. => false
  | .finite .., .infinite _ => false
  | .finite s m e, .finite t n g =>
    let a := dyadic m e
    let b := dyadic n g
    a.1 * b.2 == b.1 * a.2 && (s == t || m == 0)

/-! ### Rounding -/

/-- The natural number nearest to `num / den`, a half going to the even neighbour. -/
def roundQuotient (num den : Nat) : Nat :=
  let q := num / den
  let r := num % den
  if 2 * r < den then q
  else if den < 2 * r then q + 1
  else if q % 2 = 0 then q else q + 1

/-- The quotient `num / den` in units of `2 ^ e`, rounded. -/
def roundAt (num den : Nat) (e : Int) : Nat :=
  if 0 ≤ e then roundQuotient num (den * Nat.pow 2 e.toNat)
  else roundQuotient (num * Nat.pow 2 (-e).toNat) den

/-- The exponent of the last place of the value nearest to a positive quotient: the largest that
keeps the whole precision, and never below the least exponent of the format. -/
def unitExponent (F : FloatFormat) (num den : Nat) : Int :=
  let guess : Int := (num.log2 : Int) - (den.log2 : Int) - (F.precision : Int)
  let fits :=
    if 0 ≤ guess then num / (den * Nat.pow 2 guess.toNat) < Nat.pow 2 F.precision
    else num * Nat.pow 2 (-guess).toNat / den < Nat.pow 2 F.precision
  max F.minExponent (if fits then guess else guess + 1)

/-- Assemble a rounded value; a mantissa that outgrew the precision moves to the next exponent, and
an exponent beyond the range gives an infinity. -/
def assemble (negative : Bool) (mantissa : Nat) (exponent : Int) : BinaryFloat F :=
  let m := if mantissa = Nat.pow 2 F.precision then mantissa / 2 else mantissa
  let e := if mantissa = Nat.pow 2 F.precision then exponent + 1 else exponent
  if F.maxExponent < e then .infinite negative else .finite negative m e

/-- The value nearest to `± num / den`. -/
def ofRatio (negative : Bool) (num den : Nat) : BinaryFloat F :=
  if num = 0 ∨ den = 0 then zero negative
  else
    let e := unitExponent F num den
    assemble negative (roundAt num den e) e

/-- The value nearest to a natural number. -/
def ofNat (n : Nat) : BinaryFloat F := ofRatio false n 1

/-- The value nearest to an integer. -/
def ofInt (n : Int) : BinaryFloat F := ofRatio (decide (n < 0)) n.natAbs 1

/-- The number of decimal digits of a natural number, zero having none. -/
def decimalLength (n : Nat) : Nat :=
  if n = 0 then 0 else (Nat.toDigits 10 n).length

/-- The value nearest to `± digits * 10 ^ exponent`.  Magnitudes that are certainly beyond the
range are decided without computing the power. -/
def ofDecimal (negative : Bool) (digits : Nat) (exponent : Int) : BinaryFloat F :=
  if digits = 0 then zero negative
  else
    let top := exponent + (decimalLength digits : Int)
    if F.maxExponent + F.precision + 1 < top then .infinite negative
    else if top < F.minExponent - 1 then zero negative
    else if 0 ≤ exponent then ofRatio negative (digits * Nat.pow 10 exponent.toNat) 1
    else ofRatio negative digits (Nat.pow 10 (-exponent).toNat)

/-! ### Arithmetic -/

/-- The value with the other sign. -/
def neg : BinaryFloat F → BinaryFloat F
  | .nan => .nan
  | .infinite s => .infinite (!s)
  | .finite s m e => .finite (!s) m e

/-- The product of two values, rounded. -/
def mul (a b : BinaryFloat F) : BinaryFloat F :=
  let s := a.isNegative != b.isNegative
  match a, b with
  | .nan, _ => .nan
  | _, .nan => .nan
  | .infinite _, _ => if b.isZero then .nan else .infinite s
  | _, .infinite _ => if a.isZero then .nan else .infinite s
  | .finite .., .finite .. =>
    let x := a.magnitude
    let y := b.magnitude
    ofRatio s (x.1 * y.1) (x.2 * y.2)

/-- The quotient of two values, rounded. -/
def div (a b : BinaryFloat F) : BinaryFloat F :=
  let s := a.isNegative != b.isNegative
  match a, b with
  | .nan, _ => .nan
  | _, .nan => .nan
  | .infinite _, .infinite _ => .nan
  | .infinite _, .finite .. => .infinite s
  | .finite .., .infinite _ => zero s
  | .finite .., .finite .. =>
    if b.isZero then (if a.isZero then .nan else .infinite s)
    else
      let x := a.magnitude
      let y := b.magnitude
      ofRatio s (x.1 * y.2) (x.2 * y.1)

/-- The sum of two values, rounded. -/
def add (a b : BinaryFloat F) : BinaryFloat F :=
  match a, b with
  | .nan, _ => .nan
  | _, .nan => .nan
  | .infinite s, .infinite t => if s == t then .infinite s else .nan
  | .infinite s, .finite .. => .infinite s
  | .finite .., .infinite t => .infinite t
  | .finite s _ _, .finite t _ _ =>
    let x := a.magnitude
    let y := b.magnitude
    let left : Int := (x.1 * y.2 : Nat)
    let right : Int := (y.1 * x.2 : Nat)
    let total := (if s then -left else left) + (if t then -right else right)
    if total = 0 then zero (s && t) else ofRatio (decide (total < 0)) total.natAbs (x.2 * y.2)

/-- The nearest integer, a half going away from zero. -/
def roundToInteger : BinaryFloat F → BinaryFloat F
  | .finite s m e =>
    let x := dyadic m e
    ofRatio s ((2 * x.1 + x.2) / (2 * x.2)) 1
  | other => other

/-- Square-and-multiply over the binary digits of an exponent, rounding every product. -/
def powLoop : Nat → BinaryFloat F → BinaryFloat F → Nat → BinaryFloat F
  | 0, acc, _, _ => acc
  | fuel + 1, acc, base, n =>
    let acc := if n % 2 = 1 then acc.mul base else acc
    if n / 2 = 0 then acc else powLoop fuel acc (base.mul base) (n / 2)

/-- A power of ten by repeated squaring. -/
def powTen (n : Nat) : BinaryFloat F := powLoop (n.log2 + 1) (ofNat 1) (ofNat 10) n

/-- The nearest value of another format. -/
def convert {G : FloatFormat} : BinaryFloat F → BinaryFloat G
  | .nan => .nan
  | .infinite s => .infinite s
  | .finite s m e =>
    let x := dyadic m e
    ofRatio s x.1 x.2

/-! ### Reading numerals -/

/-- The value of a list of decimal digits. -/
def digitsValue (cs : List Char) : Nat :=
  cs.foldl (fun n c => 10 * n + (c.toNat - 48)) 0

/-- An optional sign and the characters after it. -/
def splitSign : List Char → Bool × List Char
  | '-' :: rest => (true, rest)
  | '+' :: rest => (false, rest)
  | cs => (false, cs)

/-- The exponent part of a numeral: nothing, or `e` with an optional sign and digits. -/
def exponentValue? : List Char → Option Int
  | [] => some 0
  | c :: rest =>
    if c = 'e' ∨ c = 'E' then
      let (negative, digits) := splitSign rest
      if digits.isEmpty || !digits.all Text.isAsciiDigit then none
      else some (if negative then -(digitsValue digits : Int) else (digitsValue digits : Int))
    else none

/-- An unsigned decimal numeral: digits, an optional fraction and an optional exponent, with at
least one digit before the exponent. -/
def parseUnsigned? (negative : Bool) (cs : List Char) : Option (BinaryFloat F) :=
  let whole := cs.takeWhile Text.isAsciiDigit
  let rest := cs.dropWhile Text.isAsciiDigit
  let afterPoint := match rest with
    | '.' :: tail => tail
    | _ => []
  let fraction := afterPoint.takeWhile Text.isAsciiDigit
  let tail := match rest with
    | '.' :: _ => afterPoint.dropWhile Text.isAsciiDigit
    | _ => rest
  if whole.isEmpty && fraction.isEmpty then none
  else
    (exponentValue? tail).map fun e =>
      ofDecimal negative (digitsValue (whole ++ fraction)) (e - (fraction.length : Int))

/-- Read a value: a signed decimal numeral, or an infinity or not-a-number in any letter case. -/
def parse? (text : List Char) : Option (BinaryFloat F) :=
  let (negative, cs) := splitSign text
  let word := cs.map fun c => if 65 ≤ c.toNat ∧ c.toNat ≤ 90 then Char.ofNat (c.toNat + 32) else c
  if word = "inf".toList ∨ word = "infinity".toList then some (.infinite negative)
  else if word = "nan".toList then some .nan
  else parseUnsigned? negative cs

end BinaryFloat

end Polyquery
