import Polyquery.Number.BinaryFloat

/-!
# The shortest decimal of a floating-point value

The fewest decimal digits that read back as the same value, and of those the nearest to it.

* `Shortest.readsBack` - whether a decimal lies among the reals that round to the value;
* `Shortest.Tie` - which of two equally near decimals is chosen;
* `Shortest.candidate?` - the better of the two neighbours of the value on one decimal grid;
* `Shortest.digits` - the decimal chosen: the coarsest grid that has a hit.
-/

namespace Polyquery.Shortest

/-- A positive decimal `significand * 10 ^ exponent`. -/
structure Digits where
  significand : Nat
  exponent : Int
deriving DecidableEq

/-- The decimal as a fraction. -/
def Digits.fraction (d : Digits) : Nat × Nat :=
  if 0 ≤ d.exponent then (d.significand * Nat.pow 10 d.exponent.toNat, 1)
  else (d.significand, Nat.pow 10 (-d.exponent).toNat)

/-- Whether the first fraction is below the second, or equal to it where `closed` holds. -/
def below (closed : Bool) (a b : Nat × Nat) : Bool :=
  if closed then decide (a.1 * b.2 ≤ b.1 * a.2) else decide (a.1 * b.2 < b.1 * a.2)

/-- The midpoint between `m * 2 ^ e` and the value below it. -/
def lowerEnd (F : FloatFormat) (m : Nat) (e : Int) : Nat × Nat :=
  if m = Nat.pow 2 (F.precision - 1) ∧ F.minExponent < e then
    BinaryFloat.dyadic (4 * m - 1) (e - 2)
  else BinaryFloat.dyadic (2 * m - 1) (e - 1)

/-- The midpoint between `m * 2 ^ e` and the value above it. -/
def upperEnd (m : Nat) (e : Int) : Nat × Nat := BinaryFloat.dyadic (2 * m + 1) (e - 1)

/-- Whether a decimal rounds to `m * 2 ^ e`; the ends of the interval belong to it when the
mantissa is even. -/
def readsBack (F : FloatFormat) (m : Nat) (e : Int) (d : Digits) : Bool :=
  let closed := m % 2 == 0
  below closed (lowerEnd F m e) d.fraction && below closed d.fraction (upperEnd m e)

/-- The neighbour of `v` below it on the grid of multiples of `10 ^ k`. -/
def gridBelow (v : Nat × Nat) (k : Int) : Nat :=
  if 0 ≤ k then v.1 / (v.2 * Nat.pow 10 k.toNat) else v.1 * Nat.pow 10 (-k).toNat / v.2

/-- Which of two equally near decimals is chosen. -/
inductive Tie where
  /-- The one with the even last digit. -/
  | even
  /-- The greater one. -/
  | up
deriving DecidableEq

/-- Whether `a * 10 ^ k` is chosen over `(a + 1) * 10 ^ k` for a value `v` between them. -/
def takesLower (tie : Tie) (v : Nat × Nat) (a : Nat) (k : Int) : Bool :=
  let middle := (Digits.mk (10 * a + 5) (k - 1)).fraction
  below (tie == .even && a % 2 == 0) v middle

/-- The neighbour of the value on the grid of multiples of `10 ^ k` that reads back, the nearer if
both do. -/
def candidate? (F : FloatFormat) (tie : Tie) (m : Nat) (e : Int) (k : Int) : Option Digits :=
  let v := BinaryFloat.dyadic m e
  let a := gridBelow v k
  let low := Digits.mk a k
  let high := Digits.mk (a + 1) k
  match readsBack F m e low && decide (0 < a), readsBack F m e high with
  | true, true => some (if takesLower tie v a k then low else high)
  | true, false => some low
  | false, true => some high
  | false, false => none

/-- The least `p` among a few candidates around the logarithm with `v < 10 ^ p`. -/
def pointPosition (v : Nat × Nat) : Int :=
  let guess := ((v.1.log2 : Int) - (v.2.log2 : Int) - 1) * 30103 / 100000 - 1
  let beyond (p : Int) : Bool := !below true ((Digits.mk 1 p).fraction) v
  if beyond guess then guess
  else if beyond (guess + 1) then guess + 1
  else if beyond (guess + 2) then guess + 2
  else guess + 3

/-- Try grids of more and more digits, `n` being the digits already tried. -/
def search (F : FloatFormat) (tie : Tie) (m : Nat) (e : Int) (p : Int) : Nat → Nat → Digits
  | 0, n => ⟨gridBelow (BinaryFloat.dyadic m e) (p - n), p - n⟩
  | fuel + 1, n =>
    match candidate? F tie m e (p - (n + 1)) with
    | some d => d
    | none => search F tie m e p fuel (n + 1)

/-- Move trailing zeros of the digits into the exponent. -/
def stripZeros : Nat → Digits → Digits
  | 0, d => d
  | fuel + 1, d =>
    if d.significand ≠ 0 ∧ d.significand % 10 = 0 then
      stripZeros fuel ⟨d.significand / 10, d.exponent + 1⟩
    else d

/-- The shortest decimal that reads back as the positive value `m * 2 ^ e`. -/
def digits (F : FloatFormat) (tie : Tie) (m : Nat) (e : Int) : Digits :=
  stripZeros 20 (search F tie m e (pointPosition (BinaryFloat.dyadic m e)) 17 0)

end Polyquery.Shortest
