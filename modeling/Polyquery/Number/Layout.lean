import Polyquery.Number.Shortest

/-!
# Number texts

How the digits of a floating-point value are laid out.  One function, `NumberLayout.render`, writes
every text; the layouts are values.

* `NumberLayout.literal` - doubles in query texts;
* `NumberLayout.document` - numbers in JSON documents;
* `NumberLayout.positional` - singles, always without an exponent;
* `NumberLayout.inspected` - numbers inside messages.
-/

namespace Polyquery

/-- The decisions of a number text.  With the value written as `0.d₁d₂… * 10 ^ p`, positional
notation is used for `p` above `above` and up to `upTo`; `none` sets no bound. -/
structure NumberLayout where
  above : Option Int
  upTo : Option Int
  /-- A whole number keeps `.0`. -/
  wholePoint : Bool
  /-- A positive exponent has a plus sign. -/
  plusSign : Bool
  /-- Which of two equally near texts is written. -/
  tie : Shortest.Tie

namespace NumberLayout

/-- Doubles in query texts: positional from `0.00001` up to below `10 ^ 16`. -/
def literal : NumberLayout := ⟨some (-5), some 16, true, false, .even⟩

/-- Numbers in JSON documents: as in query texts, with a signed exponent. -/
def document : NumberLayout := ⟨some (-5), some 16, true, true, .even⟩

/-- Singles: every digit is written out and whole numbers have no point. -/
def positional : NumberLayout := ⟨none, none, false, false, .up⟩

/-- Numbers inside messages: positional from `0.0001` up to below `10 ^ 16`. -/
def inspected : NumberLayout := ⟨some (-4), some 16, true, false, .up⟩

/-- Whether a point position is written positionally. -/
def isPositional (l : NumberLayout) (p : Int) : Bool :=
  (l.above.all fun lo => decide (lo < p)) && (l.upTo.all fun hi => decide (p ≤ hi))

/-- The digits `ds` with the point after `p` of them, padded with zeros on either side. -/
def positionalText (l : NumberLayout) (ds : List Char) (p : Int) : List Char :=
  if p ≤ 0 then '0' :: '.' :: (List.replicate (-p).toNat '0' ++ ds)
  else if (ds.length : Int) ≤ p then
    ds ++ List.replicate (p.toNat - ds.length) '0' ++ (if l.wholePoint then ['.', '0'] else [])
  else ds.take p.toNat ++ '.' :: ds.drop p.toNat

/-- The digits with a point after the first and the exponent of the first digit. -/
def exponentText (l : NumberLayout) (ds : List Char) (p : Int) : List Char :=
  let mantissa := match ds with
    | [] => []
    | [d] => [d]
    | d :: rest => d :: '.' :: rest
  let e := p - 1
  let sign := if e < 0 then ['-'] else if l.plusSign then ['+'] else []
  mantissa ++ 'e' :: (sign ++ Nat.toDigits 10 e.natAbs)

/-- The text of a positive value from its shortest digits. -/
def magnitudeText (l : NumberLayout) (d : Shortest.Digits) : List Char :=
  let ds := Nat.toDigits 10 d.significand
  let p := d.exponent + (ds.length : Int)
  if l.isPositional p then l.positionalText ds p else l.exponentText ds p

/-- The text of a floating-point value. -/
def render (l : NumberLayout) {F : FloatFormat} : BinaryFloat F → String
  | .nan => "NaN"
  | .infinite false => "inf"
  | .infinite true => "-inf"
  | .finite s m e =>
    let body :=
      if m = 0 then (if l.wholePoint then ['0', '.', '0'] else ['0'])
      else l.magnitudeText (Shortest.digits F l.tie m e)
    String.ofList (if s then '-' :: body else body)

end NumberLayout

end Polyquery
