import Polyquery.Text.Delimited
import Polyquery.Text.Letter
import Polyquery.Text.Utf8

/-!
# Form-encoded pairs

Keys and values joined by `=`, pairs by `&`, as query strings hold them.

* `formPart` - a key or value: letters, digits and `*-._` stand for themselves, a space is a plus,
  any other byte is a percent sign with two upper-case digits;
* `formText` - the text of pairs;
* `formPairs` - the pairs of any text: percent signs without two digits stand for themselves, and
  empty pairs are left out.
-/

namespace Polyquery.Text

/-- A hexadecimal digit in upper case. -/
def upperHexDigit (n : Nat) : Char := Char.ofNat (if n < 10 then 48 + n else 55 + n)

/-- The value of a hexadecimal digit given by its code. -/
def hexValue? (n : Nat) : Option Nat :=
  if 48 ≤ n ∧ n ≤ 57 then some (n - 48)
  else if 65 ≤ n ∧ n ≤ 70 then some (n - 55)
  else if 97 ≤ n ∧ n ≤ 102 then some (n - 87)
  else none

/-- Characters that stand for themselves. -/
def isFormPlain (c : Char) : Bool := isAsciiLetter c || isAsciiDigit c || c ∈ ['*', '-', '.', '_']

/-- The percent form of a byte. -/
def percentByte (b : UInt8) : List Char :=
  ['%', upperHexDigit (b.toNat / 16), upperHexDigit (b.toNat % 16)]

/-- The form of a character. -/
def formChar (c : Char) : List Char :=
  if isFormPlain c then [c]
  else if c = ' ' then ['+']
  else (String.utf8EncodeChar c).flatMap percentByte

/-- The form of a key or value. -/
def formPart (s : String) : String := String.ofList (s.toList.flatMap formChar)

/-- The text of pairs. -/
def formText (pairs : List (String × String)) : String :=
  "&".intercalate (pairs.map fun p => formPart p.1 ++ "=" ++ formPart p.2)

/-- Bytes with their percent forms resolved and pluses as spaces. -/
def formBytes : List UInt8 → List UInt8
  | 37 :: a :: b :: rest =>
    match hexValue? a.toNat, hexValue? b.toNat with
    | some high, some low => UInt8.ofNat (16 * high + low) :: formBytes rest
    | _, _ => 37 :: formBytes (a :: b :: rest)
  | b :: rest => (if b = 43 then 32 else b) :: formBytes rest
  | [] => []

/-- The key or value of a form. -/
def ofFormPart (cs : List Char) : String := String.ofList (utf8Text (formBytes (utf8Bytes cs)))

/-- The pair of a form; the value is empty if there is no `=`. -/
def ofFormPair (cs : List Char) : String × String :=
  (ofFormPart (cs.takeWhile (· ≠ '=')), ofFormPart ((cs.dropWhile (· ≠ '=')).drop 1))

/-- The pairs of a text. -/
def formPairs (text : String) : List (String × String) :=
  ((splitOn '&' text.toList).filter fun part => !part.isEmpty).map ofFormPair

end Polyquery.Text
