import Polyquery.Text.Letter

/-!
# Globally unique identifiers

* `Guid` - thirty-two hexadecimal digits;
* `Guid.text` - lower case, in groups of 8, 4, 4, 4 and 12 joined by hyphens;
* `Guid.parse?` - the plain, hyphenated, braced and URN forms, in any letter case.
-/

namespace Polyquery

/-- A 128-bit identifier as its hexadecimal digits. -/
structure Guid where
  digits : List (Fin 16)
  length_eq : digits.length = 32
deriving DecidableEq

namespace Guid

/-- The character of a hexadecimal digit, in lower case. -/
def digitChar (d : Fin 16) : Char :=
  if d.val < 10 then Char.ofNat (48 + d.val) else Char.ofNat (87 + d.val)

/-- The value of a hexadecimal digit of either case. -/
def digitOf? (c : Char) : Option (Fin 16) :=
  if h : 48 ≤ c.toNat ∧ c.toNat ≤ 57 then some ⟨c.toNat - 48, by omega⟩
  else if h : 97 ≤ c.toNat ∧ c.toNat ≤ 102 then some ⟨c.toNat - 87, by omega⟩
  else if h : 65 ≤ c.toNat ∧ c.toNat ≤ 70 then some ⟨c.toNat - 55, by omega⟩
  else none

/-- Lengths of the hyphenated groups. -/
def groups : List Nat := [8, 4, 4, 4, 12]

/-- Join the digits into groups with hyphens between them. -/
def hyphenate : List Nat → List Char → List Char
  | [], _ => []
  | [_], cs => cs
  | n :: ns, cs => cs.take n ++ '-' :: hyphenate ns (cs.drop n)

/-- Remove the hyphens between groups of the given lengths; any other shape gives nothing. -/
def unhyphenate? : List Nat → List Char → Option (List Char)
  | [], cs => if cs.isEmpty then some [] else none
  | [n], cs => if cs.length = n then some cs else none
  | n :: ns, cs =>
    match cs.drop n with
    | '-' :: rest => (unhyphenate? ns rest).map (cs.take n ++ ·)
    | _ => none

/-- Thirty-two hexadecimal digits. -/
def ofDigits? (cs : List Char) : Option Guid := do
  let ds ← cs.mapM digitOf?
  if h : ds.length = 32 then some ⟨ds, h⟩ else none

/-- The hyphenated form. -/
def ofHyphenated? (cs : List Char) : Option Guid :=
  (unhyphenate? groups cs).bind ofDigits?

/-- The start of the URN form, in lower case. -/
def urnStart : List Char := "urn:uuid:".toList

/-- Read an identifier in any of its forms. -/
def parse? (s : String) : Option Guid :=
  let cs := s.toList
  if cs.length = 32 then ofDigits? cs
  else if cs.length = 36 then ofHyphenated? cs
  else if cs.length = 38 ∧ cs.head? = some '\x7b' ∧ cs.getLast? = some '\x7d' then
    ofHyphenated? (cs.drop 1).dropLast
  else if cs.length = 45 ∧ (cs.take 9).map Char.toLower = urnStart then ofHyphenated? (cs.drop 9)
  else none

/-- The characters of an identifier in hyphenated form. -/
def chars (g : Guid) : List Char := hyphenate groups (g.digits.map digitChar)

/-- The text of an identifier. -/
def text (g : Guid) : String := String.ofList g.chars

end Guid

end Polyquery
