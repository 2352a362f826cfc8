import Polyquery.Expr

/-!
# Texts of integers and identifiers read back

* `Integer.toDigits_eq_cons`, `Integer.splitSign_toDigits` - the digits of a number;
* `Integer.parse64?_chars` - a 64-bit integer reads back from its decimal characters;
* `Guid.parse?_text` - an identifier reads back from its hyphenated text.
-/

namespace Polyquery

/-! ### Integers -/

namespace Integer

theorem isAsciiDigit_eq_isDigit (c : Char) : Text.isAsciiDigit c = c.isDigit := by
  rw [Bool.eq_iff_iff]
  simp only [Text.isAsciiDigit, Char.isDigit, Bool.and_eq_true, decide_eq_true_eq, ge_iff_le,
    UInt32.le_iff_toNat_le]
  rfl

theorem isAsciiDigit_of_mem_toDigits {n : Nat} {c : Char} (h : c ∈ Nat.toDigits 10 n) :
    Text.isAsciiDigit c = true := by
  rw [isAsciiDigit_eq_isDigit]
  exact Nat.isDigit_of_mem_toDigits (by decide) (by decide) h

theorem all_isAsciiDigit_toDigits (n : Nat) :
    (Nat.toDigits 10 n).all Text.isAsciiDigit = true := by
  rw [List.all_eq_true]
  intro c hc
  exact isAsciiDigit_of_mem_toDigits hc

theorem digitsValue_toDigits (n : Nat) : BinaryFloat.digitsValue (Nat.toDigits 10 n) = n := by
  have h := Nat.ofDigitChars_ten_toDigits (n := n)
  rw [Nat.ofDigitChars_eq_foldl] at h
  exact h

/-- Digits start with a digit, so nothing in front of them is taken for a sign. -/
theorem toDigits_eq_cons (n : Nat) :
    ∃ d ds, Nat.toDigits 10 n = d :: ds ∧ Text.isAsciiDigit d = true := by
  cases h : Nat.toDigits 10 n with
  | nil => exact absurd h Nat.toDigits_ne_nil
  | cons d ds =>
    refine ⟨d, ds, rfl, isAsciiDigit_of_mem_toDigits (n := n) ?_⟩
    rw [h]
    exact List.mem_cons_self

theorem splitSign_toDigits (n : Nat) :
    BinaryFloat.splitSign (Nat.toDigits 10 n) = (false, Nat.toDigits 10 n) := by
  obtain ⟨d, ds, h, hd⟩ := toDigits_eq_cons n
  rw [h]
  unfold BinaryFloat.splitSign
  split
  · rename_i heq
    obtain ⟨rfl, -⟩ := List.cons.inj heq
    exact absurd hd (by decide)
  · rename_i heq
    obtain ⟨rfl, -⟩ := List.cons.inj heq
    exact absurd hd (by decide)
  · rfl

theorem ofDigits64?_toDigits (negative : Bool) (n : Nat) :
    ofDigits64? negative (Nat.toDigits 10 n) = to64? (if negative then -(n : Int) else n) := by
  have hne : (Nat.toDigits 10 n).isEmpty = false := by
    rw [List.isEmpty_eq_false_iff]
    exact Nat.toDigits_ne_nil
  simp [ofDigits64?, hne, all_isAsciiDigit_toDigits, digitsValue_toDigits]

theorem to64?_toInt (n : Int64) : to64? n.toInt = some n := by
  have hlow := Int64.le_toInt n
  have hhigh := Int64.toInt_lt n
  have hfits : fits64 n.toInt = true := by
    simp only [fits64, Bool.and_eq_true, decide_eq_true_eq]
    exact ⟨hlow, hhigh⟩
  simp only [to64?, hfits, if_true, Int64.ofInt_toInt]

/-- Plain digits are read as the number they write. -/
theorem parse64?_toDigits (n : Nat) : parse64? (Nat.toDigits 10 n) = to64? n := by
  rw [parse64?, splitSign_toDigits]
  show ofDigits64? false (Nat.toDigits 10 n) = _
  rw [ofDigits64?_toDigits]
  rfl

/-- A natural number is written as the 64-bit integer that it is. -/
theorem text64_ofNat {n : Nat} (h : n < Nat.pow 2 63) : text64 (Int64.ofNat n) = natText n := by
  rw [text64, Int64.toInt_ofNat_of_lt h, text, natText, chars, if_neg (by omega),
    Int.natAbs_natCast]

/-- An unsigned 32-bit integer reads back from its decimal digits. -/
theorem parseNat32?_toDigits (n : UInt32) : parseNat32? (Nat.toDigits 10 n.toNat) = some n := by
  obtain ⟨d, ds, h, hd⟩ := toDigits_eq_cons n.toNat
  have hall := all_isAsciiDigit_toDigits n.toNat
  have hvalue := digitsValue_toDigits n.toNat
  have hlt : n.toNat < Nat.pow 2 32 := n.toNat_lt
  rw [h] at hall hvalue
  rw [h]
  have hplus : d ≠ '+' := by
    rintro rfl
    exact absurd hd (by decide)
  unfold parseNat32?
  split
  · rename_i heq
    exact absurd (List.cons.inj heq).1 hplus
  · simp only [List.isEmpty_cons, hall, hvalue, Bool.not_true, Bool.or_self, if_pos hlt,
      UInt32.ofNat_toNat]
    rfl

/-- A 64-bit integer reads back from its decimal characters. -/
theorem parse64?_chars (n : Int64) : parse64? (chars n.toInt) = some n := by
  unfold chars parse64?
  by_cases hneg : n.toInt < 0
  · rw [if_pos hneg]
    show ofDigits64? true (Nat.toDigits 10 n.toInt.natAbs) = some n
    rw [ofDigits64?_toDigits, ← to64?_toInt n]
    congr 1
    simp only [if_true]
    omega
  · rw [if_neg hneg]
    show parse64? (Nat.toDigits 10 n.toInt.natAbs) = some n
    rw [parse64?_toDigits, ← to64?_toInt n]
    congr 1
    omega

end Integer

/-! ### Identifiers -/

namespace Guid

theorem digitOf?_digitChar (d : Fin 16) : digitOf? (digitChar d) = some d := by
  revert d
  decide

theorem mapM_digitOf?_map (ds : List (Fin 16)) : (ds.map digitChar).mapM digitOf? = some ds := by
  induction ds with
  | nil => rfl
  | cons d ds ih =>
    rw [List.map_cons, List.mapM_cons, digitOf?_digitChar, ih]
    rfl

theorem ofDigits?_map (g : Guid) : ofDigits? (g.digits.map digitChar) = some g := by
  simp only [ofDigits?, mapM_digitOf?_map, Option.bind_eq_bind, Option.bind_some, g.length_eq,
    dite_true]

/-- Hyphens between groups are found again where the groups have the length of the text. -/
theorem unhyphenate?_hyphenate (ns : List Nat) (cs : List Char) (hne : ns ≠ [])
    (h : cs.length = ns.foldr (· + ·) 0) : unhyphenate? ns (hyphenate ns cs) = some cs := by
  induction ns generalizing cs with
  | nil => exact absurd rfl hne
  | cons n ns ih =>
    cases ns with
    | nil =>
      have hn : cs.length = n := by simpa using h
      simp [hyphenate, unhyphenate?, hn]
    | cons m ns =>
      have hlen : (cs.take n).length = n := by
        rw [List.length_take]
        simp only [List.foldr_cons] at h
        omega
      have hrest : (cs.drop n).length = (m :: ns).foldr (· + ·) 0 := by
        rw [List.length_drop, h]
        simp only [List.foldr_cons]
        omega
      have hdrop : (cs.take n ++ '-' :: hyphenate (m :: ns) (cs.drop n)).drop n
          = '-' :: hyphenate (m :: ns) (cs.drop n) := by
        rw [List.drop_left' hlen]
      have htake : (cs.take n ++ '-' :: hyphenate (m :: ns) (cs.drop n)).take n = cs.take n := by
        rw [List.take_left' hlen]
      show unhyphenate? (n :: m :: ns) (cs.take n ++ '-' :: hyphenate (m :: ns) (cs.drop n))
        = some cs
      rw [unhyphenate?.eq_3 _ _ _ (by simp), hdrop]
      simp only [ih (cs.drop n) (by simp) hrest, htake, Option.map_some, List.take_append_drop]

theorem hyphenate_length (ns : List Nat) (cs : List Char) (hne : ns ≠ [])
    (h : cs.length = ns.foldr (· + ·) 0) :
    (hyphenate ns cs).length = cs.length + ns.length - 1 := by
  induction ns generalizing cs with
  | nil => exact absurd rfl hne
  | cons n ns ih =>
    cases ns with
    | nil => simp [hyphenate]
    | cons m ns =>
      have hrest : (cs.drop n).length = (m :: ns).foldr (· + ·) 0 := by
        rw [List.length_drop, h]
        simp only [List.foldr_cons]
        omega
      have hn : n ≤ cs.length := by
        simp only [List.foldr_cons] at h
        omega
      have := ih (cs.drop n) (by simp) hrest
      simp only [hyphenate, List.length_append, List.length_cons, List.length_take, this,
        List.length_drop]
      omega

/-- An identifier reads back from its hyphenated text. -/
theorem parse?_text (g : Guid) : parse? g.text = some g := by
  have hlen : (g.digits.map digitChar).length = groups.foldr (· + ·) 0 := by
    rw [List.length_map, g.length_eq]
    rfl
  have hchars : g.chars.length = 36 := by
    rw [chars, hyphenate_length groups _ (by decide) hlen, List.length_map, g.length_eq]
    rfl
  unfold parse? text
  rw [String.toList_ofList]
  simp only [hchars]
  show ofHyphenated? g.chars = some g
  rw [ofHyphenated?, chars, unhyphenate?_hyphenate groups _ (by decide) hlen, Option.bind_some,
    ofDigits?_map]

end Guid

end Polyquery
