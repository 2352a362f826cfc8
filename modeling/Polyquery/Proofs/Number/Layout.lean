import Polyquery.Number.Layout
import Polyquery.Proofs.Number.Numeral
import Polyquery.Proofs.Number.Shortest

/-!
# Number texts read back

Every layout writes a floating-point value so that the same value is read back.

* `ofDecimal_eq` - digits and an exponent between the midpoints around a value round to the value;
* `parse?_canonical` - what is read is a value of the format;
* `magnitudeText_writes` - the text of shortest digits in a layout;
* `parse?_render` - every value reads back from its text.
-/

namespace Polyquery

/-! ### Decimals near a value -/

namespace BinaryFloat

open Shortest

/-- A number by the length of its decimal digits. -/
theorem decimalLength_bounds {n : Nat} (h : 0 < n) :
    (10 : ℚ) ^ ((decimalLength n : Int) - 1) ≤ n ∧ (n : ℚ) < 10 ^ (decimalLength n : Int) := by
  have hlength : decimalLength n = (Nat.toDigits 10 n).length := if_neg h.ne'
  have hpos : 0 < (Nat.toDigits 10 n).length := Nat.length_toDigits_pos
  rw [hlength]
  generalize hk : (Nat.toDigits 10 n).length = k at *
  constructor
  · rw [show (k : Int) - 1 = ((k - 1 : Nat) : Int) by omega, zpow_natCast]
    rcases Nat.eq_zero_or_pos (k - 1) with hone | hmore
    · rw [hone, pow_zero]
      exact_mod_cast h
    · have hnot : ¬ (Nat.toDigits 10 n).length ≤ k - 1 := by omega
      rw [Nat.length_toDigits_le_iff (by decide) hmore, not_lt] at hnot
      exact_mod_cast hnot
  · have hlt := (Nat.length_toDigits_le_iff (n := n) (by decide : 1 < 10) hpos).1 hk.le
    rw [zpow_natCast]
    exact_mod_cast hlt

/-- A decimal lies between the powers of ten on both sides of its first digit. -/
theorem decimal_bounds {digits : Nat} (hdigits : 0 < digits) (exponent : Int) :
    (10 : ℚ) ^ (exponent + decimalLength digits - 1) ≤ digits * 10 ^ exponent ∧
      (digits * 10 ^ exponent : ℚ) < 10 ^ (exponent + decimalLength digits) := by
  obtain ⟨hlow, hhigh⟩ := decimalLength_bounds hdigits
  rw [add_sub_assoc, zpow_add₀ (by norm_num), zpow_add₀ (by norm_num), mul_comm (digits : ℚ)]
  exact ⟨mul_le_mul_of_nonneg_left hlow (ten_zpow_pos _).le,
    mul_lt_mul_of_pos_left hhigh (ten_zpow_pos _)⟩

/-- A magnitude that is taken for too large lies above every value of the format. -/
theorem le_of_large {F : FloatFormat} (hF : Printable F) {e p : Int} (he : e ≤ F.maxExponent)
    (hlarge : F.maxExponent + F.precision + 1 < p) :
    (2 : ℚ) ^ (F.precision + e) ≤ 10 ^ (p - 1) := by
  have hbounded := hF.most
  calc (2 : ℚ) ^ (F.precision + e) ≤ 2 ^ (F.precision + F.maxExponent) := two_zpow_le (by omega)
    _ ≤ 10 ^ (F.precision + F.maxExponent) :=
        zpow_le_zpow_left₀ (by omega) (by norm_num) (by norm_num)
    _ ≤ 10 ^ (p - 1) := zpow_le_zpow_right₀ (by norm_num) (by omega)

/-- A magnitude that is taken for zero is at most half of the least value of the format. -/
theorem le_of_small {F : FloatFormat} (hF : Printable F) {p : Int}
    (hsmall : p < F.minExponent - 1) :
    (10 : ℚ) ^ p ≤ 2 ^ (F.minExponent - 1) := by
  have hneg := hF.least
  obtain ⟨n, hn⟩ : ∃ n : Nat, p = -(n : Int) := ⟨p.natAbs, by omega⟩
  calc (10 : ℚ) ^ p ≤ 2 ^ p := by
        rw [hn, zpow_neg, zpow_neg, zpow_natCast, zpow_natCast]
        exact inv_anti₀ (by positivity) (pow_le_pow_left₀ (by norm_num) (by norm_num) n)
    _ ≤ 2 ^ (F.minExponent - 1) := two_zpow_le (by omega)

/-- A decimal between the midpoints around a value rounds to the value. -/
theorem ofDecimal_eq {F : FloatFormat} (hF : Printable F) {m : Nat} {e : Int}
    (h : Canonical F m e) (hm : 0 < m) {digits : Nat} {exponent : Int} (hdigits : 0 < digits)
    (hx : Rounds F m e (digits * 10 ^ exponent)) (negative : Bool) :
    (ofDecimal negative digits exponent : BinaryFloat F) = .finite negative m e := by
  have hpos := two_zpow_pos e
  have hmq : (1 : ℚ) ≤ m := by exact_mod_cast hm
  have hleast := h.least
  obtain ⟨hbelow, habove⟩ := (hx.within hm).le
  obtain ⟨hlow, hhigh⟩ := decimal_bounds hdigits exponent
  -- neither shortcut for magnitudes out of range applies
  have hnotlarge : ¬ F.maxExponent + F.precision + 1 < exponent + decimalLength digits := by
    intro hlarge
    have hlt : (digits * 10 ^ exponent : ℚ) < 2 ^ (F.precision + e) := by
      have hmant : (m : ℚ) + 1 ≤ 2 ^ (F.precision : Int) := by
        rw [← natCast_two_pow]
        exact_mod_cast h.mantissa
      rw [zpow_add₀ two_ne_zero]
      exact habove.trans_lt (mul_lt_mul_of_pos_right (by linarith) hpos)
    exact absurd (hlt.trans_le (le_of_large hF h.most hlarge)) (not_lt.2 hlow)
  have hnotsmall : ¬ exponent + decimalLength digits < F.minExponent - 1 := by
    intro hsmall
    have hge : (2 : ℚ) ^ (F.minExponent - 1) ≤ digits * 10 ^ exponent := by
      calc (2 : ℚ) ^ (F.minExponent - 1) ≤ 2 ^ (e - 1) := two_zpow_le (by omega)
        _ = 1 / 2 * 2 ^ e := by rw [zpow_sub_one₀ two_ne_zero]; ring
        _ ≤ (m - 1 / 2) * 2 ^ e := mul_le_mul_of_nonneg_right (by linarith) hpos.le
        _ ≤ digits * 10 ^ exponent := hbelow
    exact absurd (hhigh.trans_le (le_of_small hF hsmall)) (not_lt.2 hge)
  unfold ofDecimal
  simp only [if_neg hdigits.ne', if_neg hnotlarge, if_neg hnotsmall]
  split
  · rename_i he
    refine ofRatio_eq hF.precise h hm Nat.one_pos ?_ negative
    rw [Nat.cast_mul, natCast_pow_toNat 10 he, Nat.cast_one, div_one]
    exact hx
  · rename_i he
    have hden : 0 < Nat.pow 10 (-exponent).toNat := Nat.pow_pos (by decide)
    refine ofRatio_eq hF.precise h hm hden ?_ negative
    rw [natCast_pow_toNat_neg 10 he, div_inv_eq_mul]
    exact hx

/-- A decimal is read as a value of the format. -/
theorem ofDecimal_canonical {F : FloatFormat} (hF : Printable F) (negative : Bool) (digits : Nat)
    (exponent : Int) : (ofDecimal negative digits exponent : BinaryFloat F).IsCanonical := by
  have hrange : F.minExponent ≤ F.maxExponent := hF.least.trans hF.most
  have hprecise : 0 < F.precision := Nat.lt_of_lt_of_le (by decide) hF.precise
  have hzero : ∀ s, (zero s : BinaryFloat F).IsCanonical := fun _ => canonical_zero hrange
  have hratio : ∀ num den, (ofRatio negative num den : BinaryFloat F).IsCanonical := by
    intro num den
    cases h : (ofRatio negative num den : BinaryFloat F) with
    | nan => trivial
    | infinite _ => trivial
    | finite s m e => exact (ofRatio_canonical hprecise hrange h).2
  unfold ofDecimal
  simp only
  split
  · exact hzero negative
  · split
    · trivial
    · split
      · exact hzero negative
      · split
        · exact hratio _ _
        · exact hratio _ _

theorem parseUnsigned?_canonical {F : FloatFormat} (hF : Printable F) {negative : Bool}
    {cs : List Char} {f : BinaryFloat F} (h : parseUnsigned? negative cs = some f) :
    f.IsCanonical := by
  have hdecimal : ∀ (empty : Bool) (n : Nat) (shift : Int) (e : Option Int),
      (if empty then none else e.map fun e => (ofDecimal negative n (e - shift) : BinaryFloat F))
        = some f → f.IsCanonical := by
    intro empty n shift e h
    split at h
    · cases h
    · obtain ⟨e, -, rfl⟩ := Option.map_eq_some_iff.1 h
      exact ofDecimal_canonical hF _ _ _
  unfold parseUnsigned? at h
  simp only at h
  split at h
  · exact hdecimal _ _ _ _ h
  · exact hdecimal _ _ _ _ h

/-- A text is read as a value of the format. -/
theorem parse?_canonical {F : FloatFormat} (hF : Printable F) {cs : List Char} {f : BinaryFloat F}
    (h : parse? cs = some f) : f.IsCanonical := by
  unfold parse? at h
  simp only at h
  split at h
  · cases h
    trivial
  · split at h
    · cases h
      trivial
    · exact parseUnsigned?_canonical hF h

/-- The other sign changes neither mantissa nor exponent. -/
theorem IsCanonical.neg {F : FloatFormat} {f : BinaryFloat F} (h : f.IsCanonical) :
    f.neg.IsCanonical := by
  cases f with
  | finite s m e => exact h
  | _ => trivial

end BinaryFloat

/-! ### Layouts -/

namespace NumberLayout

open BinaryFloat Shortest

section Digits

variable (l : NumberLayout) {ds : List Char} (hne : ds ≠ []) (hdigits : AllDigits ds)
  (hpos : 0 < digitsValue ds) (e : Int)

include hdigits

/-- All digits stand behind the point. -/
theorem pointBefore_writes {k : Nat} (hk : (k : Int) = -(e + ds.length)) :
    Writes ('0' :: '.' :: (List.replicate k '0' ++ ds)) (digitsValue ds) e := by
  have hwrites := Writes.pointed (List.cons_ne_nil '0' []) (allDigits_zeros 1)
    ((allDigits_zeros k).append hdigits) .absent
  have hvalue : digitsValue (['0'] ++ (List.replicate k '0' ++ ds)) = digitsValue ds := by
    have hzero : digitsValue ['0'] = 0 := rfl
    rw [digitsValue_append, digitsValue_append, digitsValue_zeros, hzero, Nat.zero_mul,
      Nat.zero_mul, Nat.zero_add, Nat.zero_add]
  have hexponent : 0 - ((List.replicate k '0' ++ ds).length : Int) = e := by
    rw [List.length_append, List.length_replicate]
    omega
  rw [List.append_nil, hvalue, hexponent] at hwrites
  exact hwrites

/-- The point stands between the digits. -/
theorem pointInside_writes {k : Nat} (hk : (k : Int) = e + ds.length) (hfirst : 0 < k)
    (hlast : k < ds.length) :
    Writes (ds.take k ++ '.' :: ds.drop k) (digitsValue ds) e := by
  have hfront : ds.take k ≠ [] := by
    intro hnil
    have hlength := congrArg List.length hnil
    rw [List.length_take, List.length_nil] at hlength
    omega
  have hwhole : AllDigits (ds.take k) := fun c hc => hdigits c (List.mem_of_mem_take hc)
  have hbehind : AllDigits (ds.drop k) := fun c hc => hdigits c (List.mem_of_mem_drop hc)
  have hwrites := Writes.pointed hfront hwhole hbehind .absent
  have hexponent : 0 - ((ds.drop k).length : Int) = e := by
    rw [List.length_drop]
    omega
  rw [List.append_nil, List.take_append_drop, hexponent] at hwrites
  exact hwrites

include hne hpos

/-- Zeros fill the places up to the point. -/
theorem pointAfter_writes (k : Nat) :
    ∃ n x, Writes (ds ++ List.replicate k '0' ++ (if l.wholePoint then ['.', '0'] else [])) n x ∧
      0 < n ∧ (n * 10 ^ x : ℚ) = digitsValue ds * 10 ^ (k : Int) := by
  have hwhole := hdigits.append (allDigits_zeros k)
  have hne' : ds ++ List.replicate k '0' ≠ [] := List.append_ne_nil_of_left_ne_nil hne _
  have hvalue : digitsValue (ds ++ List.replicate k '0') = digitsValue ds * Nat.pow 10 k := by
    rw [digitsValue_append, digitsValue_zeros, Nat.add_zero, List.length_replicate]
  have hmore : 0 < digitsValue (ds ++ List.replicate k '0') := by
    rw [hvalue]
    exact Nat.mul_pos hpos (Nat.pow_pos (by decide))
  have hvalueq : ((digitsValue (ds ++ List.replicate k '0') : Nat) : ℚ)
      = digitsValue ds * 10 ^ (k : Int) := by
    rw [hvalue, Nat.cast_mul, Nat.pow_eq, Nat.cast_pow, zpow_natCast, Nat.cast_ofNat]
  split
  · have hten : digitsValue (ds ++ List.replicate k '0' ++ ['0'])
        = digitsValue (ds ++ List.replicate k '0') * 10 := by
      rw [digitsValue_append]
      rfl
    refine ⟨_, _, .pointed hne' hwhole (allDigits_zeros 1) .absent, ?_, ?_⟩
    · rw [show List.replicate 1 '0' = ['0'] from rfl, hten]
      exact Nat.mul_pos hmore (by decide)
    · rw [show List.replicate 1 '0' = ['0'] from rfl, hten, Nat.cast_mul, hvalueq]
      norm_num
      ring
  · refine ⟨_, _, .plain hne' hwhole .absent, hmore, ?_⟩
    rw [zpow_zero, mul_one, hvalueq]

/-- Digits without an exponent. -/
theorem positionalText_writes :
    ∃ n x, Writes (l.positionalText ds (e + ds.length)) n x ∧ 0 < n ∧
      (n * 10 ^ x : ℚ) = digitsValue ds * 10 ^ e := by
  unfold positionalText
  split
  · exact ⟨_, _, pointBefore_writes hdigits e (by omega), hpos, rfl⟩
  · split
    · obtain ⟨k, rfl⟩ : ∃ k : Nat, e = k := ⟨e.toNat, by omega⟩
      have hcount : ((k : Int) + ds.length).toNat - ds.length = k := by omega
      rw [hcount]
      exact l.pointAfter_writes hne hdigits hpos k
    · exact ⟨_, _, pointInside_writes hdigits e (by omega) (by omega) (by omega), hpos, rfl⟩

omit hpos in
/-- Digits with an exponent. -/
theorem exponentText_writes {p : Int} (hp : p = e + ds.length) :
    Writes (l.exponentText ds p) (digitsValue ds) e := by
  have htail : WritesExponent ('e' :: ((if p - 1 < 0 then ['-']
      else if l.plusSign then ['+'] else []) ++ Nat.toDigits 10 (p - 1).natAbs)) (p - 1) := by
    refine .present _ ?_
    split
    · exact .inl rfl
    · rename_i hsign
      split
      · exact .inr ⟨rfl, by omega⟩
      · exact .inl rfl
  match ds with
  | [] => exact absurd rfl hne
  | [d] =>
    have hwrites := Writes.plain hne hdigits htail
    have hexponent : p - 1 = e := by simp [hp]
    exact (congrArg (Writes _ _) hexponent).mp hwrites
  | d :: d' :: rest =>
    have hone : AllDigits [d] := fun c hc => hdigits c (List.mem_singleton.1 hc ▸ List.mem_cons_self)
    have hrest : AllDigits (d' :: rest) := fun c hc => hdigits c (List.mem_cons_of_mem d hc)
    have hwrites := Writes.pointed (List.cons_ne_nil d []) hone hrest htail
    have hexponent : p - 1 - ((d' :: rest).length : Int) = e := by
      rw [hp, List.length_cons (a := d)]
      push_cast
      ring
    exact (congrArg (Writes _ _) hexponent).mp hwrites

end Digits

/-- The text of a positive decimal. -/
theorem magnitudeText_writes (l : NumberLayout) {d : Digits} (h : 0 < d.significand) :
    ∃ n e, Writes (l.magnitudeText d) n e ∧ 0 < n ∧ (n * 10 ^ e : ℚ) = d.value := by
  have hne : Nat.toDigits 10 d.significand ≠ [] := Nat.toDigits_ne_nil
  have hdigits := allDigits_toDigits d.significand
  have hvalue := Integer.digitsValue_toDigits d.significand
  have hpos : 0 < digitsValue (Nat.toDigits 10 d.significand) := by rwa [hvalue]
  unfold magnitudeText
  simp only
  split
  · obtain ⟨n, e, hwrites, hn, heq⟩ := l.positionalText_writes hne hdigits hpos d.exponent
    exact ⟨n, e, hwrites, hn, by rw [heq, hvalue]; rfl⟩
  · exact ⟨_, _, l.exponentText_writes hne hdigits d.exponent rfl, hpos, by rw [hvalue]; rfl⟩

/-- The text of zero. -/
theorem zeroText_writes (l : NumberLayout) :
    ∃ e, Writes (if l.wholePoint then ['0', '.', '0'] else ['0']) 0 e := by
  have hone : AllDigits ['0'] := allDigits_zeros 1
  split
  · exact ⟨_, Writes.pointed (List.cons_ne_nil '0' []) hone hone .absent⟩
  · exact ⟨_, Writes.plain (List.cons_ne_nil '0' []) hone .absent⟩

/-- The text of a finite value is a numeral that rounds to the value, with a sign. -/
theorem render_writes (l : NumberLayout) {F : FloatFormat} (hF : Printable F) {m : Nat} {e : Int}
    (h : Canonical F m e) :
    ∃ cs n x, Writes cs n x ∧
      (∀ negative, l.render (.finite negative m e : BinaryFloat F)
        = String.ofList (if negative then '-' :: cs else cs)) ∧
      ∀ negative, (ofDecimal negative n x : BinaryFloat F) = .finite negative m e := by
  rcases Nat.eq_zero_or_pos m with rfl | hm
  · obtain ⟨x, hwrites⟩ := l.zeroText_writes
    have hleast : F.minExponent = e := by
      have hle := h.least
      by_contra hne
      have hfull := h.full (lt_of_le_of_ne hle hne)
      exact absurd (Nat.pow_pos (by decide)) (Nat.not_lt.2 hfull)
    refine ⟨_, 0, x, hwrites, fun _ => rfl, fun negative => ?_⟩
    rw [ofDecimal, if_pos rfl, zero, hleast]
  · obtain ⟨hrounds, hsignificand⟩ := digits_rounds hF h hm l.tie
    obtain ⟨n, x, hwrites, hn, hvalue⟩ := l.magnitudeText_writes hsignificand
    rw [← hvalue] at hrounds
    refine ⟨_, n, x, hwrites, fun negative => ?_, ofDecimal_eq hF h hm hn hrounds⟩
    rw [render]
    simp only [if_neg hm.ne']

theorem mark_magnitudeText (l : NumberLayout) (h : l.wholePoint = true) (d : Digits) :
    '.' ∈ l.magnitudeText d ∨ 'e' ∈ l.magnitudeText d := by
  unfold magnitudeText
  simp only
  split
  · refine .inl ?_
    unfold positionalText
    split
    · simp
    · split
      · simp
      · simp
  · refine .inr ?_
    unfold exponentText
    simp

/-- A layout that keeps the point of whole numbers writes no plain digits. -/
theorem not_allDigits_render (l : NumberLayout) (h : l.wholePoint = true) {F : FloatFormat}
    (negative : Bool) (m : Nat) (e : Int) :
    ¬ AllDigits (l.render (.finite negative m e : BinaryFloat F)).toList := by
  have hmark : ∀ cs : List Char, '.' ∈ cs ∨ 'e' ∈ cs →
      ¬ AllDigits (if negative then '-' :: cs else cs) := by
    intro cs hcs hall
    have hmem : '.' ∈ (if negative then '-' :: cs else cs) ∨
        'e' ∈ (if negative then '-' :: cs else cs) := by
      split
      · exact hcs.imp (List.mem_cons_of_mem _) (List.mem_cons_of_mem _)
      · exact hcs
    rcases hmem with hdot | he
    · exact absurd (hall '.' hdot) (by decide)
    · exact absurd (hall 'e' he) (by decide)
  rw [render, String.toList_ofList]
  refine hmark _ ?_
  split
  · exact .inl (by decide)
  · exact l.mark_magnitudeText h _

/-- Every value reads back from its text, whatever the layout. -/
theorem parse?_render (l : NumberLayout) {F : FloatFormat} (hF : Printable F) {f : BinaryFloat F}
    (h : f.IsCanonical) : parse? (l.render f).toList = some f := by
  cases f with
  | nan =>
    have htext : l.render (nan : BinaryFloat F) = "NaN" := rfl
    rw [htext]
    rfl
  | infinite negative =>
    have hfalse : l.render (infinite false : BinaryFloat F) = "inf" := rfl
    have htrue : l.render (infinite true : BinaryFloat F) = "-inf" := rfl
    cases negative
    · rw [hfalse]
      rfl
    · rw [htrue]
      rfl
  | finite negative m e =>
    obtain ⟨cs, n, x, hwrites, htext, hvalue⟩ := l.render_writes hF h
    rw [htext, String.toList_ofList, hwrites.parse negative, hvalue]

end NumberLayout

end Polyquery
