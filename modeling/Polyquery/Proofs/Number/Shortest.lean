import Polyquery.Proofs.Number.Rounding

/-!
# Shortest decimals read back

The decimal that is chosen for a value lies between the midpoints around the value.

* `ratio_fraction`, `readsBack_iff` - decimals as rationals;
* `candidate?_rounds`, `candidate?_isSome` - what a grid gives, and when it gives something;
* `ten_zpow_pointPosition` - a grid of seventeen digits is fine enough;
* `digits_rounds` - the decimal that is chosen rounds to the value.
-/

namespace Polyquery.Shortest

open BinaryFloat

/-- The value of a decimal. -/
def Digits.value (d : Digits) : ℚ := d.significand * 10 ^ d.exponent

theorem ten_zpow_pos (e : Int) : (0 : ℚ) < 10 ^ e := zpow_pos (by norm_num) e

theorem ratio_fraction (d : Digits) : ratio d.fraction = d.value := ratio_scaled 10 _ _

/-! ### Comparisons -/

theorem below_iff {closed : Bool} {a b : Nat × Nat} (ha : 0 < a.2) (hb : 0 < b.2) :
    below closed a b = true ↔ if closed then ratio a ≤ ratio b else ratio a < ratio b := by
  have haq : (0 : ℚ) < a.2 := by exact_mod_cast ha
  have hbq : (0 : ℚ) < b.2 := by exact_mod_cast hb
  unfold below ratio
  cases closed with
  | true =>
    simp only [if_true, decide_eq_true_eq, div_le_div_iff₀ haq hbq]
    norm_cast
  | false =>
    simp only [Bool.false_eq_true, if_false, decide_eq_true_eq, div_lt_div_iff₀ haq hbq]
    norm_cast

theorem scaled_pos {b : Nat} (hb : 0 < b) (m : Nat) (e : Int) :
    0 < (if 0 ≤ e then (m * Nat.pow b e.toNat, 1) else (m, Nat.pow b (-e).toNat)).2 := by
  split
  · exact Nat.one_pos
  · exact Nat.pow_pos hb

theorem dyadic_pos (m : Nat) (e : Int) : 0 < (dyadic m e).2 := scaled_pos (by decide) m e

theorem fraction_pos (d : Digits) : 0 < d.fraction.2 := scaled_pos (by decide) _ _

theorem lowerEnd_pos (F : FloatFormat) (m : Nat) (e : Int) : 0 < (lowerEnd F m e).2 := by
  unfold lowerEnd
  split <;> exact dyadic_pos _ _

/-- A decimal reads back if it rounds to the value. -/
theorem readsBack_iff (F : FloatFormat) (m : Nat) (e : Int) (d : Digits) :
    readsBack F m e d = true ↔ Rounds F m e d.value := by
  have hlow := lowerEnd_pos F m e
  have hhigh : 0 < (upperEnd m e).2 := dyadic_pos _ _
  have hd := fraction_pos d
  unfold readsBack Rounds Within
  simp only [Bool.and_eq_true, below_iff hlow hd, below_iff hd hhigh, ratio_fraction]
  split <;> rfl

/-! ### Grids -/

/-- The neighbours of a value on a grid. -/
theorem gridBelow_bounds {v : Nat × Nat} (hv : 0 < v.2) (k : Int) :
    (gridBelow v k : ℚ) * 10 ^ k ≤ ratio v ∧ ratio v < (gridBelow v k + 1) * 10 ^ k := by
  have hpos := ten_zpow_pos k
  have hfloor : ∀ a b : Nat, 0 < b → (a / b : ℚ) = ratio v / 10 ^ k →
      ((a / b : Nat) : ℚ) * 10 ^ k ≤ ratio v ∧ ratio v < ((a / b : Nat) + 1) * 10 ^ k := by
    intro a b hb hunits
    have hbq : (0 : ℚ) < b := by exact_mod_cast hb
    rw [← le_div_iff₀ hpos, ← div_lt_iff₀ hpos, ← hunits, le_div_iff₀ hbq, div_lt_iff₀ hbq]
    have hle := Nat.div_mul_le_self a b
    have hlt := Nat.lt_mul_div_succ a hb
    rw [Nat.mul_comm] at hlt
    exact ⟨by exact_mod_cast hle, by exact_mod_cast hlt⟩
  unfold gridBelow
  split
  · rename_i hk
    exact hfloor _ _ (Nat.mul_pos hv (Nat.pow_pos (by decide))) ((units_eq 10 v.1 v.2 k).1 hk)
  · rename_i hk
    exact hfloor _ _ hv ((units_eq 10 v.1 v.2 k).2 hk)

/-- What a grid gives rounds to the value. -/
theorem candidate?_rounds {F : FloatFormat} {tie : Tie} {m : Nat} {e k : Int} {d : Digits}
    (h : candidate? F tie m e k = some d) : Rounds F m e d.value ∧ 0 < d.significand := by
  unfold candidate? at h
  simp only at h
  generalize gridBelow (dyadic m e) k = a at h
  have hlow : (readsBack F m e ⟨a, k⟩ && decide (0 < a)) = true →
      Rounds F m e (Digits.value ⟨a, k⟩) ∧ 0 < a := by
    intro h
    rw [Bool.and_eq_true, decide_eq_true_eq, readsBack_iff] at h
    exact h
  have hhigh : readsBack F m e ⟨a + 1, k⟩ = true →
      Rounds F m e (Digits.value ⟨a + 1, k⟩) ∧ 0 < a + 1 :=
    fun h => ⟨(readsBack_iff F m e _).1 h, Nat.succ_pos a⟩
  split at h
  · rename_i hl hh
    split at h
    · cases h
      exact hlow hl
    · cases h
      exact hhigh hh
  · rename_i hl _
    cases h
    exact hlow hl
  · rename_i _ hh
    cases h
    exact hhigh hh
  · cases h

theorem rounds_of_lt {F : FloatFormat} {m : Nat} {e : Int} {x : ℚ}
    (hlow : ratio (lowerEnd F m e) < x) (hhigh : x < ratio (upperEnd m e)) : Rounds F m e x := by
  unfold Rounds Within
  split
  · exact ⟨hlow.le, hhigh.le⟩
  · exact ⟨hlow, hhigh⟩

/-- A value lies between its midpoints. -/
theorem ends_bounds (F : FloatFormat) {m : Nat} (hm : 0 < m) (e : Int) :
    ratio (lowerEnd F m e) < m * 2 ^ e ∧ (m * 2 ^ e : ℚ) < ratio (upperEnd m e) := by
  have hpos := two_zpow_pos e
  rw [ratio_lowerEnd hm, ratio_upperEnd]
  refine ⟨?_, mul_lt_mul_of_pos_right (by linarith) hpos⟩
  split <;> exact mul_lt_mul_of_pos_right (by linarith) hpos

/-- A grid gives something if its step is no greater than the value and less than the distance of
the midpoints. -/
theorem candidate?_isSome {F : FloatFormat} {tie : Tie} {m : Nat} {e k : Int} (hm : 0 < m)
    (hvalue : (10 : ℚ) ^ k ≤ m * 2 ^ e)
    (hwidth : ratio (lowerEnd F m e) + 10 ^ k < ratio (upperEnd m e)) :
    (candidate? F tie m e k).isSome = true := by
  have hpos := ten_zpow_pos k
  obtain ⟨hbelow, habove⟩ := gridBelow_bounds (dyadic_pos m e) k
  rw [ratio_dyadic] at hbelow habove
  obtain ⟨hlower, hupper⟩ := ends_bounds F hm e
  unfold candidate?
  simp only
  generalize gridBelow (dyadic m e) k = a at *
  have ha : 0 < a := by
    rcases Nat.eq_zero_or_pos a with rfl | ha
    · rw [Nat.cast_zero, zero_add, one_mul] at habove
      exact absurd habove (not_lt.2 hvalue)
    · exact ha
  by_cases hlow : readsBack F m e ⟨a, k⟩ = true
  · rw [hlow, decide_eq_true ha]
    split <;> simp_all
  · -- the lower neighbour is not above the midpoint, so the upper one is between both
    have hnear : (a : ℚ) * 10 ^ k ≤ ratio (lowerEnd F m e) := by
      rw [readsBack_iff] at hlow
      by_contra hlt
      exact hlow (rounds_of_lt (not_le.1 hlt) (hbelow.trans_lt hupper))
    have hhigh : readsBack F m e ⟨a + 1, k⟩ = true := by
      rw [readsBack_iff]
      have hvalue' : Digits.value ⟨a + 1, k⟩ = (a + 1) * 10 ^ k := by
        rw [Digits.value, Nat.cast_succ]
      rw [hvalue']
      exact rounds_of_lt (hlower.trans habove) (by linarith)
    rw [hhigh]
    split <;> simp_all

/-! ### The search -/

/-- A search that has a grid with a hit finds one. -/
theorem search_rounds {F : FloatFormat} {tie : Tie} {m : Nat} {e p : Int} {fuel n : Nat}
    (hfuel : 0 < fuel) (h : (candidate? F tie m e (p - (n + fuel : Nat))).isSome = true) :
    Rounds F m e (search F tie m e p fuel n).value ∧ 0 < (search F tie m e p fuel n).significand := by
  induction fuel generalizing n with
  | zero => exact absurd hfuel (Nat.lt_irrefl 0)
  | succ fuel ih =>
    rw [search]
    split
    · rename_i d hd
      exact candidate?_rounds hd
    · rename_i hnone
      rcases Nat.eq_zero_or_pos fuel with rfl | hmore
      · have heq : p - ((n : Int) + 1) = p - ((n + (0 + 1) : Nat) : Int) := by omega
        rw [← heq, hnone] at h
        cases h
      · have heq : p - ((n + (fuel + 1) : Nat) : Int) = p - ((n + 1 + fuel : Nat) : Int) := by omega
        rw [heq] at h
        exact ih hmore h

/-- Trailing zeros move into the exponent. -/
theorem stripZeros_value (fuel : Nat) (d : Digits) (h : 0 < d.significand) :
    (stripZeros fuel d).value = d.value ∧ 0 < (stripZeros fuel d).significand := by
  induction fuel generalizing d with
  | zero => exact ⟨rfl, h⟩
  | succ fuel ih =>
    rw [stripZeros]
    split
    · rename_i hzero
      obtain ⟨q, hq⟩ := Nat.dvd_of_mod_eq_zero hzero.2
      have hdiv : d.significand / 10 = q := by omega
      obtain ⟨hvalue, hpos⟩ := ih ⟨d.significand / 10, d.exponent + 1⟩ (by simp only; omega)
      refine ⟨hvalue.trans ?_, hpos⟩
      have hsig : (d.significand : ℚ) = 10 * q := by exact_mod_cast hq
      show ((d.significand / 10 : Nat) : ℚ) * 10 ^ (d.exponent + 1) = d.significand * 10 ^ d.exponent
      rw [hdiv, hsig, zpow_add_one₀ (by norm_num)]
      ring
    · exact ⟨rfl, h⟩

/-! ### The first digit -/

/-- A power of ten whose exponent comes from that of a power of two, if both are near powers of
each other. -/
theorem ten_zpow_le_two_zpow {a b : Nat} (ha : 0 < a) (hlow : Nat.pow 2 a ≤ Nat.pow 10 b)
    (hhigh : Nat.pow 10 b ≤ Nat.pow 2 (a + 1)) {q l : Int} (hq : a * q ≤ b * l) (hl : l ≤ 6 * a) :
    (10 : ℚ) ^ (q - 2) ≤ 2 ^ l := by
  have hlowq : (2 : ℚ) ^ (a : Int) ≤ 10 ^ (b : Int) := by
    rw [zpow_natCast, zpow_natCast]
    exact_mod_cast hlow
  have hhighq : (10 : ℚ) ^ (b : Int) ≤ 2 ^ ((a : Int) + 1) := by
    rw [← Nat.cast_succ, zpow_natCast, zpow_natCast]
    exact_mod_cast hhigh
  have hpow : (10 : ℚ) ^ ((b : Int) * l) ≤ 2 ^ ((a : Int) * l) * 10 ^ (2 * (a : Int)) := by
    rcases le_total l 0 with hneg | hpos
    · obtain ⟨n, rfl⟩ : ∃ n : Nat, l = -(n : Int) := ⟨l.natAbs, by omega⟩
      have hinv : (10 : ℚ) ^ ((b : Int) * -n) ≤ 2 ^ ((a : Int) * -n) := by
        rw [mul_neg, mul_neg, zpow_neg, zpow_neg, zpow_mul, zpow_mul, zpow_natCast, zpow_natCast]
        exact inv_anti₀ (pow_pos (two_zpow_pos a) n) (pow_le_pow_left₀ (two_zpow_pos a).le hlowq n)
      have hone : (1 : ℚ) ≤ 10 ^ (2 * (a : Int)) := one_le_zpow₀ (by norm_num) (by omega)
      exact hinv.trans (le_mul_of_one_le_right (two_zpow_pos _).le hone)
    · obtain ⟨n, rfl⟩ : ∃ n : Nat, l = (n : Int) := ⟨l.natAbs, by omega⟩
      have hmain : (10 : ℚ) ^ ((b : Int) * n) ≤ 2 ^ (((a : Int) + 1) * n) := by
        rw [zpow_mul, zpow_mul, zpow_natCast, zpow_natCast]
        exact pow_le_pow_left₀ (ten_zpow_pos b).le hhighq n
      have hslack : (2 : ℚ) ^ (n : Int) ≤ 10 ^ (2 * (a : Int)) := by
        calc (2 : ℚ) ^ (n : Int) ≤ 2 ^ (6 * (a : Int)) := two_zpow_le hl
          _ = (2 ^ (6 : Int)) ^ (a : Int) := zpow_mul _ _ _
          _ ≤ (10 ^ (2 : Int)) ^ (a : Int) := by
              rw [zpow_natCast, zpow_natCast]
              exact pow_le_pow_left₀ (by norm_num) (by norm_num) a
          _ = 10 ^ (2 * (a : Int)) := (zpow_mul _ _ _).symm
      calc (10 : ℚ) ^ ((b : Int) * n) ≤ 2 ^ ((a : Int) * n) * 2 ^ (n : Int) := by
            rw [← zpow_add₀ two_ne_zero]
            refine hmain.trans (le_of_eq ?_)
            congr 1
            ring
        _ ≤ 2 ^ ((a : Int) * n) * 10 ^ (2 * (a : Int)) :=
            mul_le_mul_of_nonneg_left hslack (two_zpow_pos _).le
  refine (pow_le_pow_iff_left₀ (ten_zpow_pos _).le (two_zpow_pos _).le ha.ne').1 ?_
  rw [← zpow_natCast, ← zpow_natCast, ← zpow_mul, ← zpow_mul]
  calc (10 : ℚ) ^ ((q - 2) * a) ≤ 10 ^ ((b : Int) * l - 2 * a) :=
        zpow_le_zpow_right₀ (by norm_num) (by linarith)
    _ = 10 ^ ((b : Int) * l) / 10 ^ (2 * (a : Int)) := zpow_sub₀ (by norm_num) _ _
    _ ≤ 2 ^ (l * a) := by
        rw [div_le_iff₀ (ten_zpow_pos _), Int.mul_comm l]
        exact hpow

theorem exists_near_powers : ∃ a b : Nat, a = 100000 ∧ b = 30103 ∧
    Nat.pow 2 a ≤ Nat.pow 10 b ∧ Nat.pow 10 b ≤ Nat.pow 2 (a + 1) :=
  ⟨100000, 30103, rfl, rfl, by decide +kernel⟩

/-- The least power of ten above a value is not too great. -/
theorem ten_zpow_pointPosition {v : Nat × Nat} (hnum : 0 < v.1) (hden : 0 < v.2)
    (hsize : (v.1.log2 : Int) - v.2.log2 - 1 ≤ 600000) :
    (10 : ℚ) ^ (pointPosition v - 1) ≤ ratio v := by
  have hbeyond : ∀ p : Int, (!below true ((Digits.mk 1 p).fraction) v) = true ∨
      (10 : ℚ) ^ p ≤ ratio v := by
    intro p
    rw [Bool.not_eq_true', ← Bool.not_eq_true, below_iff (fraction_pos _) hden, ratio_fraction]
    simp only [Digits.value, Nat.cast_one, one_mul, if_true]
    exact (le_or_gt ((10 : ℚ) ^ p) (ratio v)).symm.imp_left not_le.2
  have hguess : (10 : ℚ) ^ (((v.1.log2 : Int) - v.2.log2 - 1) * 30103 / 100000 - 2) ≤ ratio v := by
    obtain ⟨a, b, ha, hb, hlow, hhigh⟩ := exists_near_powers
    refine (ten_zpow_le_two_zpow (by omega) hlow hhigh ?_ (by omega)).trans
      (log2_lt_ratio hnum hden).1.le
    rw [ha, hb]
    omega
  unfold pointPosition
  simp only
  generalize ((v.1.log2 : Int) - v.2.log2 - 1) * 30103 / 100000 = g at *
  split
  · rwa [show g - 1 - 1 = g - 2 by omega]
  · rename_i h0
    split
    · have := (hbeyond (g - 1)).resolve_left h0
      rwa [Int.add_sub_cancel]
    · rename_i h1
      split
      · have := (hbeyond (g - 1 + 1)).resolve_left h1
        rwa [show g - 1 + 2 - 1 = g - 1 + 1 by omega]
      · rename_i h2
        have := (hbeyond (g - 1 + 2)).resolve_left h2
        rwa [show g - 1 + 3 - 1 = g - 1 + 2 by omega]

/-! ### Seventeen digits -/

/-- Formats whose values have at most seventeen significant digits. -/
structure Printable (F : FloatFormat) : Prop where
  precise : 2 ≤ F.precision
  coarse : F.precision ≤ 53
  least : F.minExponent ≤ 0
  most : 0 ≤ F.maxExponent
  bounded : F.maxExponent ≤ 10000

theorem printable_double : Printable .double := by constructor <;> decide

/-- A step of the grid of seventeen digits is less than the distance of the midpoints. -/
theorem lowerEnd_add_lt_upperEnd {F : FloatFormat} (hF : Printable F) {m : Nat} {e p : Int}
    (h : Canonical F m e) (hm : 0 < m) (hp : (10 : ℚ) ^ (p - 1) ≤ m * 2 ^ e) :
    ratio (lowerEnd F m e) + 10 ^ (p - 17) < ratio (upperEnd m e) := by
  have hpos := two_zpow_pos e
  have hstep : (10 : ℚ) ^ (p - 17) ≤ m * 2 ^ e / 10 ^ 16 := by
    rw [show p - 17 = p - 1 - 16 by ring, zpow_sub₀ (by norm_num)]
    exact div_le_div_of_nonneg_right hp (by norm_num)
  have hcoarse : ∀ n, n ≤ 53 → ((Nat.pow 2 n : Nat) : ℚ) ≤ 2 ^ 53 := by
    intro n hn
    exact_mod_cast Nat.pow_le_pow_right (by decide : 0 < 2) hn
  have hmant : (m : ℚ) < 2 ^ 53 :=
    lt_of_lt_of_le (by exact_mod_cast h.mantissa) (hcoarse _ hF.coarse)
  rw [ratio_lowerEnd hm, ratio_upperEnd]
  split
  · rename_i hend
    have hhalf : (m : ℚ) ≤ 2 ^ 52 := by
      rw [hend.1]
      exact_mod_cast Nat.pow_le_pow_right (by decide : 0 < 2)
        (show F.precision - 1 ≤ 52 by have := hF.coarse; omega)
    have hless : (m : ℚ) * 2 ^ e / 10 ^ 16 < 3 / 4 * 2 ^ e := by
      rw [mul_div_right_comm]
      exact mul_lt_mul_of_pos_right
        ((div_lt_iff₀ (by norm_num)).2 (hhalf.trans_lt (by norm_num))) hpos
    linarith
  · have hless : (m : ℚ) * 2 ^ e / 10 ^ 16 < 1 * 2 ^ e := by
      rw [mul_div_right_comm]
      exact mul_lt_mul_of_pos_right
        ((div_lt_iff₀ (by norm_num)).2 (hmant.trans (by norm_num))) hpos
    linarith

/-- The decimal that is chosen for a positive value rounds to it. -/
theorem digits_rounds {F : FloatFormat} (hF : Printable F) {m : Nat} {e : Int}
    (h : Canonical F m e) (hm : 0 < m) (tie : Tie) :
    Rounds F m e (digits F tie m e).value ∧ 0 < (digits F tie m e).significand := by
  have hden := dyadic_pos m e
  have hvalue := ratio_dyadic m e
  have hmq : (0 : ℚ) < m := by exact_mod_cast hm
  have hnum : 0 < (dyadic m e).1 := by
    unfold dyadic
    split
    · exact Nat.mul_pos hm (Nat.pow_pos (by decide))
    · exact hm
  have hsize : ((dyadic m e).1.log2 : Int) - (dyadic m e).2.log2 - 1 ≤ 600000 := by
    have hlt : (m : ℚ) * 2 ^ e < 2 ^ (F.precision + e) := by
      rw [zpow_add₀ two_ne_zero, ← natCast_two_pow]
      exact mul_lt_mul_of_pos_right (by exact_mod_cast h.mantissa) (two_zpow_pos e)
    rw [← hvalue] at hlt
    have hless := lt_of_two_zpow (log2_lt_ratio hnum hden).1.le hlt
    have hcoarse := hF.coarse
    have hmost := h.most
    have hbounded := hF.bounded
    omega
  have hfirst := ten_zpow_pointPosition hnum hden hsize
  rw [hvalue] at hfirst
  have hseventeen : (candidate? F tie m e
      (pointPosition (dyadic m e) - ((0 + 17 : Nat) : Int))).isSome = true := by
    refine candidate?_isSome hm (le_trans ?_ hfirst) (lowerEnd_add_lt_upperEnd hF h hm hfirst)
    exact zpow_le_zpow_right₀ (by norm_num) (by omega)
  obtain ⟨hrounds, hpos⟩ := search_rounds (by decide) hseventeen
  obtain ⟨hsame, hpos'⟩ := stripZeros_value 20 _ hpos
  refine ⟨?_, hpos'⟩
  rw [digits, hsame]
  exact hrounds

end Polyquery.Shortest
