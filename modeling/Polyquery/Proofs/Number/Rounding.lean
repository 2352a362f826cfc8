import Mathlib.Data.Int.Log
import Mathlib.Data.Rat.Cast.Order
import Mathlib.Data.Rat.Floor
import Mathlib.Tactic.FieldSimp
import Mathlib.Tactic.Linarith
import Mathlib.Tactic.Positivity
import Mathlib.Tactic.Ring
import Polyquery.Number.Shortest

/-!
# Rounding to the nearest value of a format

The values of a format are dyadic numbers; every quotient between the midpoints around one of them
rounds to it.

* `ratio`, `Within` - fractions as rationals, and intervals with or without their ends;
* `Canonical` - mantissas and exponents that a format has;
* `roundQuotient_eq`, `unitExponent_eq` - the two parts of rounding;
* `ofRatio_eq` - a quotient between the midpoints around a value rounds to the value;
* `ofRatio_canonical` - rounding gives canonical mantissas and exponents.
-/

namespace Polyquery

/-- The value of a fraction. -/
def ratio (v : Nat × Nat) : ℚ := v.1 / v.2

/-- Whether a number lies between two others, which belong to the interval if it is closed. -/
def Within (closed : Bool) (low high x : ℚ) : Prop :=
  if closed then low ≤ x ∧ x ≤ high else low < x ∧ x < high

theorem Within.le {closed : Bool} {low high x : ℚ} (h : Within closed low high x) :
    low ≤ x ∧ x ≤ high := by
  cases closed with
  | true => exact h
  | false => exact ⟨h.1.le, h.2.le⟩

/-- An interval moves with its numbers when all are divided by a positive one. -/
theorem Within.div {closed : Bool} {low high x c : ℚ} (hc : 0 < c)
    (h : Within closed (low * c) (high * c) x) : Within closed low high (x / c) := by
  cases closed with
  | true => exact ⟨(le_div_iff₀ hc).2 h.1, (div_le_iff₀ hc).2 h.2⟩
  | false => exact ⟨(lt_div_iff₀ hc).2 h.1, (div_lt_iff₀ hc).2 h.2⟩

namespace BinaryFloat

theorem two_zpow_pos (e : Int) : (0 : ℚ) < 2 ^ e := zpow_pos two_pos e

theorem two_zpow_le {a b : Int} (h : a ≤ b) : (2 : ℚ) ^ a ≤ 2 ^ b :=
  zpow_le_zpow_right₀ one_le_two h

/-- The exponents of powers of two with a number between them. -/
theorem lt_of_two_zpow {a b : Int} {x : ℚ} (ha : 2 ^ a ≤ x) (hb : x < 2 ^ b) : a < b :=
  (zpow_lt_zpow_iff_right₀ one_lt_two).1 (ha.trans_lt hb)

/-- The power of a nonnegative exponent. -/
theorem natCast_pow_toNat (b : Nat) {e : Int} (h : 0 ≤ e) :
    ((Nat.pow b e.toNat : Nat) : ℚ) = (b : ℚ) ^ e := by
  rw [Nat.pow_eq, Nat.cast_pow, ← zpow_natCast, Int.toNat_of_nonneg h]

/-- The power of the opposite of a negative exponent. -/
theorem natCast_pow_toNat_neg (b : Nat) {e : Int} (h : ¬ 0 ≤ e) :
    ((Nat.pow b (-e).toNat : Nat) : ℚ) = ((b : ℚ) ^ e)⁻¹ := by
  rw [natCast_pow_toNat b (by omega), zpow_neg]

theorem natCast_two_pow (n : Nat) : ((Nat.pow 2 n : Nat) : ℚ) = 2 ^ (n : Int) :=
  natCast_pow_toNat 2 (Int.natCast_nonneg n)

/-- A scaled number is a fraction with a power above or below. -/
theorem ratio_scaled (b m : Nat) (e : Int) :
    ratio (if 0 ≤ e then (m * Nat.pow b e.toNat, 1) else (m, Nat.pow b (-e).toNat))
      = m * (b : ℚ) ^ e := by
  unfold ratio
  split
  · rename_i h
    rw [Nat.cast_mul, natCast_pow_toNat b h, Nat.cast_one, div_one]
  · rename_i h
    rw [natCast_pow_toNat_neg b h, div_inv_eq_mul]

/-- A quotient in units of a power, as a quotient of natural numbers. -/
theorem units_eq (b num den : Nat) (e : Int) :
    (0 ≤ e → (num : ℚ) / (den * Nat.pow b e.toNat : Nat) = num / den / (b : ℚ) ^ e) ∧
      (¬ 0 ≤ e → ((num * Nat.pow b (-e).toNat : Nat) : ℚ) / den = num / den / (b : ℚ) ^ e) := by
  constructor
  · intro h
    rw [Nat.cast_mul, natCast_pow_toNat b h, div_div]
  · intro h
    rw [Nat.cast_mul, natCast_pow_toNat_neg b h, mul_comm, mul_div_assoc, mul_comm,
      ← div_eq_mul_inv]

theorem units_two (num den : Nat) (e : Int) :
    (0 ≤ e → (num : ℚ) / (den * Nat.pow 2 e.toNat : Nat) = num / den / 2 ^ e) ∧
      (¬ 0 ≤ e → ((num * Nat.pow 2 (-e).toNat : Nat) : ℚ) / den = num / den / 2 ^ e) :=
  units_eq 2 num den e

theorem ratio_dyadic (m : Nat) (e : Int) : ratio (dyadic m e) = m * 2 ^ e := ratio_scaled 2 m e

/-! ### Quotients -/

/-- The natural number nearest to a quotient. -/
theorem roundQuotient_eq {num den k : Nat} (hden : 0 < den)
    (h : Within (k % 2 == 0) (k - 1 / 2) (k + 1 / 2) ((num : ℚ) / den)) :
    roundQuotient num den = k := by
  have hdenq : (0 : ℚ) < den := by exact_mod_cast hden
  have hnum := Nat.div_add_mod num den
  have hmod := Nat.mod_lt num hden
  -- the bounds in natural numbers, with the denominators cleared
  have hlow : 2 * k * den ≤ 2 * num + den := by
    have hle := (le_div_iff₀ hdenq).1 h.le.1
    have hq : (2 * k * den : ℚ) ≤ 2 * num + den := by linarith
    exact_mod_cast hq
  have hhigh : 2 * num ≤ 2 * k * den + den := by
    have hle := (div_le_iff₀ hdenq).1 h.le.2
    have hq : (2 * num : ℚ) ≤ 2 * k * den + den := by linarith
    exact_mod_cast hq
  have hodd : k % 2 = 1 → 2 * k * den < 2 * num + den ∧ 2 * num < 2 * k * den + den := by
    intro hk
    rw [hk] at h
    have hlt := (lt_div_iff₀ hdenq).1 h.1
    have hlt' := (div_lt_iff₀ hdenq).1 h.2
    have hq : (2 * k * den : ℚ) < 2 * num + den := by linarith
    have hq' : (2 * num : ℚ) < 2 * k * den + den := by linarith
    exact ⟨by exact_mod_cast hq, by exact_mod_cast hq'⟩
  -- the nearest number is one of the two neighbours
  have hcases : k = num / den ∨ k = num / den + 1 := by
    have hle : k ≤ num / den + 1 := by
      by_contra hgt
      have hmul := Nat.mul_le_mul_right den (show num / den + 2 ≤ k by omega)
      linarith
    have hge : num / den ≤ k := by
      by_contra hlt
      have hmul := Nat.mul_le_mul_right den (show k + 1 ≤ num / den by omega)
      have hfloor := Nat.div_mul_le_self num den
      linarith
    omega
  unfold roundQuotient
  generalize num / den = q at *
  generalize num % den = r at *
  rcases hcases with rfl | rfl
  · have hhalf : 2 * r ≤ den := by linarith
    have hstrict : k % 2 = 1 → 2 * r < den := fun hk => by linarith [hodd hk]
    simp only
    split
    · rfl
    · split
      · omega
      · split <;> omega
  · have hhalf : den ≤ 2 * r := by linarith
    have hstrict : (q + 1) % 2 = 1 → den < 2 * r := fun hk => by linarith [hodd hk]
    simp only
    split
    · omega
    · split
      · rfl
      · split <;> omega

/-- Rounding stays below a natural bound. -/
theorem roundQuotient_le {num den k : Nat} (hden : 0 < den) (h : num ≤ k * den) :
    roundQuotient num den ≤ k := by
  have hq : num / den ≤ k := Nat.div_le_of_le_mul (by rwa [Nat.mul_comm])
  rcases Nat.lt_or_eq_of_le hq with hlt | heq
  · unfold roundQuotient
    simp only
    split
    · omega
    · split
      · omega
      · split <;> omega
  · have hmod : num % den = 0 := by
      have hnum := Nat.div_add_mod num den
      rw [heq] at hnum
      have hcomm := Nat.mul_comm den k
      omega
    unfold roundQuotient
    rw [heq, hmod]
    simp only [Nat.mul_zero, if_pos hden, Nat.le_refl]

/-- Rounding stays above a natural bound. -/
theorem le_roundQuotient {num den k : Nat} (hden : 0 < den) (h : k * den ≤ num) :
    k ≤ roundQuotient num den := by
  have hle : k ≤ num / den := (Nat.le_div_iff_mul_le hden).2 h
  unfold roundQuotient
  simp only
  split
  · exact hle
  · split
    · omega
    · split <;> omega

/-! ### Units -/

/-- The quotient of two positive numbers by their logarithms. -/
theorem log2_lt_ratio {num den : Nat} (hnum : 0 < num) (hden : 0 < den) :
    (2 : ℚ) ^ ((num.log2 : Int) - den.log2 - 1) < num / den ∧
      (num / den : ℚ) < 2 ^ ((num.log2 : Int) - den.log2 + 1) := by
  have hdenq : (0 : ℚ) < den := by exact_mod_cast hden
  have hlog : ∀ n : Nat, 0 < n →
      (2 : ℚ) ^ (n.log2 : Int) ≤ n ∧ (n : ℚ) < 2 ^ ((n.log2 : Int) + 1) := by
    intro n hn
    have hle := Nat.log2_self_le hn.ne'
    have hlt := Nat.lt_log2_self (n := n)
    refine ⟨by rw [zpow_natCast]; exact_mod_cast hle, ?_⟩
    rw [← Nat.cast_succ, zpow_natCast]
    exact_mod_cast hlt
  have hn := hlog num hnum
  have hd := hlog den hden
  constructor
  · rw [lt_div_iff₀ hdenq]
    calc (2 : ℚ) ^ ((num.log2 : Int) - den.log2 - 1) * den
        < 2 ^ ((num.log2 : Int) - den.log2 - 1) * 2 ^ ((den.log2 : Int) + 1) :=
          mul_lt_mul_of_pos_left hd.2 (two_zpow_pos _)
      _ = 2 ^ (num.log2 : Int) := by rw [← zpow_add₀ two_ne_zero]; congr 1; ring
      _ ≤ num := hn.1
  · rw [div_lt_iff₀ hdenq]
    calc (num : ℚ) < 2 ^ ((num.log2 : Int) + 1) := hn.2
      _ = 2 ^ ((num.log2 : Int) - den.log2 + 1) * 2 ^ (den.log2 : Int) := by
          rw [← zpow_add₀ two_ne_zero]; congr 1; ring
      _ ≤ 2 ^ ((num.log2 : Int) - den.log2 + 1) * den :=
          mul_le_mul_of_nonneg_left hd.1 (two_zpow_pos _).le

/-- The exponent of the last place is that of the binade, if the format has it. -/
theorem unitExponent_eq {F : FloatFormat} {num den : Nat} {e : Int} (hnum : 0 < num)
    (hden : 0 < den) (hlow : (2 : ℚ) ^ (F.precision - 1 + e) ≤ num / den)
    (hhigh : (num / den : ℚ) < 2 ^ (F.precision + e)) :
    unitExponent F num den = max F.minExponent e := by
  obtain ⟨hlog, hlog'⟩ := log2_lt_ratio hnum hden
  have hdenq : (0 : ℚ) < den := by exact_mod_cast hden
  have hfits : ∀ g : Int,
      (if 0 ≤ g then num / (den * Nat.pow 2 g.toNat) < Nat.pow 2 F.precision
        else num * Nat.pow 2 (-g).toNat / den < Nat.pow 2 F.precision) ↔
      (num / den : ℚ) < 2 ^ (F.precision + g) := by
    intro g
    have hpow : (2 : ℚ) ^ (F.precision + g) = (Nat.pow 2 F.precision : Nat) * 2 ^ g := by
      rw [natCast_two_pow, ← zpow_add₀ two_ne_zero]
    have hfloor : ∀ a b : Nat, 0 < b →
        (a / b < Nat.pow 2 F.precision ↔ (a / b : ℚ) < (Nat.pow 2 F.precision : Nat)) := by
      intro a b hb
      have hbq : (0 : ℚ) < b := by exact_mod_cast hb
      rw [Nat.div_lt_iff_lt_mul hb, div_lt_iff₀ hbq, ← Nat.cast_mul, Nat.cast_lt]
    rw [hpow, ← div_lt_iff₀ (two_zpow_pos g)]
    split
    · rename_i hg
      have hpos : 0 < den * Nat.pow 2 g.toNat := Nat.mul_pos hden (Nat.pow_pos (by decide))
      rw [hfloor _ _ hpos, (units_two num den g).1 hg]
    · rename_i hg
      rw [hfloor _ _ hden, (units_two num den g).2 hg]
  have hguess := hfits ((num.log2 : Int) - den.log2 - F.precision)
  have hlower := lt_of_two_zpow hlow hlog'
  have hupper := lt_of_two_zpow hlog.le hhigh
  unfold unitExponent
  simp only [hguess]
  split
  · rename_i hfit
    have hlt := lt_of_two_zpow hlow hfit
    congr 1
    omega
  · rename_i hfit
    have hlt := lt_of_two_zpow (not_lt.1 hfit) hhigh
    congr 1
    omega

/-- Every positive quotient lies in a binade. -/
theorem exists_binade (F : FloatFormat) {num den : Nat} (hnum : 0 < num) (hden : 0 < den) :
    ∃ e : Int, (2 : ℚ) ^ (F.precision - 1 + e) ≤ num / den ∧
      (num / den : ℚ) < 2 ^ (F.precision + e) := by
  have hx : (0 : ℚ) < num / den := by
    have hnumq : (0 : ℚ) < num := by exact_mod_cast hnum
    have hdenq : (0 : ℚ) < den := by exact_mod_cast hden
    positivity
  have hlow := Int.zpow_log_le_self (b := 2) (by decide) hx
  have hhigh := Int.lt_zpow_succ_log_self (b := 2) (by decide) (num / den : ℚ)
  refine ⟨Int.log 2 (num / den : ℚ) + 1 - F.precision, ?_, ?_⟩
  · rw [show (F.precision : Int) - 1 + (Int.log 2 (num / den : ℚ) + 1 - F.precision)
      = Int.log 2 (num / den : ℚ) by ring]
    exact_mod_cast hlow
  · rw [show (F.precision : Int) + (Int.log 2 (num / den : ℚ) + 1 - F.precision)
      = Int.log 2 (num / den : ℚ) + 1 by ring]
    exact_mod_cast hhigh

/-- The natural number nearest to a quotient in units of a power of two. -/
theorem roundAt_eq {num den k : Nat} {e : Int} (hden : 0 < den)
    (h : Within (k % 2 == 0) (k - 1 / 2) (k + 1 / 2) ((num : ℚ) / den / 2 ^ e)) :
    roundAt num den e = k := by
  unfold roundAt
  split
  · rename_i he
    rw [← (units_two num den e).1 he] at h
    exact roundQuotient_eq (Nat.mul_pos hden (Nat.pow_pos (by decide))) h
  · rename_i he
    rw [← (units_two num den e).2 he] at h
    exact roundQuotient_eq hden h

/-! ### Values -/

/-- Mantissas and exponents of a format: the mantissa has the whole precision, unless the exponent is
the least one. -/
structure Canonical (F : FloatFormat) (m : Nat) (e : Int) : Prop where
  mantissa : m < Nat.pow 2 F.precision
  least : F.minExponent ≤ e
  most : e ≤ F.maxExponent
  full : F.minExponent < e → Nat.pow 2 (F.precision - 1) ≤ m

/-- Values that the format has. -/
def IsCanonical {F : FloatFormat} : BinaryFloat F → Prop
  | .finite _ m e => Canonical F m e
  | _ => True

/-- The numbers between the midpoints around a value; the midpoints go to an even mantissa. -/
def Rounds (F : FloatFormat) (m : Nat) (e : Int) : ℚ → Prop :=
  Within (m % 2 == 0) (ratio (Shortest.lowerEnd F m e)) (ratio (Shortest.upperEnd m e))

theorem ratio_upperEnd (m : Nat) (e : Int) :
    ratio (Shortest.upperEnd m e) = (m + 1 / 2) * 2 ^ e := by
  rw [Shortest.upperEnd, ratio_dyadic, zpow_sub_one₀ two_ne_zero]
  push_cast
  ring

/-- The lower midpoint is half a unit below, or a quarter at the lower end of a binade. -/
theorem ratio_lowerEnd {F : FloatFormat} {m : Nat} (hm : 0 < m) (e : Int) :
    ratio (Shortest.lowerEnd F m e)
      = if m = Nat.pow 2 (F.precision - 1) ∧ F.minExponent < e then ((m : ℚ) - 1 / 4) * 2 ^ e
        else ((m : ℚ) - 1 / 2) * 2 ^ e := by
  unfold Shortest.lowerEnd
  split
  · rw [ratio_dyadic, Nat.cast_sub (by omega), zpow_sub₀ two_ne_zero]
    push_cast
    ring
  · rw [ratio_dyadic, Nat.cast_sub (by omega), zpow_sub_one₀ two_ne_zero]
    push_cast
    ring

/-- A number that rounds to a value is within half a unit of it. -/
theorem Rounds.within {F : FloatFormat} {m : Nat} {e : Int} {x : ℚ} (hm : 0 < m)
    (h : Rounds F m e x) : Within (m % 2 == 0) ((m - 1 / 2) * 2 ^ e) ((m + 1 / 2) * 2 ^ e) x := by
  have hpos := two_zpow_pos e
  unfold Rounds at h
  rw [ratio_upperEnd, ratio_lowerEnd hm] at h
  split at h
  · have hlow : ((m : ℚ) - 1 / 2) * 2 ^ e < (m - 1 / 4) * 2 ^ e :=
      mul_lt_mul_of_pos_right (by linarith) hpos
    generalize (m % 2 == 0) = closed at *
    cases closed with
    | true => exact ⟨hlow.le.trans h.1, h.2⟩
    | false => exact ⟨hlow.trans h.1, h.2⟩
  · exact h

theorem assemble_eq {F : FloatFormat} {m : Nat} {e : Int} (h : Canonical F m e) (negative : Bool) :
    (assemble negative m e : BinaryFloat F) = .finite negative m e := by
  have hne : m ≠ Nat.pow 2 F.precision := h.mantissa.ne
  have hmost : ¬ F.maxExponent < e := not_lt.2 h.most
  unfold assemble
  simp only [if_neg hne, if_neg hmost]

/-- A mantissa that outgrew the precision is the least one of the next binade. -/
theorem assemble_carry {F : FloatFormat} (hprecision : 0 < F.precision) {e : Int}
    (h : e ≤ F.maxExponent) (negative : Bool) :
    (assemble negative (Nat.pow 2 F.precision) (e - 1) : BinaryFloat F)
      = .finite negative (Nat.pow 2 (F.precision - 1)) e := by
  have hhalf : Nat.pow 2 F.precision / 2 = Nat.pow 2 (F.precision - 1) := by
    obtain ⟨p, hp⟩ : ∃ p, F.precision = p + 1 := ⟨F.precision - 1, by omega⟩
    rw [hp, Nat.pow_eq, Nat.pow_succ, Nat.mul_div_cancel _ (by decide)]
    rfl
  have hmost : ¬ F.maxExponent < e := not_lt.2 h
  unfold assemble
  simp only [if_true, hhalf, sub_add_cancel, if_neg hmost]

theorem natCast_pow_pred {F : FloatFormat} (hprecision : 0 < F.precision) :
    ((Nat.pow 2 (F.precision - 1) : Nat) : ℚ) = 2 ^ (F.precision - 1 : Int) := by
  rw [natCast_two_pow, Nat.cast_sub hprecision, Nat.cast_one]

/-- A number that rounds to a value of a higher binade is just below that binade. -/
theorem Rounds.carry {F : FloatFormat} (hprecision : 0 < F.precision) {m : Nat} {e b : Int} {x : ℚ}
    (h : Canonical F m e) (hm : 0 < m) (hx : Rounds F m e x) (hleast : F.minExponent < e)
    (hb : b < e) (hhigh : x < 2 ^ (F.precision + b)) :
    m = Nat.pow 2 (F.precision - 1) ∧ b = e - 1 ∧
      (((Nat.pow 2 F.precision : Nat) : ℚ) - 1 / 2) * 2 ^ (e - 1) ≤ x := by
  have hpos := two_zpow_pos e
  have hpred := natCast_pow_pred hprecision
  have hfullq : (2 : ℚ) ^ (F.precision - 1 : Int) ≤ m := by
    rw [← hpred]
    exact_mod_cast h.full hleast
  have hbinade : x < 2 ^ (F.precision - 1 : Int) * 2 ^ e := by
    rw [← zpow_add₀ two_ne_zero]
    exact hhigh.trans_le (two_zpow_le (by omega))
  have hmant : m = Nat.pow 2 (F.precision - 1) := by
    by_contra hne
    have hmore : (2 : ℚ) ^ (F.precision - 1 : Int) + 1 ≤ m := by
      rw [← hpred]
      exact_mod_cast lt_of_le_of_ne (h.full hleast) (Ne.symm hne)
    have hge : (2 : ℚ) ^ (F.precision - 1 : Int) * 2 ^ e ≤ (m - 1 / 2) * 2 ^ e :=
      mul_le_mul_of_nonneg_right (by linarith) hpos.le
    exact absurd hbinade (not_lt.2 (hge.trans (hx.within hm).le.1))
  have hlow : ((m : ℚ) - 1 / 4) * 2 ^ e ≤ x := by
    have hle := hx.le.1
    rwa [ratio_lowerEnd hm, if_pos ⟨hmant, hleast⟩] at hle
  have htwice : ((Nat.pow 2 F.precision : Nat) : ℚ) = 2 * m := by
    rw [hmant, hpred, natCast_two_pow, zpow_sub_one₀ two_ne_zero]
    ring
  have hquarter : ((Nat.pow 2 F.precision : Nat) - 1 / 2 : ℚ) * 2 ^ (e - 1)
      = (m - 1 / 4) * 2 ^ e := by
    rw [htwice, zpow_sub_one₀ two_ne_zero]
    ring
  refine ⟨hmant, ?_, by rw [hquarter]; exact hlow⟩
  have hone : (1 : ℚ) ≤ 2 ^ (F.precision - 1 : Int) := by
    rw [← hpred]
    exact_mod_cast Nat.one_le_two_pow
  have hhalf : (2 : ℚ) ^ (F.precision - 1 + (e - 1)) ≤ x := by
    rw [zpow_add₀ two_ne_zero]
    refine le_trans (mul_le_mul_of_nonneg_right ?_ (two_zpow_pos _).le) (hquarter ▸ hlow)
    rw [htwice]
    linarith
  have := lt_of_two_zpow hhalf hhigh
  omega

/-- A quotient between the midpoints around a value rounds to the value. -/
theorem ofRatio_eq {F : FloatFormat} (hprecision : 2 ≤ F.precision) {m : Nat} {e : Int}
    (h : Canonical F m e) (hm : 0 < m) {num den : Nat} (hden : 0 < den)
    (hx : Rounds F m e ((num : ℚ) / den)) (negative : Bool) :
    (ofRatio negative num den : BinaryFloat F) = .finite negative m e := by
  have hmq : (1 : ℚ) ≤ m := by exact_mod_cast hm
  have hwithin := hx.within hm
  have hpos := two_zpow_pos e
  have hnum : 0 < num := by
    have hlow : 0 < ((m : ℚ) - 1 / 2) * 2 ^ e := mul_pos (by linarith) hpos
    have hratio : (0 : ℚ) < num / den := hlow.trans_le hwithin.le.1
    rcases Nat.eq_zero_or_pos num with rfl | hnum
    · rw [Nat.cast_zero, zero_div] at hratio
      exact absurd hratio (lt_irrefl 0)
    · exact hnum
  obtain ⟨b, hlow, hhigh⟩ := exists_binade F hnum hden
  have hunit := unitExponent_eq hnum hden hlow hhigh
  have hb : b ≤ e := by
    have hmant : (m : ℚ) + 1 ≤ 2 ^ (F.precision : Int) := by
      rw [← natCast_two_pow]
      exact_mod_cast h.mantissa
    have hlt : ((m : ℚ) + 1 / 2) * 2 ^ e < 2 ^ (F.precision + e) := by
      rw [zpow_add₀ two_ne_zero]
      exact mul_lt_mul_of_pos_right (by linarith) hpos
    have := lt_of_two_zpow hlow (hwithin.le.2.trans_lt hlt)
    omega
  unfold ofRatio
  rw [if_neg (by omega)]
  simp only [hunit]
  by_cases hplace : max F.minExponent b = e
  · -- the unit is that of the value
    rw [hplace, roundAt_eq hden (hwithin.div hpos)]
    exact assemble_eq h negative
  · -- the quotient lies below the binade of the value and is rounded up into it
    have hleast := h.least
    have hbelow : F.minExponent < e ∧ b < e := by omega
    obtain ⟨hmant, hexp, hupper⟩ := hx.carry (by omega) h hm hbelow.1 hbelow.2 hhigh
    have heven : (Nat.pow 2 F.precision % 2 == 0) = true := by
      have hdvd : 2 ∣ 2 ^ F.precision := dvd_pow_self 2 (by omega)
      exact beq_iff_eq.2 (Nat.mod_eq_zero_of_dvd hdvd)
    have hnear : Within (Nat.pow 2 F.precision % 2 == 0)
        (((Nat.pow 2 F.precision : Nat) - 1 / 2 : ℚ) * 2 ^ (e - 1))
        (((Nat.pow 2 F.precision : Nat) + 1 / 2 : ℚ) * 2 ^ (e - 1)) (num / den) := by
      rw [heven]
      refine ⟨hupper, hhigh.le.trans ?_⟩
      rw [hexp, zpow_add₀ two_ne_zero, natCast_two_pow]
      exact mul_le_mul_of_nonneg_right (by linarith) (two_zpow_pos _).le
    rw [show max F.minExponent b = e - 1 by omega, roundAt_eq hden (hnear.div (two_zpow_pos _)),
      assemble_carry (by omega) h.most, hmant]

/-- Rounding in units of a power of two stays between natural bounds. -/
theorem roundAt_bounds {num den k : Nat} {e : Int} (hden : 0 < den) :
    ((num / den : ℚ) ≤ k * 2 ^ e → roundAt num den e ≤ k) ∧
      ((k : ℚ) * 2 ^ e ≤ num / den → k ≤ roundAt num den e) := by
  have hpos := two_zpow_pos e
  have hbounds : ∀ a b : Nat, 0 < b → (a / b : ℚ) = num / den / 2 ^ e →
      ((num / den : ℚ) ≤ k * 2 ^ e → roundQuotient a b ≤ k) ∧
        ((k : ℚ) * 2 ^ e ≤ num / den → k ≤ roundQuotient a b) := by
    intro a b hb hunits
    have hbq : (0 : ℚ) < b := by exact_mod_cast hb
    constructor
    · intro h
      rw [← div_le_iff₀ hpos, ← hunits, div_le_iff₀ hbq] at h
      exact roundQuotient_le hb (by exact_mod_cast h)
    · intro h
      rw [← le_div_iff₀ hpos, ← hunits, le_div_iff₀ hbq] at h
      exact le_roundQuotient hb (by exact_mod_cast h)
  unfold roundAt
  split
  · rename_i he
    exact hbounds _ _ (Nat.mul_pos hden (Nat.pow_pos (by decide))) ((units_two num den e).1 he)
  · rename_i he
    exact hbounds _ _ hden ((units_two num den e).2 he)

/-- A mantissa of at most the precision, with the exponent of its place, is assembled to a canonical
value. -/
theorem assemble_canonical {F : FloatFormat} (hprecision : 0 < F.precision) {k m : Nat} {u e : Int}
    {negative sign : Bool} (hmost : k ≤ Nat.pow 2 F.precision) (hleast : F.minExponent ≤ u)
    (hfull : F.minExponent < u → Nat.pow 2 (F.precision - 1) ≤ k)
    (h : (assemble negative k u : BinaryFloat F) = .finite sign m e) :
    sign = negative ∧ Canonical F m e := by
  have hpred : Nat.pow 2 (F.precision - 1) < Nat.pow 2 F.precision :=
    Nat.pow_lt_pow_right (by decide) (by omega)
  by_cases hcarry : k = Nat.pow 2 F.precision
  · by_cases hrange : u + 1 ≤ F.maxExponent
    · rw [hcarry, show u = u + 1 - 1 by omega, assemble_carry hprecision hrange] at h
      cases h
      exact ⟨rfl, hpred, by omega, hrange, fun _ => Nat.le_refl _⟩
    · unfold assemble at h
      simp only [hcarry, if_true, if_pos (not_le.1 hrange)] at h
      cases h
  · unfold assemble at h
    simp only [if_neg hcarry] at h
    split at h
    · cases h
    · rename_i hrange
      cases h
      exact ⟨rfl, lt_of_le_of_ne hmost hcarry, hleast, not_lt.1 hrange, hfull⟩

theorem canonical_zero {F : FloatFormat} (hrange : F.minExponent ≤ F.maxExponent) :
    Canonical F 0 F.minExponent :=
  ⟨Nat.pow_pos (by decide), Int.le_refl _, hrange, fun h => absurd h (Int.lt_irrefl _)⟩

/-- Rounding gives canonical mantissas and exponents. -/
theorem ofRatio_canonical {F : FloatFormat} (hprecision : 0 < F.precision)
    (hrange : F.minExponent ≤ F.maxExponent) {num den m : Nat} {e : Int} {negative sign : Bool}
    (h : (ofRatio negative num den : BinaryFloat F) = .finite sign m e) :
    sign = negative ∧ Canonical F m e := by
  unfold ofRatio at h
  split at h
  · cases h
    exact ⟨rfl, canonical_zero hrange⟩
  · rename_i hpos
    have hnum : 0 < num := by omega
    have hden : 0 < den := by omega
    obtain ⟨b, hlow, hhigh⟩ := exists_binade F hnum hden
    have hunit := unitExponent_eq hnum hden hlow hhigh
    refine assemble_canonical hprecision ?_ ?_ (fun hless => ?_) h
    · refine (roundAt_bounds hden).1 (hhigh.le.trans ?_)
      rw [natCast_two_pow, ← zpow_add₀ two_ne_zero, hunit]
      exact two_zpow_le (by omega)
    · rw [hunit]
      exact Int.le_max_left _ _
    · refine (roundAt_bounds hden).2 (le_trans ?_ hlow)
      rw [hunit] at hless ⊢
      rw [natCast_pow_pred hprecision, ← zpow_add₀ two_ne_zero]
      exact two_zpow_le (by omega)

end BinaryFloat

end Polyquery
