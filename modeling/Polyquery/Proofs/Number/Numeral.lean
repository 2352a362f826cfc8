import Mathlib.Tactic.Ring
import Polyquery.Proofs.Characters
import Polyquery.Proofs.LiteralText

/-!
# Numerals

The texts of numbers with an optional point and an optional exponent.

* `digitsValue_append` - the number that joined digits write;
* `Writes` - the text of a numeral with its digits and its exponent;
* `Writes.parse` - such a text is read as its digits and its exponent.
-/

namespace Polyquery

namespace BinaryFloat

/-! ### Digits -/

theorem digitsValue_append (a b : List Char) :
    digitsValue (a ++ b) = digitsValue a * Nat.pow 10 b.length + digitsValue b := by
  have hfold : ∀ (b : List Char) (n : Nat),
      b.foldl (fun n c => 10 * n + (c.toNat - 48)) n
        = n * Nat.pow 10 b.length + digitsValue b := by
    intro b
    induction b with
    | nil => intro n; simp [digitsValue]
    | cons c b ih =>
      intro n
      have hcons : digitsValue (c :: b) = (c.toNat - 48) * Nat.pow 10 b.length + digitsValue b := by
        rw [digitsValue, List.foldl_cons, Nat.mul_zero, Nat.zero_add]
        exact ih _
      rw [List.foldl_cons, ih, hcons, List.length_cons]
      simp only [Nat.pow_eq, Nat.pow_succ]
      ring
  rw [digitsValue, List.foldl_append]
  exact hfold b _

/-- Zeros in front of digits add nothing. -/
theorem digitsValue_zeros (n : Nat) : digitsValue (List.replicate n '0') = 0 := by
  induction n with
  | zero => rfl
  | succ n ih =>
    rw [List.replicate_succ', digitsValue_append, ih]
    rfl

/-! ### Numerals -/

/-- Characters that are all digits. -/
def AllDigits (cs : List Char) : Prop := ∀ c ∈ cs, Text.isAsciiDigit c = true

theorem allDigits_toDigits (n : Nat) : AllDigits (Nat.toDigits 10 n) :=
  fun _ hc => Integer.isAsciiDigit_of_mem_toDigits hc

theorem allDigits_zeros (n : Nat) : AllDigits (List.replicate n '0') := by
  intro c hc
  rw [List.eq_of_mem_replicate hc]
  decide

theorem AllDigits.append {a b : List Char} (ha : AllDigits a) (hb : AllDigits b) :
    AllDigits (a ++ b) := fun c hc => (List.mem_append.1 hc).elim (ha c) (hb c)

/-- The exponent part of a numeral, with the exponent. -/
inductive WritesExponent : List Char → Int → Prop where
  | absent : WritesExponent [] 0
  | present {sign : List Char} (e : Int) :
      (sign = if e < 0 then ['-'] else []) ∨ (sign = ['+'] ∧ 0 ≤ e) →
      WritesExponent ('e' :: (sign ++ Nat.toDigits 10 e.natAbs)) e

/-- The text of a numeral, with its digits as a number and the power of ten that scales it. -/
inductive Writes : List Char → Nat → Int → Prop where
  | plain {whole tail : List Char} {e : Int} :
      whole ≠ [] → AllDigits whole → WritesExponent tail e →
      Writes (whole ++ tail) (digitsValue whole) e
  | pointed {whole fraction tail : List Char} {e : Int} :
      whole ≠ [] → AllDigits whole → AllDigits fraction → WritesExponent tail e →
      Writes (whole ++ '.' :: (fraction ++ tail)) (digitsValue (whole ++ fraction))
        (e - fraction.length)

theorem WritesExponent.value {cs : List Char} {e : Int} (h : WritesExponent cs e) :
    exponentValue? cs = some e := by
  cases h with
  | absent => rfl
  | @present sign e hsign =>
    have hne : (Nat.toDigits 10 e.natAbs).isEmpty = false :=
      List.isEmpty_eq_false_iff.2 Nat.toDigits_ne_nil
    have hall := Integer.all_isAsciiDigit_toDigits e.natAbs
    have hvalue := Integer.digitsValue_toDigits e.natAbs
    have hread : ∀ negative, splitSign (sign ++ Nat.toDigits 10 e.natAbs)
        = (negative, Nat.toDigits 10 e.natAbs) → (if negative then -(e.natAbs : Int) else e.natAbs) = e →
        exponentValue? ('e' :: (sign ++ Nat.toDigits 10 e.natAbs)) = some e := by
      intro negative hsplit hnegative
      simp only [exponentValue?, true_or, if_true, hsplit, hne, hall, hvalue, Bool.not_true,
        Bool.or_self, Bool.false_eq_true, if_false, hnegative]
    rcases hsign with rfl | ⟨rfl, hpos⟩
    · by_cases hneg : e < 0
      · rw [if_pos hneg] at hread ⊢
        exact hread true rfl (by simp only [if_true]; omega)
      · rw [if_neg hneg] at hread ⊢
        exact hread false (Integer.splitSign_toDigits _) (by simp only [Bool.false_eq_true, if_false]; omega)
    · exact hread false rfl (by simp only [Bool.false_eq_true, if_false]; omega)

/-- What follows the digits of a numeral is no digit and no point. -/
theorem WritesExponent.head {cs : List Char} {e : Int} (h : WritesExponent cs e) :
    ∀ c ∈ cs.head?, c = 'e' := by
  cases h with
  | absent => simp
  | present e _ => simp

/-- A numeral starts with a digit. -/
theorem Writes.head {cs : List Char} {n : Nat} {e : Int} (h : Writes cs n e) :
    ∃ c rest, cs = c :: rest ∧ Text.isAsciiDigit c = true := by
  cases h with
  | @plain whole tail e hne hdigits _ =>
    obtain ⟨c, whole, rfl⟩ := List.exists_cons_of_ne_nil hne
    exact ⟨c, whole ++ tail, rfl, hdigits c List.mem_cons_self⟩
  | @pointed whole fraction tail e hne hdigits _ _ =>
    obtain ⟨c, whole, rfl⟩ := List.exists_cons_of_ne_nil hne
    exact ⟨c, _, rfl, hdigits c List.mem_cons_self⟩

/-- A numeral is read as its digits and its exponent. -/
theorem Writes.parseUnsigned {F : FloatFormat} {cs : List Char} {n : Nat} {e : Int}
    (h : Writes cs n e) (negative : Bool) :
    (parseUnsigned? negative cs : Option (BinaryFloat F)) = some (ofDecimal negative n e) := by
  cases h with
  | @plain whole tail e hne hdigits htail =>
    have hend : ∀ c ∈ tail.head?, Text.isAsciiDigit c = false := by
      intro c hc
      rw [htail.head c hc]
      decide
    have hpoint : ∀ rest, tail ≠ '.' :: rest := by
      rintro rest rfl
      exact absurd (htail.head '.' rfl) (by decide)
    have hempty : whole.isEmpty = false := List.isEmpty_eq_false_iff.2 hne
    unfold parseUnsigned?
    simp only [Text.takeWhile_append_run _ hdigits hend, Text.dropWhile_append_run _ hdigits hend]
    simp [hempty, htail.value]
  | @pointed whole fraction tail e hne hdigits hfraction htail =>
    have hend : ∀ c ∈ tail.head?, Text.isAsciiDigit c = false := by
      intro c hc
      rw [htail.head c hc]
      decide
    have hpoint : ∀ c ∈ ('.' :: (fraction ++ tail)).head?, Text.isAsciiDigit c = false := by
      intro c hc
      obtain rfl : '.' = c := by simpa using hc
      decide
    have hempty : whole.isEmpty = false := List.isEmpty_eq_false_iff.2 hne
    unfold parseUnsigned?
    simp only [Text.takeWhile_append_run _ hdigits hpoint, Text.dropWhile_append_run _ hdigits hpoint,
      Text.takeWhile_append_run _ hfraction hend, Text.dropWhile_append_run _ hfraction hend]
    simp [hempty, htail.value]

theorem splitSign_of_digit {c : Char} (h : Text.isAsciiDigit c = true) (rest : List Char) :
    splitSign (c :: rest) = (false, c :: rest) := by
  unfold splitSign
  split
  · rename_i heq
    obtain ⟨rfl, -⟩ := List.cons.inj heq
    exact absurd h (by decide)
  · rename_i heq
    obtain ⟨rfl, -⟩ := List.cons.inj heq
    exact absurd h (by decide)
  · rfl

/-- A numeral with an optional minus sign is read as its digits and its exponent. -/
theorem Writes.parse {F : FloatFormat} {cs : List Char} {n : Nat} {e : Int}
    (h : Writes cs n e) (negative : Bool) :
    (parse? (if negative then '-' :: cs else cs) : Option (BinaryFloat F))
      = some (ofDecimal negative n e) := by
  obtain ⟨c, rest, rfl, hdigit⟩ := h.head
  have hsplit : splitSign (if negative then '-' :: c :: rest else c :: rest)
      = (negative, c :: rest) := by
    cases negative with
    | true => rfl
    | false => exact splitSign_of_digit hdigit rest
  have hbounds : 48 ≤ c.toNat ∧ c.toNat ≤ 57 := by
    simpa [Text.isAsciiDigit] using hdigit
  have hlower : (if 65 ≤ c.toNat ∧ c.toNat ≤ 90 then Char.ofNat (c.toNat + 32) else c) = c :=
    if_neg (by omega)
  have hletter : ∀ d word ws, d = 'i' ∨ d = 'n' → c :: ws ≠ d :: word := by
    intro d word ws hd heq
    obtain ⟨rfl, -⟩ := List.cons.inj heq
    rcases hd with rfl | rfl
    · exact absurd hdigit (by decide)
    · exact absurd hdigit (by decide)
  have hinfinite : ∀ ws, ¬ (c :: ws = "inf".toList ∨ c :: ws = "infinity".toList) := by
    rintro ws (heq | heq)
    · exact hletter 'i' _ ws (.inl rfl) heq
    · exact hletter 'i' _ ws (.inl rfl) heq
  have hnan : ∀ ws, c :: ws ≠ "nan".toList := fun ws => hletter 'n' _ ws (.inr rfl)
  unfold parse?
  rw [hsplit]
  simp only [List.map_cons, hlower, if_neg (hinfinite _), if_neg (hnan _)]
  exact h.parseUnsigned negative

end BinaryFloat

end Polyquery
