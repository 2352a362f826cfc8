import Polyquery.Text.Letter

/-!
# Classes of characters

* `isBlank_of_isAlphanumeric`, `isAlphabetic_of_isAsciiDigit` - how the classes exclude each other;
* `takeWhile_append_run`, `dropWhile_append_run` - a run of one class in front of a text.
-/

namespace Polyquery.Text

/-! ### Character classes -/

/-- Whether no range of one table meets a range of the other. -/
def rangesApart (rs ss : Array (Nat × Nat)) : Bool :=
  rs.toList.all fun r => ss.toList.all fun s => decide (r.2 < s.1) || decide (s.2 < r.1)

theorem inRanges_of_rangesApart {rs ss : Array (Nat × Nat)} (h : rangesApart rs ss = true)
    {n : Nat} (hr : inRanges rs n = true) : inRanges ss n = false := by
  rw [← Bool.not_eq_true]
  intro hs
  simp only [inRanges, ← Array.any_toList, List.any_eq_true, Bool.and_eq_true,
    decide_eq_true_eq] at hr hs
  obtain ⟨r, hr, hr1, hr2⟩ := hr
  obtain ⟨s, hs, hs1, hs2⟩ := hs
  simp only [rangesApart, List.all_eq_true, Bool.or_eq_true, decide_eq_true_eq] at h
  have := h r hr s hs
  omega

theorem rangesApart_blank : rangesApart alphabeticRanges blankRanges = true ∧
    rangesApart numericRanges blankRanges = true := by
  decide +kernel

theorem isBlank_of_isAsciiLetter {c : Char} (h : isAsciiLetter c = true) : isBlank c = false := by
  simp only [isAsciiLetter, Bool.or_eq_true, Bool.and_eq_true, decide_eq_true_eq] at h
  have hc : c.toNat < 128 := by omega
  simp only [isBlank, if_pos hc, Bool.or_eq_false_iff, Bool.and_eq_false_iff, beq_eq_false_iff_ne,
    decide_eq_false_iff_not]
  omega

theorem isBlank_of_isAlphabetic {c : Char} (h : isAlphabetic c = true) : isBlank c = false := by
  unfold isAlphabetic at h
  split at h
  · exact isBlank_of_isAsciiLetter h
  · rename_i hc
    rw [isBlank, if_neg hc]
    exact inRanges_of_rangesApart rangesApart_blank.1 h

theorem isBlank_of_isAsciiDigit {c : Char} (h : isAsciiDigit c = true) : isBlank c = false := by
  simp only [isAsciiDigit, Bool.and_eq_true, decide_eq_true_eq] at h
  have hc : c.toNat < 128 := by omega
  simp only [isBlank, if_pos hc, Bool.or_eq_false_iff, Bool.and_eq_false_iff, beq_eq_false_iff_ne,
    decide_eq_false_iff_not]
  omega

theorem isBlank_of_isAlphanumeric {c : Char} (h : isAlphanumeric c = true) :
    isBlank c = false := by
  simp only [isAlphanumeric, Bool.or_eq_true] at h
  rcases h with h | h
  · exact isBlank_of_isAlphabetic h
  · unfold isNumeric at h
    split at h
    · exact isBlank_of_isAsciiDigit h
    · rename_i hc
      rw [isBlank, if_neg hc]
      exact inRanges_of_rangesApart rangesApart_blank.2 h

theorem isAlphanumeric_of_isAsciiDigit {c : Char} (h : isAsciiDigit c = true) :
    isAlphanumeric c = true := by
  have hc : c.toNat < 128 := by
    simp only [isAsciiDigit, Bool.and_eq_true, decide_eq_true_eq] at h
    omega
  simp only [isAlphanumeric, isNumeric, if_pos hc, h, Bool.or_true]

theorem isAlphabetic_of_isAsciiDigit {c : Char} (h : isAsciiDigit c = true) :
    isAlphabetic c = false := by
  simp only [isAsciiDigit, Bool.and_eq_true, decide_eq_true_eq] at h
  have hc : c.toNat < 128 := by omega
  simp only [isAlphabetic, if_pos hc, isAsciiLetter, Bool.or_eq_false_iff, Bool.and_eq_false_iff,
    decide_eq_false_iff_not]
  omega

/-! ### Runs of characters -/

theorem takeWhile_append_run (p : Char → Bool) {cs rest : List Char} (h : ∀ c ∈ cs, p c = true)
    (hr : ∀ c ∈ rest.head?, p c = false) : (cs ++ rest).takeWhile p = cs := by
  rw [List.takeWhile_append_of_pos h]
  cases rest with
  | nil => simp
  | cons c rest => simp [hr c (by simp)]

theorem dropWhile_append_run (p : Char → Bool) {cs rest : List Char} (h : ∀ c ∈ cs, p c = true)
    (hr : ∀ c ∈ rest.head?, p c = false) : (cs ++ rest).dropWhile p = rest := by
  rw [List.dropWhile_append_of_pos h]
  cases rest with
  | nil => rfl
  | cons c rest => simp [hr c (by simp)]

end Polyquery.Text
