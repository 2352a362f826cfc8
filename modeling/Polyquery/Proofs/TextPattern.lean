import Polyquery.Expr.TextPattern
import Polyquery.OData.Functions

/-!
# Patterns read back from their regular expressions

The recogniser of text patterns undoes their construction, with one exception: the expression of a
suffix that ends in a backslash looks like an escaped anchor and is not recognised.

* `TextPattern.escape_cons`, `TextPattern.unescape?_escape` - escaped text and its literal text;
* `TextPattern.Recognised` - the patterns that the recogniser knows;
* `TextPattern.ofRegex?_regex`, `TextPattern.ofRegex?_regex_of_not` - what it makes of the others;
* `TextPattern.ofRegex?_of_test` - which of the tests that expressions build it knows.
-/

namespace Polyquery.TextPattern

/-! ### Escaped text -/

/-- The escaped form of one character. -/
theorem escape_cons (c : Char) (cs : List Char) :
    escape (c :: cs) = (if isEscaped c then ['\\', c] else [c]) ++ escape cs := rfl

theorem escape_append (as bs : List Char) : escape (as ++ bs) = escape as ++ escape bs :=
  List.flatMap_append

theorem isEscaped_of_isOperator {c : Char} (h : isOperator c = true) : isEscaped c = true := by
  simp only [isOperator, decide_eq_true_eq] at h
  have hall : ['.', '+', '*', '?', '(', ')', '|', '[', ']', '\x7b', '\x7d', '^', '$'].all isEscaped
      = true := by decide
  exact List.all_eq_true.1 hall c h

theorem isAlphanumeric_of_isEscaped {c : Char} (h : isEscaped c = true) :
    Text.isAlphanumeric c = false := by
  simp only [isEscaped, decide_eq_true_eq] at h
  have hall : (['\\', '.', '+', '*', '?', '(', ')', '|', '[', ']', '\x7b', '\x7d', '^', '$', '#',
      '&', '-', '~'].all fun d => !Text.isAlphanumeric d) = true := by decide
  simpa using List.all_eq_true.1 hall c h

/-- Text behind an escaped one is read on its own. -/
theorem unescape?_escape_append (cs rest : List Char) :
    unescape? (escape cs ++ rest) = (unescape? rest).map (cs ++ ·) := by
  induction cs with
  | nil =>
    show unescape? rest = _
    cases unescape? rest <;> rfl
  | cons c cs ih =>
    have hmap : ((unescape? rest).map (cs ++ ·)).map (c :: ·)
        = (unescape? rest).map (c :: cs ++ ·) := by
      rw [Option.map_map]
      rfl
    rw [escape_cons]
    by_cases hc : isEscaped c = true
    · rw [if_pos hc]
      show unescape? ('\\' :: c :: (escape cs ++ rest)) = _
      rw [unescape?, if_neg (by simp [isAlphanumeric_of_isEscaped hc]), ih, hmap]
    · have hslash : c ≠ '\\' := by
        rintro rfl
        exact hc (by decide)
      have hop : isOperator c = false := by
        rw [← Bool.not_eq_true]
        exact fun h => hc (isEscaped_of_isOperator h)
      rw [if_neg hc]
      show unescape? (c :: (escape cs ++ rest)) = _
      rw [unescape?.eq_4 _ _ (fun h _ => hslash h) (fun _ _ h _ => hslash h), hop, if_neg (by simp),
        ih, hmap]

theorem unescape?_escape (cs : List Char) : unescape? (escape cs) = some cs := by
  have h := unescape?_escape_append cs []
  rw [List.append_nil] at h
  rw [h, unescape?, Option.map_some, List.append_nil]

/-- No escaped text starts with an operator. -/
theorem head?_escape (cs : List Char) : ∀ c ∈ (escape cs).head?, isOperator c = false := by
  intro c hc
  cases cs with
  | nil => cases hc
  | cons d cs =>
    rw [escape_cons] at hc
    by_cases hd : isEscaped d = true
    · rw [if_pos hd] at hc
      obtain rfl : '\\' = c := by simpa using hc
      decide
    · rw [if_neg hd] at hc
      obtain rfl : d = c := by simpa using hc
      rw [← Bool.not_eq_true]
      exact fun h => hd (isEscaped_of_isOperator h)

/-! ### Ends of escaped text -/

theorem endsIn_append_singleton (c : Char) (tail cs : List Char) (d : Char) :
    endsIn (tail ++ [c]) (cs ++ [d]) = (c == d && endsIn tail cs) := by
  simp only [endsIn, List.reverse_append, List.reverse_singleton, List.singleton_append]
  rfl

theorem endsIn_nil (cs : List Char) : endsIn [] cs = true := rfl

theorem endsIn_singleton (c : Char) (cs : List Char) (d : Char) :
    endsIn [c] (cs ++ [d]) = (c == d) := by
  have h := endsIn_append_singleton c [] cs d
  rw [List.nil_append, endsIn_nil, Bool.and_true] at h
  exact h

/-- An escaped text ends in a dollar sign only behind a backslash. -/
theorem endsIn_dollar_escape (cs : List Char) :
    endsIn ['$'] (escape cs) = endsIn ['\\', '$'] (escape cs) := by
  rcases List.eq_nil_or_concat cs with rfl | ⟨init, c, rfl⟩
  · rfl
  · have hlast : escape [c] = if isEscaped c then ['\\', c] else [c] := List.append_nil _
    rw [List.concat_eq_append, escape_append, hlast]
    by_cases hc : isEscaped c = true
    · rw [if_pos hc]
      have hsplit : escape init ++ ['\\', c] = (escape init ++ ['\\']) ++ [c] := by simp
      rw [hsplit, endsIn_singleton]
      have h := endsIn_append_singleton '$' ['\\'] (escape init ++ ['\\']) c
      rw [endsIn_singleton] at h
      simpa using h.symm
    · have hd : ('$' == c) = false := by
        rw [beq_eq_false_iff_ne]
        rintro rfl
        exact hc (by decide)
      have h := endsIn_append_singleton '$' ['\\'] (escape init) c
      rw [if_neg hc, endsIn_singleton, hd]
      rw [hd, Bool.false_and] at h
      exact h.symm

/-- An escaped text that ends in a dollar sign ends in a backslash without it. -/
theorem endsIn_dropLast_escape {cs : List Char} (h : endsIn ['$'] (escape cs) = true) :
    endsIn ['\\'] (escape cs).dropLast = true := by
  rw [endsIn_dollar_escape] at h
  rcases List.eq_nil_or_concat (escape cs) with hnil | ⟨init, c, hcs⟩
  · rw [hnil] at h
    cases h
  · rw [List.concat_eq_append] at hcs
    rw [hcs] at h ⊢
    have hsplit := endsIn_append_singleton '$' ['\\'] init c
    rw [List.dropLast_concat]
    rw [show (['\\', '$'] : List Char) = ['\\'] ++ ['$'] from rfl, hsplit, Bool.and_eq_true] at h
    exact h.2

/-! ### Patterns -/

/-- The patterns whose shape can be told from their regular expression. -/
def Recognised : TextPattern → Prop
  | .endsWith s => endsIn ['\\'] (escape s.toList) = false
  | _ => True

theorem ofRegex?_regex {p : TextPattern} (h : p.Recognised) : ofRegex? p.regex = some p := by
  rw [ofRegex?, regex, String.toList_ofList]
  cases p with
  | startsWith s =>
    show ofRegexChars? ('^' :: escape s.toList) = _
    have hend :
        (endsIn ['$'] (escape s.toList) && !endsIn ['\\', '$'] (escape s.toList)) = false := by
      rw [endsIn_dollar_escape, Bool.and_not_self]
    simp only [ofRegexChars?, hend, Bool.false_eq_true, if_false, unescape?_escape, Option.map_some,
      String.ofList_toList]
  | endsWith s =>
    show ofRegexChars? (escape s.toList ++ ['$']) = _
    have hhead : ∀ rest, escape s.toList ++ ['$'] ≠ '^' :: rest := by
      intro rest heq
      cases hs : escape s.toList with
      | nil =>
        rw [hs] at heq
        exact absurd (List.cons.inj heq).1 (by decide)
      | cons c cs =>
        have hc := head?_escape s.toList c (by rw [hs]; rfl)
        rw [hs] at heq
        rw [(List.cons.inj heq).1] at hc
        cases hc
    unfold ofRegexChars?
    split
    · rename_i rest heq
      exact absurd heq (hhead rest)
    · have hs : endsIn ['\\'] (escape s.toList) = false := h
      rw [endsIn_singleton, List.dropLast_concat, hs]
      simp [unescape?_escape]
  | contains s =>
    show ofRegexChars? (escape s.toList) = _
    have hend : (endsIn ['$'] (escape s.toList) && !endsIn ['\\'] (escape s.toList).dropLast)
        = false := by
      cases hdollar : endsIn ['$'] (escape s.toList) with
      | false => rfl
      | true => rw [endsIn_dropLast_escape hdollar]; rfl
    unfold ofRegexChars?
    split
    · rename_i rest heq
      have hc := head?_escape s.toList '^' (by rw [heq]; rfl)
      cases hc
    · simp [hend, unescape?_escape]

theorem ofRegex?_regex_of_not {p : TextPattern} (h : ¬ p.Recognised) : ofRegex? p.regex = none := by
  rw [ofRegex?, regex, String.toList_ofList]
  cases p with
  | startsWith s => exact absurd trivial h
  | contains s => exact absurd trivial h
  | endsWith s =>
    have hs : endsIn ['\\'] (escape s.toList) = true := by
      simpa [Recognised] using h
    show ofRegexChars? (escape s.toList ++ ['$']) = _
    have hnone : unescape? (escape s.toList ++ ['$']) = none := by
      rw [unescape?_escape_append, show unescape? ['$'] = none by decide, Option.map_none]
    unfold ofRegexChars?
    split
    · rename_i rest heq
      cases hcs : escape s.toList with
      | nil =>
        rw [hcs] at hs
        cases hs
      | cons c cs =>
        have hc := head?_escape s.toList c (by rw [hcs]; rfl)
        rw [hcs] at heq
        rw [(List.cons.inj heq).1] at hc
        cases hc
    · rw [endsIn_singleton, List.dropLast_concat, hs]
      simp [hnone]

/-- The regular expression of a pattern never starts like an inline flag. -/
theorem regex_not_flagged (p : TextPattern) :
    OData.ignoreCaseMark.isPrefixOf p.regex.toList = false := by
  have hparen : ∀ cs : List Char, (∀ c ∈ cs.head?, c ≠ '(') →
      OData.ignoreCaseMark.isPrefixOf cs = false := by
    intro cs hcs
    cases cs with
    | nil => rfl
    | cons c cs =>
      have hc := hcs c rfl
      simp [OData.ignoreCaseMark, List.isPrefixOf, Ne.symm hc]
  have hescape : ∀ s : String, ∀ c ∈ (escape s.toList).head?, c ≠ '(' := by
    rintro s c hc rfl
    exact absurd (head?_escape s.toList _ hc) (by decide)
  rw [regex, String.toList_ofList]
  refine hparen _ ?_
  cases p with
  | startsWith s =>
    intro c hc
    obtain rfl : '^' = c := by simpa [regexChars] using hc
    decide
  | contains s => exact hescape s
  | endsWith s =>
    intro c hc
    change c ∈ (escape s.toList ++ ['$']).head? at hc
    cases hs : escape s.toList with
    | nil =>
      rw [hs] at hc
      obtain rfl : '$' = c := by simpa using hc
      decide
    | cons d cs =>
      refine hescape s c ?_
      rw [hs] at hc ⊢
      exact hc

/-! ### Tests of expressions -/

/-- An escaped text ends as the text itself does. -/
theorem getLast?_escape (cs : List Char) : (escape cs).getLast? = cs.getLast? := by
  rcases List.eq_nil_or_concat cs with rfl | ⟨init, c, rfl⟩
  · rfl
  · have hlast : escape [c] = if isEscaped c then ['\\', c] else [c] := List.append_nil _
    rw [List.concat_eq_append, escape_append, hlast, List.getLast?_append, List.getLast?_append]
    split <;> rfl

theorem endsIn_singleton_iff (c : Char) (cs : List Char) :
    endsIn [c] cs = true ↔ cs.getLast? = some c := by
  rcases List.eq_nil_or_concat cs with rfl | ⟨init, d, rfl⟩
  · simp [endsIn]
  · rw [List.concat_eq_append, endsIn_singleton, List.getLast?_append, beq_iff_eq]
    exact ⟨fun h => congrArg some h.symm, fun h => (Option.some.inj h).symm⟩

/-- The suffixes that are recognised are those that do not end in a backslash. -/
theorem recognised_endsWith_iff (s : String) :
    (TextPattern.endsWith s).Recognised ↔ s.toList.getLast? ≠ some '\\' := by
  rw [Recognised, ← getLast?_escape, ne_eq, ← endsIn_singleton_iff, Bool.not_eq_true]

/-- The regular expression that a test is built from is recognised as that test, for every text,
except that the anchor of a suffix test is overlooked behind a text that ends in a backslash: the
last of its two backslashes is taken for one that escapes the anchor. -/
theorem ofRegex?_of_test (input : Expr) (s : String) :
    (∃ r, input.startsWith s = .regexMatch input r none ∧ ofRegex? r = some (.startsWith s)) ∧
    (∃ r, input.endsWith s = .regexMatch input r none ∧
      ofRegex? r = if s.toList.getLast? = some '\\' then none else some (.endsWith s)) ∧
    (∃ r, input.contains s = .regexMatch input r none ∧ ofRegex? r = some (.contains s)) := by
  refine ⟨⟨_, rfl, ofRegex?_regex trivial⟩, ⟨_, rfl, ?_⟩, ⟨_, rfl, ofRegex?_regex trivial⟩⟩
  split
  · rename_i hslash
    exact ofRegex?_regex_of_not fun h => (recognised_endsWith_iff s).1 h hslash
  · rename_i hslash
    exact ofRegex?_regex ((recognised_endsWith_iff s).2 hslash)

/-- A suffix of a letter and a backslash is written with its backslash escaped and an anchor, and is
not recognised. -/
theorem backslash_suffix_unrecognised :
    ∃ r, (Expr.field "x").endsWith "a\\" = .regexMatch (.field "x") r none ∧ r = "a\\\\$" ∧
      ofRegex? r = none := by
  refine ⟨_, rfl, ?_, ?_⟩ <;> decide

end Polyquery.TextPattern
