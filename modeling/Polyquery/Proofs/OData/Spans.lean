import Polyquery.Proofs.OData.Written

/-!
# The places of tokens

A token takes characters of the text and leaves the others, so the spans of its tokens lead from one
end of a trimmed text to the other.

* `lexeme_append` - what a token takes and what it leaves are the text;
* `scan_induction` - the induction on what is scanned;
* `scan_first`, `scan_last` - where the first token starts and the last token stops;
* `scan_parts`, `scan_punctuation` - the tokens of a text are those of its parts.
-/

namespace Polyquery.OData

/-! ### Nothing is lost -/

theorem quotedText?_append {cs text taken rest : List Char}
    (h : quotedText? cs = some (text, taken, rest)) : taken ++ rest = cs := by
  fun_induction quotedText? cs generalizing text taken rest with
  | case1 => cases h
  | case2 tail ih =>
    obtain ⟨⟨a, b, c⟩, hr, heq⟩ := Option.map_eq_some_iff.1 h
    cases heq
    rw [List.cons_append, List.cons_append, ih hr]
  | case3 tail =>
    cases h
    rfl
  | case4 c tail _ _ ih =>
    obtain ⟨⟨a, b, d⟩, hr, heq⟩ := Option.map_eq_some_iff.1 h
    cases heq
    rw [List.cons_append, ih hr]

theorem spanDigits_append (cs : List Char) : (spanDigits cs).1 ++ (spanDigits cs).2 = cs :=
  List.takeWhile_append_dropWhile

theorem fractionPart_append (cs : List Char) : (fractionPart cs).1 ++ (fractionPart cs).2 = cs := by
  unfold fractionPart
  split
  · split
    · rw [List.cons_append, List.cons_append, spanDigits_append]
    · rfl
  · rfl

theorem exponentPart_append (cs : List Char) : (exponentPart cs).1 ++ (exponentPart cs).2 = cs := by
  unfold exponentPart
  split
  · split
    · split
      · rw [List.cons_append, List.cons_append, spanDigits_append]
      · split
        · split
          · split
            · rw [List.cons_append, List.cons_append, List.cons_append, spanDigits_append]
            · rfl
          · rfl
        · rfl
    · rfl
  · rfl

theorem unsignedNumeral_append (cs : List Char) :
    (unsignedNumeral cs).taken ++ (unsignedNumeral cs).rest = cs := by
  rw [unsignedNumeral, List.append_assoc, List.append_assoc, exponentPart_append,
    fractionPart_append, spanDigits_append]

theorem numeral_append (cs : List Char) : (numeral cs).taken ++ (numeral cs).rest = cs := by
  unfold numeral
  split
  · rename_i cs
    show '-' :: ((unsignedNumeral cs).taken ++ (unsignedNumeral cs).rest) = _
    rw [unsignedNumeral_append]
  · exact unsignedNumeral_append cs

theorem literalLexeme_append {value : Option Literal} {taken rest : List Char} {l : Lexeme}
    (h : literalLexeme value taken rest = .ok l) : l.taken ++ l.rest = taken ++ rest := by
  unfold literalLexeme at h
  split at h
  · cases h
    rfl
  · cases h

theorem numberLexeme_append {cs : List Char} {l : Lexeme} (h : numberLexeme cs = .ok l) :
    l.taken ++ l.rest = cs := by
  have hnumeral := numeral_append cs
  unfold numberLexeme at h
  simp only at h
  split at h
  · rename_i hrest
    rw [literalLexeme_append h, ← hrest, hnumeral]
  · rename_i s rest hrest
    rw [hrest] at hnumeral
    split at h
    · split at h
      · split at h
        · cases h
        · rw [literalLexeme_append h, List.append_assoc]
          exact hnumeral
      · rw [literalLexeme_append h, List.append_assoc]
        exact hnumeral
    · split at h
      · cases h
      · rw [literalLexeme_append h, hnumeral]

theorem wordLexeme_append {pos : Nat} {c : Char} {cs : List Char} {l : Lexeme}
    (h : wordLexeme pos c cs = .ok l) : l.taken ++ l.rest = c :: cs := by
  have hword : cs.takeWhile isWordChar ++ cs.dropWhile isWordChar = cs :=
    List.takeWhile_append_dropWhile
  unfold wordLexeme at h
  simp only at h
  split at h
  · rename_i tail hafter
    rw [hafter] at hword
    split at h
    · split at h
      · cases h
      · rename_i text quoted rest hquoted
        split at h
        · cases h
          show (c :: cs.takeWhile isWordChar ++ '\'' :: quoted) ++ rest = _
          rw [List.append_assoc, List.cons_append, List.cons_append, quotedText?_append hquoted,
            hword]
        · cases h
    · cases h
      rw [hafter, List.cons_append, hword]
  · cases h
    rw [List.cons_append, hword]

/-- What a token takes and what it leaves are the text. -/
theorem lexeme_append {pos : Nat} {c : Char} {cs : List Char} {l : Lexeme}
    (h : lexeme pos c cs = .ok l) : l.taken ++ l.rest = c :: cs := by
  unfold lexeme at h
  split at h
  · cases h
    rfl
  · split at h
    · split at h
      · cases h
      · rename_i hquoted
        cases h
        rw [List.cons_append, quotedText?_append hquoted]
    · split at h
      · split at h
        · rename_i hinf
          cases h
          rw [Bool.and_eq_true, List.isPrefixOf_iff_prefix] at hinf
          obtain ⟨tail, htail⟩ := hinf.2
          rw [← htail]
          cases htail
          rfl
        · split at h
          · rename_i hnumber
            cases h
            exact numberLexeme_append hnumber
          · cases h
      · split at h
        · exact wordLexeme_append h
        · cases h

/-! ### Where tokens stand -/

/-- The scan of a text that starts with no blank: a token, and the scan behind it. -/
theorem scan_step {pos : Nat} {c : Char} {cs : List Char} {ts : List Token}
    (hb : Text.isBlank c = false) (h : scan pos (c :: cs) = .ok ts) :
    ∃ l ts', lexeme pos c cs = .ok l ∧ scan (pos + Text.byteLength l.taken) l.rest = .ok ts' ∧
      ts = ⟨l.kind, l.taken, ⟨pos, pos + Text.byteLength l.taken⟩⟩ :: ts' := by
  cases hl : lexeme pos c cs with
  | error e =>
    rw [scan, if_neg (by simp [hb])] at h
    split at h
    · cases h
    · rename_i l' hl'
      rw [hl] at hl'
      cases hl'
  | ok l =>
    rw [scan_lexeme hb hl] at h
    cases hrest : scan (pos + Text.byteLength l.taken) l.rest with
    | error e =>
      rw [hrest] at h
      cases h
    | ok ts' =>
      rw [hrest] at h
      cases h
      exact ⟨l, ts', rfl, hrest, rfl⟩

/-- Scanning goes on behind a blank or behind a token, unless there is a fault. -/
theorem scan_induction {motive : Nat → List Char → Prop} (nil : ∀ pos, motive pos [])
    (blank : ∀ pos c cs, Text.isBlank c = true → motive (pos + c.utf8Size) cs →
      motive pos (c :: cs))
    (fault : ∀ pos c cs e, Text.isBlank c = false → lexeme pos c cs = .error e →
      motive pos (c :: cs))
    (token : ∀ pos c cs l, Text.isBlank c = false → lexeme pos c cs = .ok l →
      motive (pos + Text.byteLength l.taken) l.rest → motive pos (c :: cs))
    (pos : Nat) (cs : List Char) : motive pos cs := by
  refine scan.induct motive nil blank (fun pos c cs hb e hl => ?_) (fun pos c cs hb l hl _ ih => ?_)
    pos cs
  · exact fault pos c cs e (by simpa using hb) hl
  · exact token pos c cs l (by simpa using hb) hl ih

/-- The first token stands where the text does. -/
theorem scan_first {pos : Nat} {cs : List Char} {ts : List Token} (hc : Trimmed cs)
    (h : scan pos cs = .ok ts) : ∃ t ts', ts = t :: ts' ∧ t.span.start = pos := by
  obtain ⟨⟨c, rest, rfl, hb⟩, -⟩ := hc
  obtain ⟨l, ts', -, -, rfl⟩ := scan_step hb h
  exact ⟨_, ts', rfl, rfl⟩

/-- The last token stops where the text does, if the text ends with no blank. -/
theorem scan_last {pos : Nat} {cs : List Char} {ts : List Token}
    (hc : ∃ c ∈ cs.getLast?, Text.isBlank c = false) (h : scan pos cs = .ok ts) :
    ∃ t ∈ ts.getLast?, t.span.stop = pos + Text.byteLength cs := by
  induction pos, cs using scan_induction generalizing ts with
  | nil pos =>
    obtain ⟨c, hc, -⟩ := hc
    cases hc
  | blank pos c cs hb ih =>
    rw [scan_blank hb] at h
    have hne : cs ≠ [] := by
      rintro rfl
      obtain ⟨d, hd, hblank⟩ := hc
      have hcd : c = d := by simpa using hd
      rw [← hcd, hb] at hblank
      cases hblank
    rw [List.getLast?_cons_of_ne_nil hne] at hc
    obtain ⟨t, ht, hstop⟩ := ih hc h
    exact ⟨t, ht, by rw [hstop, Text.byteLength_cons, Nat.add_assoc]⟩
  | fault pos c cs e hb hl =>
    obtain ⟨l, ts', hl', -⟩ := scan_step hb h
    rw [hl] at hl'
    cases hl'
  | token pos c cs l hb hl ih =>
    obtain ⟨l', ts', hl', hrest, rfl⟩ := scan_step hb h
    obtain rfl : l = l' := Except.ok.inj (hl.symm.trans hl')
    have happend := lexeme_append hl
    have hlen : Text.byteLength l.taken + Text.byteLength l.rest
        = Text.byteLength (c :: cs) := by rw [← Text.byteLength_append, happend]
    by_cases hnil : l.rest = []
    · rw [hnil, scan_nil] at hrest
      cases hrest
      refine ⟨_, rfl, ?_⟩
      rw [hnil, Text.byteLength_nil] at hlen
      show pos + Text.byteLength l.taken = _
      rw [← hlen, Nat.add_zero]
    · rw [← happend, List.getLast?_append_of_ne_nil _ hnil] at hc
      obtain ⟨t, ht, hstop⟩ := ih hc hrest
      refine ⟨t, ?_, by rw [hstop, ← hlen, Nat.add_assoc]⟩
      cases ts' with
      | nil => cases ht
      | cons u us => exact ht

/-! ### Tokens of the parts -/

/-- What a text scans to, if it scans to tokens of given kinds wherever it stands. -/
theorem Lexes.kinds {cs : List Char} {ks : List TokenKind} (h : Lexes cs ks) {pos : Nat}
    {ts : List Token} (hts : scan pos cs = .ok ts) : ts.map Token.kind = ks := by
  obtain ⟨us, hus, hscan⟩ := h pos
  have hall := hscan [] boundary_nil
  rw [List.append_nil, hts, scan_nil] at hall
  have heq : ts = us ++ [] := Except.ok.inj hall
  rw [heq, List.append_nil, hus]

theorem Lexes.scans {cs : List Char} {ks : List TokenKind} (h : Lexes cs ks) (pos : Nat) :
    ∃ ts, scan pos cs = .ok ts ∧ ts.map Token.kind = ks := by
  obtain ⟨ts, hts, hscan⟩ := h pos
  have hall := hscan [] boundary_nil
  rw [List.append_nil, scan_nil] at hall
  exact ⟨ts ++ [], hall, by rw [List.append_nil, hts]⟩

/-- The tokens of a text with a boundary behind its first part. -/
theorem scan_parts {a b : List Char} {ka : List TokenKind} (ha : Lexes a ka) (hb : Boundary b)
    {pos : Nat} {ts : List Token} (h : scan pos (a ++ b) = .ok ts) :
    ∃ ta tb, scan pos a = .ok ta ∧ scan (pos + Text.byteLength a) b = .ok tb ∧ ts = ta ++ tb := by
  obtain ⟨ta, -, hscan⟩ := ha pos
  have hall := hscan [] boundary_nil
  rw [List.append_nil, scan_nil] at hall
  rw [hscan b hb] at h
  cases htb : scan (pos + Text.byteLength a) b with
  | error e =>
    rw [htb] at h
    cases h
  | ok tb =>
    rw [htb] at h
    refine ⟨ta, tb, ?_, rfl, (Except.ok.inj h).symm⟩
    rw [hall]
    show Except.ok (ta ++ []) = _
    rw [List.append_nil]

/-- The tokens of a text behind punctuation. -/
theorem scan_punctuation {c : Char} {k : TokenKind} (hc : punctuation? c = some k)
    (hb : Text.isBlank c = false) {pos : Nat} {cs : List Char} {ts : List Token}
    (h : scan pos (c :: cs) = .ok ts) :
    ∃ t ts', t.kind = k ∧ scan (pos + c.utf8Size) cs = .ok ts' ∧ ts = t :: ts' := by
  obtain ⟨l, ts', hl, hrest, rfl⟩ := scan_step hb h
  rw [lexeme, hc] at hl
  cases hl
  exact ⟨_, ts', rfl, hrest, rfl⟩

end Polyquery.OData
