import Polyquery.Proofs.OData.Places

/-!
# Tokens are local

What a text scans to is spelled out by its tokens and the blanks between them, and no token depends
on what stands in front of it or behind it.

* `CutsAnywhere` - a reader that takes the same from a text that is cut behind what it takes;
* `lexeme_cut` - the token in front of a text does not depend on what is behind it;
* `scan_moved` - the tokens of a text move with it;
* `scan_cut`, `scan_from` - the tokens up to one of them, and those from one of them on;
* `tokenize_local` - the spans of the tokens of a text, and the tokens of its parts.
-/

namespace Polyquery

/-- A span covers the bytes from its start on and before its stop. -/
def Span.Covers (s : Span) (offset : Nat) : Prop := s.start ≤ offset ∧ offset < s.stop

namespace OData

/-! ### Readers of the front of a text -/

/-- A reader takes the same characters from every text that is cut somewhere behind them. -/
def CutsAnywhere (read : List Char → List Char × List Char) : Prop :=
  ∀ cs m, m <+: (read cs).2 → read ((read cs).1 ++ m) = ((read cs).1, m)

/-- What is true of the first character of a text is true of that of a text in front of it. -/
theorem forall_head?_cut {P : Char → Prop} {cs m : List Char} (h : ∀ c ∈ cs.head?, P c)
    (hm : m <+: cs) : ∀ c ∈ m.head?, P c := by
  cases m with
  | nil => simp
  | cons d m =>
    obtain ⟨tail, rfl⟩ := hm
    intro c hc
    exact h c (by simpa using hc)

theorem head?_dropWhile (p : Char → Bool) (cs : List Char) :
    ∀ c ∈ (cs.dropWhile p).head?, p c = false := by
  intro c hc
  have hstop := List.head?_dropWhile_not p cs
  rw [Option.mem_def.1 hc] at hstop
  simpa using hstop

theorem cutsAnywhere_spanDigits : CutsAnywhere spanDigits := by
  intro cs m hm
  have hrun : ∀ c ∈ cs.takeWhile Text.isAsciiDigit, Text.isAsciiDigit c = true :=
    List.all_eq_true.1 List.all_takeWhile
  have hstop := forall_head?_cut (head?_dropWhile Text.isAsciiDigit cs) hm
  simp only [spanDigits, Text.takeWhile_append_run _ hrun hstop,
    Text.dropWhile_append_run _ hrun hstop]

/-- A reader takes some characters and the digits behind them, or nothing. -/
def TakesDigits (read : List Char → List Char × List Char) : Prop :=
  ∀ cs, read cs = ([], cs) ∨ ∃ front rest, front ≠ [] ∧ cs = front ++ rest ∧
    ∀ more, read (front ++ more) = (front ++ (spanDigits more).1, (spanDigits more).2)

/-- Where nothing is taken, nothing is taken from a shorter text: what would be taken there stands
in front of the longer one too. -/
theorem TakesDigits.cutsAnywhere {read : List Char → List Char × List Char}
    (h : TakesDigits read) : CutsAnywhere read := by
  intro cs m hm
  rcases h cs with hnone | ⟨front, rest, -, rfl, hread⟩
  · rw [hnone] at hm ⊢
    rcases h m with hm' | ⟨front, rest, hne, rfl, hread⟩
    · exact hm'
    · obtain ⟨tail, rfl⟩ := hm
      rw [List.append_assoc, hread] at hnone
      exact absurd (List.append_eq_nil_iff.1 (congrArg Prod.fst hnone)).1 hne
  · rw [hread] at hm ⊢
    rw [List.append_assoc, hread, cutsAnywhere_spanDigits rest m hm]

theorem takesDigits_fractionPart : TakesDigits fractionPart := by
  intro cs
  unfold fractionPart
  split
  · rename_i d rest
    by_cases hd : Text.isAsciiDigit d
    · exact .inr ⟨['.', d], rest, List.cons_ne_nil _ _, rfl, fun more => by simp [hd]⟩
    · exact .inl (if_neg hd)
  · exact .inl rfl

theorem takesDigits_exponentPart : TakesDigits exponentPart := by
  intro cs
  unfold exponentPart
  split
  · rename_i e d rest
    by_cases he : e = 'e' ∨ e = 'E'
    · by_cases hd : Text.isAsciiDigit d
      · exact .inr ⟨[e, d], rest, List.cons_ne_nil _ _, rfl, fun more => by simp [he, hd]⟩
      · by_cases hsign : d = '+' ∨ d = '-'
        · cases rest with
          | nil => exact .inl (by simp [he, hd, hsign])
          | cons f tail =>
            by_cases hf : Text.isAsciiDigit f
            · exact .inr ⟨[e, d, f], tail, List.cons_ne_nil _ _, rfl,
                fun more => by simp [he, hd, hsign, hf]⟩
            · exact .inl (by simp [he, hd, hsign, hf])
        · exact .inl (by simp [he, hd, hsign])
    · exact .inl (by simp [he])
  · exact .inl rfl

/-! ### Numbers -/

/-- What stands in front of a part of the rest of a text. -/
theorem prefix_of_parts {front rest cs m : List Char} (h : front ++ rest = cs) (hm : m <+: rest) :
    front ++ m <+: cs := by
  rw [← h]
  exact (List.prefix_append_right_inj front).2 hm

theorem unsignedNumeral_cut {cs m : List Char} (hm : m <+: (unsignedNumeral cs).rest) :
    unsignedNumeral ((unsignedNumeral cs).taken ++ m) = { unsignedNumeral cs with rest := m } := by
  have hexponent := takesDigits_exponentPart.cutsAnywhere _ m hm
  have hbehind := prefix_of_parts (exponentPart_append _) hm
  have hfraction := takesDigits_fractionPart.cutsAnywhere _ _ hbehind
  have hwhole := cutsAnywhere_spanDigits cs _ (prefix_of_parts (fractionPart_append _) hbehind)
  simp only [unsignedNumeral, List.append_assoc, hwhole, hfraction, hexponent]

theorem numeral_cut {cs m : List Char} (hm : m <+: (numeral cs).rest) :
    numeral ((numeral cs).taken ++ m) = { numeral cs with rest := m } := by
  have hfront : (numeral cs).taken ++ m <+: cs := prefix_of_parts (numeral_append cs) hm
  by_cases hsign : ∃ tail, cs = '-' :: tail
  · obtain ⟨tail, rfl⟩ := hsign
    have hcut := @unsignedNumeral_cut tail m hm
    show numeral ('-' :: ((unsignedNumeral tail).taken ++ m)) = _
    rw [numeral, hcut]
    rfl
  · have hplain : ∀ ds : List Char, ds <+: cs → numeral ds = unsignedNumeral ds := by
      intro ds hds
      refine numeral.eq_2 ds fun tail htail => hsign ?_
      obtain ⟨more, hmore⟩ := hds
      exact ⟨tail ++ more, by rw [← hmore, htail, List.cons_append]⟩
    rw [hplain _ hfront]
    rw [hplain cs (List.prefix_refl cs)] at hm ⊢
    exact unsignedNumeral_cut hm

theorem literalLexeme_eq_ok_iff {value : Option Literal} {taken rest : List Char} {l : Lexeme} :
    literalLexeme value taken rest = .ok l
      ↔ ∃ v, value = some v ∧ l = ⟨.literal v, taken, rest⟩ := by
  cases value <;> simp [literalLexeme, eq_comm]

/-- A number with a suffix, behind which its word ends, or one without. -/
theorem numberLexeme_eq_ok_iff {cs : List Char} {l : Lexeme} : numberLexeme cs = .ok l ↔
    (∃ s rest v, (numeral cs).rest = s :: rest ∧ isSuffix s = true ∧
      (∀ c ∈ rest.head?, Text.isAlphanumeric c = false ∧ c ≠ '_') ∧
      suffixed? (numeral cs) s = some v ∧ l = ⟨.literal v, (numeral cs).taken ++ [s], rest⟩) ∨
    (∀ s ∈ (numeral cs).rest.head?,
      isSuffix s = false ∧ Text.isAlphabetic s = false ∧ s ≠ '_') ∧
      ∃ v, unsuffixed? (numeral cs) = some v ∧
        l = ⟨.literal v, (numeral cs).taken, (numeral cs).rest⟩ := by
  unfold numberLexeme
  simp only
  cases hrest : (numeral cs).rest with
  | nil => simp [literalLexeme_eq_ok_iff]
  | cons s rest =>
    by_cases hs : isSuffix s = true
    · cases rest with
      | nil => simp [literalLexeme_eq_ok_iff, hs]
      | cons c rest =>
        by_cases hc : Text.isAlphanumeric c = false ∧ c ≠ '_'
        · simp [literalLexeme_eq_ok_iff, hs, hc]
        · have hword : (Text.isAlphanumeric c || decide (c = '_')) = true := by
            simpa [or_iff_not_and_not] using hc
          simp [hs, hword]
          exact fun h hne => absurd ⟨h, hne⟩ hc
    · by_cases hletter : Text.isAlphabetic s = false ∧ s ≠ '_'
      · simp [literalLexeme_eq_ok_iff, hs, hletter]
      · have hword : (Text.isAlphabetic s || decide (s = '_')) = true := by
          simpa [or_iff_not_and_not] using hletter
        simp [hs, hword]
        exact fun h hne => absurd ⟨h, hne⟩ hletter

/-- Behind a suffix, and behind a number without one, stands what is behind it in the longer text,
or nothing. -/
theorem numberLexeme_cut {cs m : List Char} {l : Lexeme} (h : numberLexeme cs = .ok l)
    (hm : m <+: l.rest) : numberLexeme (l.taken ++ m) = .ok { l with rest := m } := by
  rw [numberLexeme_eq_ok_iff] at h ⊢
  rcases h with ⟨s, rest, v, hrest, hs, hstop, hv, rfl⟩ | ⟨hstop, v, hv, rfl⟩
  · have hcut := @numeral_cut cs (s :: m) <| by
      rw [hrest]
      exact (List.prefix_append_right_inj [s]).2 hm
    rw [List.append_assoc, List.singleton_append, hcut]
    exact .inl ⟨s, m, v, rfl, hs, forall_head?_cut hstop hm, hv, rfl⟩
  · rw [numeral_cut hm]
    exact .inr ⟨forall_head?_cut hstop hm, v, hv, rfl⟩

/-- Behind its sign a number takes the first digit. -/
theorem numberLexeme_negative {d : Char} {cs tail : List Char} {l : Lexeme}
    (hd : Text.isAsciiDigit d = true) (h : numberLexeme ('-' :: d :: cs) = .ok l)
    (htaken : l.taken = '-' :: tail) : ∃ more, tail = d :: more := by
  have hnumeral : ∃ digits, (numeral ('-' :: d :: cs)).taken = '-' :: d :: digits := by
    simp [numeral, unsignedNumeral, spanDigits, hd]
  obtain ⟨digits, hdigits⟩ := hnumeral
  rcases numberLexeme_eq_ok_iff.1 h with ⟨s, rest, v, -, -, -, -, rfl⟩ | ⟨-, v, -, rfl⟩
  · rw [hdigits] at htaken
    exact ⟨digits ++ [s], (List.cons.inj htaken).2.symm⟩
  · rw [hdigits] at htaken
    exact ⟨digits, (List.cons.inj htaken).2.symm⟩

/-! ### Quoted text and words -/

theorem quotedText?_cut {cs text taken rest m : List Char}
    (h : quotedText? cs = some (text, taken, rest)) (hm : m <+: rest) :
    quotedText? (taken ++ m) = some (text, taken, m) := by
  fun_induction quotedText? cs generalizing text taken rest with
  | case1 => cases h
  | case2 tail ih =>
    obtain ⟨⟨a, b, c⟩, hr, heq⟩ := Option.map_eq_some_iff.1 h
    cases heq
    rw [List.cons_append, List.cons_append, quotedText?, ih hr hm]
    rfl
  | case3 tail hquote =>
    cases h
    obtain ⟨more, rfl⟩ := hm
    rw [List.singleton_append, quotedText?.eq_3]
    rintro m' rfl
    exact hquote _ rfl
  | case4 c tail hdouble hclose ih =>
    obtain ⟨⟨a, b, d⟩, hr, heq⟩ := Option.map_eq_some_iff.1 h
    cases heq
    rw [List.cons_append, quotedText?.eq_4 _ _ (fun _ hc _ => hclose hc) hclose, ih hr hm]
    rfl

/-- A word ends in front of a quote, unless it is the name of a type; then the quote belongs to it. -/
theorem wordLexeme_cut {pos : Nat} {c : Char} {cs m : List Char} {l : Lexeme}
    (h : wordLexeme pos c cs = .ok l) (hm : m <+: l.rest) (pos' : Nat) :
    ∃ tail, l.taken = c :: tail ∧ wordLexeme pos' c (tail ++ m) = .ok { l with rest := m } := by
  have hrun : ∀ d ∈ cs.takeWhile isWordChar, isWordChar d = true :=
    List.all_eq_true.1 List.all_takeWhile
  have hafter := head?_dropWhile isWordChar cs
  unfold wordLexeme at h
  simp only at h
  split at h
  · rename_i quote htail
    rw [htail] at hafter
    split at h
    · rename_i htype
      split at h
      · cases h
      · rename_i text quoted rest hquoted
        split at h
        · rename_i v hv
          cases h
          refine ⟨cs.takeWhile isWordChar ++ '\'' :: quoted, rfl, ?_⟩
          rw [List.append_assoc, wordLexeme]
          have hstop : ∀ d ∈ ('\'' :: (quoted ++ m)).head?, isWordChar d = false := hafter
          simp only [List.cons_append, Text.takeWhile_append_run _ hrun hstop,
            Text.dropWhile_append_run _ hrun hstop, htype, if_true, quotedText?_cut hquoted hm, hv]
        · cases h
    · rename_i htype
      cases h
      refine ⟨cs.takeWhile isWordChar, rfl, ?_⟩
      rw [htail] at hm
      have hstop := forall_head?_cut hafter hm
      rw [wordLexeme]
      simp only [Text.takeWhile_append_run _ hrun hstop, Text.dropWhile_append_run _ hrun hstop,
        htype, Bool.false_eq_true, if_false]
      cases m with
      | nil => rfl
      | cons d m => split <;> rfl
  · rename_i hquote
    cases h
    refine ⟨cs.takeWhile isWordChar, rfl, ?_⟩
    have hstop := forall_head?_cut hafter hm
    rw [wordLexeme]
    simp only [Text.takeWhile_append_run _ hrun hstop, Text.dropWhile_append_run _ hrun hstop]
    split
    · obtain ⟨more, hmore⟩ := hm
      exact absurd hmore.symm (hquote _)
    · rfl

/-- A token takes the character in front. -/
theorem lexeme_taken {pos : Nat} {c : Char} {cs : List Char} {l : Lexeme}
    (h : lexeme pos c cs = .ok l) : ∃ tail, l.taken = c :: tail ∧ cs = tail ++ l.rest := by
  have happend := lexeme_append h
  have hlength := lexeme_length h
  cases htaken : l.taken with
  | nil =>
    rw [htaken, List.nil_append] at happend
    rw [happend] at hlength
    exact absurd hlength (Nat.lt_irrefl _)
  | cons d tail =>
    rw [htaken, List.cons_append] at happend
    obtain ⟨rfl, htail⟩ := List.cons.inj happend
    exact ⟨tail, rfl, htail.symm⟩

/-- What starts a number that is not the negative infinity. -/
theorem number_starts {c : Char} {cs : List Char}
    (h : (Text.isAsciiDigit c || (decide (c = '-') && startsNegative cs)) = true)
    (hinf : ¬ (decide (c = '-') && negativeInfinity.isPrefixOf (c :: cs)) = true) :
    Text.isAsciiDigit c = true ∨ c = '-' ∧ ∃ d ∈ cs.head?, Text.isAsciiDigit d = true := by
  by_cases hc : Text.isAsciiDigit c = true
  · exact .inl hc
  · simp only [hc, Bool.false_or, Bool.and_eq_true, decide_eq_true_eq] at h
    obtain ⟨rfl, hstart⟩ := h
    simp only [decide_true, Bool.true_and] at hinf
    cases cs with
    | nil => cases hstart
    | cons d cs =>
      rw [startsNegative, Bool.or_eq_true] at hstart
      exact .inr ⟨rfl, d, rfl, hstart.resolve_right hinf⟩

/-- The token in front of a text does not depend on where the text stands, nor on what is behind the
token. -/
theorem lexeme_cut {pos : Nat} {c : Char} {cs m : List Char} {l : Lexeme}
    (h : lexeme pos c cs = .ok l) (hm : m <+: l.rest) (pos' : Nat) :
    ∃ tail, l.taken = c :: tail ∧ lexeme pos' c (tail ++ m) = .ok { l with rest := m } := by
  have htaken := lexeme_taken h
  unfold lexeme at h
  split at h
  · rename_i kind hkind
    cases h
    exact ⟨[], rfl, by rw [lexeme, hkind]; rfl⟩
  · rename_i hpunct
    split at h
    · rename_i hquote
      split at h
      · cases h
      · rename_i text quoted rest hquoted
        cases h
        refine ⟨quoted, rfl, ?_⟩
        subst hquote
        simp only [lexeme, hpunct, if_true, quotedText?_cut hquoted hm]
    · rename_i hquote
      split at h
      · rename_i hnumber
        split at h
        · rename_i hinf
          cases h
          obtain rfl : c = '-' := by simpa using (Bool.and_eq_true_iff.1 hinf).1
          exact ⟨['I', 'N', 'F'], rfl, rfl⟩
        · rename_i hinf
          split at h
          · rename_i l' hl
            cases h
            obtain ⟨tail, htail, rfl⟩ := htaken
            have hcut : numberLexeme (c :: (tail ++ m)) = .ok { l with rest := m } := by
              rw [← List.cons_append, ← htail]
              exact numberLexeme_cut hl hm
            refine ⟨tail, htail, lexeme_number pos' ?_ hcut⟩
            rcases number_starts hnumber hinf with hc | ⟨rfl, d, hd, hdigit⟩
            · exact .inl hc
            · cases hrest : tail ++ l.rest with
              | nil =>
                rw [hrest] at hd
                cases hd
              | cons e rest =>
                rw [hrest] at hd hl
                obtain rfl : e = d := by simpa using hd
                obtain ⟨more, rfl⟩ := numberLexeme_negative hdigit hl htail
                exact .inr ⟨rfl, e, rfl, hdigit⟩
          · cases h
      · rename_i hnumber
        split at h
        · rename_i hstart
          obtain ⟨tail, htail, hword⟩ := wordLexeme_cut h hm pos'
          obtain ⟨-, -, hsign, hdigit, -⟩ := isWordStart_cases hstart
          refine ⟨tail, htail, ?_⟩
          simp only [lexeme, hpunct, hquote, hsign, hdigit, hstart, hword, decide_false,
            Bool.false_and, Bool.or_self, Bool.false_eq_true, if_false, if_true]
        · cases h

/-! ### Parts of a text -/

/-- A token in a text that has `base` more bytes in front. -/
def Token.shifted (base : Nat) (t : Token) : Token := { t with span := t.span.shift base }

/-- A scan behind a token, put together again. -/
theorem scan_of_lexeme {pos : Nat} {c : Char} {tail rest : List Char} {l : Lexeme} {ts : List Token}
    (hb : Text.isBlank c = false) (htaken : l.taken = c :: tail)
    (h : lexeme pos c (tail ++ rest) = .ok { l with rest := rest })
    (hrest : scan (pos + Text.byteLength l.taken) rest = .ok ts) :
    scan pos (l.taken ++ rest)
      = .ok (⟨l.kind, l.taken, ⟨pos, pos + Text.byteLength l.taken⟩⟩ :: ts) := by
  have hscan := scan_lexeme hb h
  simp only [hrest] at hscan
  rw [htaken] at hscan ⊢
  exact hscan

theorem lexeme_moved {pos : Nat} {c : Char} {cs : List Char} {l : Lexeme}
    (h : lexeme pos c cs = .ok l) (pos' : Nat) : lexeme pos' c cs = .ok l := by
  obtain ⟨tail, htaken, hcut⟩ := lexeme_cut h (List.prefix_refl l.rest) pos'
  obtain ⟨tail', htaken', rfl⟩ := lexeme_taken h
  obtain rfl : tail = tail' := (List.cons.inj (htaken.symm.trans htaken')).2
  exact hcut

/-- A text without what is in front of it has the same tokens, and they stand that much earlier. -/
theorem scan_moved {base pos : Nat} {cs : List Char} {us : List Token}
    (h : scan (base + pos) cs = .ok us) :
    ∃ ts, scan pos cs = .ok ts ∧ ts.map (Token.shifted base) = us := by
  induction pos, cs using scan_induction generalizing us with
  | nil pos =>
    rw [scan_nil] at h
    cases h
    exact ⟨[], scan_nil pos, rfl⟩
  | blank pos c cs hb ih =>
    rw [scan_blank hb, Nat.add_assoc] at h
    rw [scan_blank hb]
    exact ih h
  | fault pos c cs e hb hl =>
    obtain ⟨l, us', hl', -⟩ := scan_step hb h
    rw [lexeme_moved hl' pos] at hl
    cases hl
  | token pos c cs l hb hl ih =>
    obtain ⟨l', us', hl', hrest, rfl⟩ := scan_step hb h
    obtain rfl : l = l' := Except.ok.inj (hl.symm.trans (lexeme_moved hl' pos))
    rw [Nat.add_assoc] at hrest
    obtain ⟨ts, hts, rfl⟩ := ih hrest
    refine ⟨_, (scan_lexeme hb hl).trans (congrArg _ hts), ?_⟩
    simp [Token.shifted, Span.shift, Nat.add_comm base, Nat.add_right_comm]

/-- The tokens up to one of them are those of the text up to its end, and the others are those of
the text behind it. -/
theorem scan_cut {pos : Nat} {cs : List Char} {t : Token} {ts us : List Token}
    (h : scan pos cs = .ok (ts ++ t :: us)) :
    ∃ text rest, cs = text ++ rest ∧ t.span.stop = pos + Text.byteLength text ∧
      scan pos text = .ok (ts ++ [t]) ∧ scan t.span.stop rest = .ok us := by
  generalize hall : ts ++ t :: us = all at h
  induction pos, cs using scan_induction generalizing ts all with
  | nil pos =>
    rw [scan_nil] at h
    cases h
    simp at hall
  | blank pos c cs hb ih =>
    rw [scan_blank hb] at h
    obtain ⟨text, rest, rfl, hstop, htext, hrest⟩ := ih all hall h
    refine ⟨c :: text, rest, rfl, ?_, ?_, hrest⟩
    · rw [hstop, Text.byteLength_cons, Nat.add_assoc]
    · rw [scan_blank hb, htext]
  | fault pos c cs e hb hl =>
    rw [scan_fault hb hl] at h
    cases h
  | token pos c cs l hb hl ih =>
    obtain ⟨l', vs, hl', hvs, rfl⟩ := scan_step hb h
    obtain rfl : l = l' := Except.ok.inj (hl.symm.trans hl')
    cases ts with
    | nil =>
      obtain ⟨rfl, rfl⟩ := List.cons.inj hall
      obtain ⟨tail, htaken, hcut⟩ := lexeme_cut hl List.nil_prefix pos
      have hone := scan_of_lexeme hb htaken hcut (scan_nil _)
      rw [List.append_nil] at hone
      exact ⟨l.taken, l.rest, (lexeme_append hl).symm, rfl, hone, hvs⟩
    | cons first ts =>
      obtain ⟨rfl, htail⟩ := List.cons.inj hall
      obtain ⟨text, rest, hparts, hstop, htext, hrest⟩ := ih vs htail hvs
      obtain ⟨tail, htaken, hcut⟩ := lexeme_cut hl ⟨rest, hparts.symm⟩ pos
      refine ⟨l.taken ++ text, rest, ?_, ?_, ?_, hrest⟩
      · rw [List.append_assoc, ← hparts, lexeme_append hl]
      · rw [hstop, Text.byteLength_append, Nat.add_assoc]
      · exact scan_of_lexeme hb htaken hcut htext

/-- The tokens from one of them on are those of the text from its start on. -/
theorem scan_from {pos : Nat} {cs : List Char} {t : Token} {ts us : List Token}
    (h : scan pos cs = .ok (ts ++ t :: us)) :
    ∃ front rest, cs = front ++ rest ∧ t.span.start = pos + Text.byteLength front ∧
      scan t.span.start rest = .ok (t :: us) := by
  generalize hall : ts ++ t :: us = all at h
  induction pos, cs using scan_induction generalizing ts all with
  | nil pos =>
    rw [scan_nil] at h
    cases h
    simp at hall
  | blank pos c cs hb ih =>
    rw [scan_blank hb] at h
    obtain ⟨front, rest, rfl, hstart, hrest⟩ := ih all hall h
    exact ⟨c :: front, rest, rfl, by rw [hstart, Text.byteLength_cons, Nat.add_assoc], hrest⟩
  | fault pos c cs e hb hl =>
    rw [scan_fault hb hl] at h
    cases h
  | token pos c cs l hb hl ih =>
    obtain ⟨l', vs, hl', hvs, rfl⟩ := scan_step hb h
    obtain rfl : l = l' := Except.ok.inj (hl.symm.trans hl')
    cases ts with
    | nil =>
      obtain ⟨rfl, rfl⟩ := List.cons.inj hall
      exact ⟨[], c :: cs, rfl, rfl, h⟩
    | cons first ts =>
      obtain ⟨rfl, htail⟩ := List.cons.inj hall
      obtain ⟨front, rest, hparts, hstart, hrest⟩ := ih vs htail hvs
      refine ⟨l.taken ++ front, rest, ?_, ?_, hrest⟩
      · rw [List.append_assoc, ← hparts, lexeme_append hl]
      · rw [hstart, Text.byteLength_append, Nat.add_assoc]

/-! ### Spans -/

/-- Tokens are not empty, stand inside the text, and one behind the other. -/
theorem scan_spans {pos : Nat} {cs : List Char} {ts : List Token} (h : scan pos cs = .ok ts) :
    (∀ t ∈ ts, pos ≤ t.span.start ∧ t.span.start < t.span.stop ∧
      t.span.stop ≤ pos + Text.byteLength cs) ∧
    ts.Pairwise fun a b => a.span.stop ≤ b.span.start := by
  induction pos, cs using scan_induction generalizing ts with
  | nil pos =>
    rw [scan_nil] at h
    cases h
    exact ⟨fun t ht => absurd ht List.not_mem_nil, .nil⟩
  | blank pos c cs hb ih =>
    rw [scan_blank hb] at h
    obtain ⟨hspans, horder⟩ := ih h
    refine ⟨fun t ht => ?_, horder⟩
    have hspan := hspans t ht
    rw [Text.byteLength_cons]
    omega
  | fault pos c cs e hb hl =>
    rw [scan_fault hb hl] at h
    cases h
  | token pos c cs l hb hl ih =>
    obtain ⟨l', us, hl', hrest, rfl⟩ := scan_step hb h
    obtain rfl : l = l' := Except.ok.inj (hl.symm.trans hl')
    obtain ⟨hspans, horder⟩ := ih hrest
    obtain ⟨tail, htaken, rfl⟩ := lexeme_taken hl
    have hpos := c.utf8Size_pos
    have hlength : Text.byteLength l.taken = c.utf8Size + Text.byteLength tail := by
      rw [htaken, Text.byteLength_cons]
    rw [List.forall_mem_cons, List.pairwise_cons, Text.byteLength_cons, Text.byteLength_append]
    refine ⟨⟨⟨Nat.le_refl _, ?_, ?_⟩, fun t ht => ?_⟩, fun t ht => (hspans t ht).1, horder⟩
    · show pos < pos + Text.byteLength l.taken
      omega
    · show pos + Text.byteLength l.taken ≤ _
      omega
    · have hspan := hspans t ht
      omega

/-- A character that no token covers is a blank. -/
theorem scan_uncovered {pos : Nat} {before after : List Char} {d : Char} {ts : List Token}
    (h : scan pos (before ++ d :: after) = .ok ts)
    (hd : ∀ t ∈ ts, ¬ t.span.Covers (pos + Text.byteLength before)) : Text.isBlank d = true := by
  generalize hcs : before ++ d :: after = cs at h
  induction pos, cs using scan_induction generalizing before ts with
  | nil pos => simp at hcs
  | blank pos c cs hb ih =>
    rw [scan_blank hb] at h
    cases before with
    | nil =>
      obtain ⟨rfl, -⟩ := List.cons.inj hcs
      exact hb
    | cons b before =>
      obtain ⟨rfl, hbehind⟩ := List.cons.inj hcs
      rw [Text.byteLength_cons, ← Nat.add_assoc] at hd
      exact ih hd hbehind h
  | fault pos c cs e hb hl =>
    rw [scan_fault hb hl] at h
    cases h
  | token pos c cs l hb hl ih =>
    obtain ⟨l', us, hl', hrest, rfl⟩ := scan_step hb h
    obtain rfl : l = l' := Except.ok.inj (hl.symm.trans hl')
    rw [List.forall_mem_cons] at hd
    rw [← lexeme_append hl] at hcs
    rcases List.append_eq_append_iff.1 hcs with ⟨more, htaken, hmore⟩ | ⟨more, rfl, hmore⟩
    · cases more with
      | nil =>
        rw [List.append_nil] at htaken
        rw [htaken] at ih hd hrest
        exact @ih [] us hd.2 hmore hrest
      | cons e more =>
        refine absurd ⟨Nat.le_add_right pos _, ?_⟩ hd.1
        have hsize := e.utf8Size_pos
        simp only [htaken, Text.byteLength_append, Text.byteLength_cons]
        omega
    · rw [Text.byteLength_append, ← Nat.add_assoc] at hd
      exact ih hd.2 hmore.symm hrest

/-! ### Whole texts -/

/-- The tokens between two of them are those of the text from the start of the first to the end of
the last. -/
theorem tokenize_part {source : List Char} {before part behind : List Token} {first last : Token}
    (h : tokenize source = .ok (before ++ (part ++ behind))) (hfirst : first ∈ part.head?)
    (hlast : last ∈ part.getLast?) :
    ∃ ts, tokenize (Text.slice first.span.start last.span.stop source) = .ok ts ∧
      ts.map (Token.shifted first.span.start) = part := by
  obtain ⟨more, rfl⟩ : ∃ more, part = first :: more := by
    cases part with
    | nil => cases hfirst
    | cons t more => exact ⟨more, by rw [Option.some.inj (Option.mem_def.1 hfirst)]⟩
  obtain ⟨front, rest, rfl, hstart, hfrom⟩ := scan_from h
  obtain ⟨init, hinit⟩ : ∃ init, first :: more = init ++ [last] :=
    ⟨_, (List.dropLast_append_getLast? last hlast).symm⟩
  have hall : first :: (more ++ behind) = init ++ last :: behind := by
    rw [← List.cons_append, hinit, List.append_assoc, List.singleton_append]
  obtain ⟨text, rest, rfl, hstop, htext, -⟩ := scan_cut (hfrom.trans (congrArg _ hall))
  rw [Nat.zero_add] at hstart
  have hslice := Text.slice_append front text rest
  rw [hstart] at hstop htext ⊢
  rw [hstop, hslice, hinit]
  exact @scan_moved _ 0 _ _ htext

/-- Tokenizing loses nothing and is local. The spans of the tokens are not empty, stand inside the
text, where the characters of the token stand, and one behind the other, and only blanks stand
outside them; and the text from the start of one token to the end of another has the tokens from the
one to the other, seen from its own start. -/
theorem tokenize_local {source : List Char} {ts : List Token} (h : tokenize source = .ok ts) :
    (∀ t ∈ ts, t.span.start < t.span.stop ∧ t.span.stop ≤ Text.byteLength source ∧
      Text.slice t.span.start t.span.stop source = t.text) ∧
    (ts.Pairwise fun a b => a.span.stop ≤ b.span.start) ∧
    (∀ before c after, source = before ++ c :: after →
      (∀ t ∈ ts, ¬ t.span.Covers (Text.byteLength before)) → Text.isBlank c = true) ∧
    ∀ (i j : Nat) (_ : i ≤ j) (hj : j < ts.length), ∃ us,
      tokenize (Text.slice ts[i].span.start ts[j].span.stop source) = .ok us ∧
        us.map (Token.shifted ts[i].span.start) = (ts.take (j + 1)).drop i := by
  have hspans := scan_spans h
  rw [Nat.zero_add] at hspans
  refine ⟨fun t ht => ⟨(hspans.1 t ht).2.1, (hspans.1 t ht).2.2, ?_⟩, hspans.2, ?_, ?_⟩
  · obtain ⟨done, more, rfl⟩ := List.append_of_mem ht
    have hstands : StandsIn source (done ++ t :: more) := ⟨[], source, rfl, scan_stands h⟩
    exact hstands.back.marks.slice
  · rintro before c after rfl hcovers
    exact scan_uncovered h (by simpa using hcovers)
  · intro i j hij hj
    have hparts : ts.take i ++ ((ts.take (j + 1)).drop i ++ ts.drop (j + 1)) = ts := by
      have hfront : ts.take i = (ts.take (j + 1)).take i := by
        rw [List.take_take, Nat.min_eq_left (by omega)]
      rw [← List.append_assoc, hfront, List.take_append_drop, List.take_append_drop]
    have hlength : i < (ts.take (j + 1)).length := by
      rw [List.length_take]
      omega
    refine tokenize_part (h.trans (congrArg _ hparts.symm)) ?_ ?_
    · rw [List.head?_drop, List.getElem?_take_of_lt (by omega)]
      exact List.getElem?_eq_getElem _
    · rw [List.getLast?_drop, if_neg (by omega), List.getLast?_take]
      simp [List.getElem?_eq_getElem hj]

/-- Numbers and a quoted text without blanks between them, behind a letter of two bytes. -/
def adjacentText : List Char := "ü ge -INF-5L eq'it''s'".toList

/-- The tokens of the adjacent text. -/
def adjacentTokens : List Token :=
  [⟨.identifier "ü", ['ü'], ⟨0, 2⟩⟩,
    ⟨.identifier "ge", ['g', 'e'], ⟨3, 5⟩⟩,
    ⟨.literal (.double (.infinite true)), ['-', 'I', 'N', 'F'], ⟨6, 10⟩⟩,
    ⟨.literal (.long (-5)), ['-', '5', 'L'], ⟨10, 13⟩⟩,
    ⟨.identifier "eq", ['e', 'q'], ⟨14, 16⟩⟩,
    ⟨.literal (.string "it's"), "'it''s'".toList, ⟨16, 23⟩⟩]

theorem tokenize_local_adjacent :
    tokenize adjacentText = .ok adjacentTokens ∧
      ∃ us, tokenize "-INF-5L eq".toList = .ok us ∧
        us.map (Token.shifted 6) = (adjacentTokens.take 5).drop 2 := by
  have h : tokenize adjacentText = .ok adjacentTokens := by decide +kernel
  exact ⟨h, (tokenize_local h).2.2.2 2 4 (by decide) (by decide)⟩

end OData

end Polyquery
