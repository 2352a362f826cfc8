import Polyquery.OData.Token
import Polyquery.Proofs.Characters
import Polyquery.Proofs.LiteralText
import Polyquery.Text.Delimited

/-!
# Texts and the tokens they scan to

A text that is put together from words, constants and punctuation scans to the tokens of its
pieces, as long as every piece that could grow is followed by a character that cannot extend it.

* `Boundary` - texts that extend no word, number or quoted text in front of them;
* `Lexes cs ks` - wherever `cs` stands, in front of any boundary, it scans to tokens of kinds `ks`;
* `Lexes.append`, `Lexes.blank`, `Lexes.punctuation` - how texts are put together;
* `Lexes.word`, `Lexes.identifier`, `Lexes.int`, `Lexes.long`, `Lexes.string`, `Lexes.typed` - the
  pieces.
-/

namespace Polyquery.OData

/-! ### Boundaries -/

/-- A text that extends no word, number or quoted text in front of it. -/
def Boundary (rest : List Char) : Prop :=
  ∀ c ∈ rest.head?, isWordChar c = false ∧ c ≠ '\''

theorem boundary_nil : Boundary [] := by
  intro c hc
  cases hc

theorem boundary_cons {c : Char} {cs : List Char} (hw : isWordChar c = false) (hq : c ≠ '\'') :
    Boundary (c :: cs) := by
  intro d hd
  obtain rfl : c = d := by simpa using hd
  exact ⟨hw, hq⟩

theorem Boundary.append {cs rest : List Char} (h : Boundary cs) (hr : Boundary rest) :
    Boundary (cs ++ rest) := by
  cases cs with
  | nil => exact hr
  | cons c cs =>
    intro d hd
    exact h d (by simpa using hd)

theorem Boundary.not_wordChar {rest : List Char} (h : Boundary rest) :
    ∀ c ∈ rest.head?, isWordChar c = false := fun c hc => (h c hc).1

theorem isWordChar_eq_false {c : Char} (h : isWordChar c = false) :
    Text.isAlphabetic c = false ∧ Text.isAlphanumeric c = false ∧ Text.isAsciiDigit c = false ∧
      c ≠ '_' ∧ c ≠ '$' ∧ c ≠ '.' := by
  simp only [isWordChar, Bool.or_eq_false_iff, decide_eq_false_iff_not] at h
  obtain ⟨⟨⟨ha, hu⟩, hd⟩, hp⟩ := h
  refine ⟨?_, ha, ?_, hu, hd, hp⟩
  · simp only [Text.isAlphanumeric, Bool.or_eq_false_iff] at ha
    exact ha.1
  · rw [← Bool.not_eq_true]
    intro hdigit
    rw [Text.isAlphanumeric_of_isAsciiDigit hdigit] at ha
    cases ha

/-! ### Scanning piece by piece -/

theorem scan_nil (pos : Nat) : scan pos [] = .ok [] := by
  rw [scan]

theorem scan_blank {c : Char} (h : Text.isBlank c = true) (pos : Nat) (cs : List Char) :
    scan pos (c :: cs) = scan (pos + c.utf8Size) cs := by
  rw [scan, if_pos h]

theorem scan_lexeme {pos : Nat} {c : Char} {cs : List Char} {l : Lexeme}
    (hb : Text.isBlank c = false) (h : lexeme pos c cs = .ok l) :
    scan pos (c :: cs)
      = (scan (pos + Text.byteLength l.taken) l.rest).map
          (⟨l.kind, l.taken, ⟨pos, pos + Text.byteLength l.taken⟩⟩ :: ·) := by
  rw [scan, if_neg (by simp [hb])]
  split
  · rename_i e he
    rw [h] at he
    cases he
  · rename_i l' hl
    rw [h] at hl
    cases hl
    rfl

/-- A text scans to tokens of the given kinds wherever it stands, in front of any boundary.  The
tokens depend on the place of the text, and on nothing behind it. -/
def Lexes (cs : List Char) (ks : List TokenKind) : Prop :=
  ∀ pos, ∃ ts : List Token, ts.map Token.kind = ks ∧
    ∀ rest, Boundary rest →
      scan pos (cs ++ rest) = (scan (pos + Text.byteLength cs) rest).map (ts ++ ·)

namespace Lexes

theorem map_append (r : Except SyntaxError (List Token)) (ts ts' : List Token) :
    (r.map (ts' ++ ·)).map (ts ++ ·) = r.map (ts ++ ts' ++ ·) := by
  cases r with
  | error e => rfl
  | ok us => simp [Except.map]

theorem nil : Lexes [] [] := by
  intro pos
  refine ⟨[], rfl, fun rest _ => ?_⟩
  simp only [List.nil_append, Text.byteLength_nil, Nat.add_zero]
  cases scan pos rest <;> rfl

/-- Two texts lex one behind the other if the second does not extend the first. -/
theorem append {a b : List Char} {ka kb : List TokenKind} (ha : Lexes a ka) (hb : Lexes b kb)
    (h : Boundary b) : Lexes (a ++ b) (ka ++ kb) := by
  intro pos
  obtain ⟨ts, hts, hscan⟩ := ha pos
  obtain ⟨us, hus, hscan'⟩ := hb (pos + Text.byteLength a)
  refine ⟨ts ++ us, by rw [List.map_append, hts, hus], fun rest hr => ?_⟩
  rw [List.append_assoc, hscan _ (h.append hr), hscan' _ hr, map_append, Text.byteLength_append,
    Nat.add_assoc]

theorem blank {c : Char} {cs : List Char} {ks : List TokenKind} (hc : Text.isBlank c = true)
    (h : Lexes cs ks) : Lexes (c :: cs) ks := by
  intro pos
  obtain ⟨ts, hts, hscan⟩ := h (pos + c.utf8Size)
  refine ⟨ts, hts, fun rest hr => ?_⟩
  rw [List.cons_append, scan_blank hc, hscan rest hr, Text.byteLength_cons, Nat.add_assoc]

/-- A piece that is one token in front of any boundary. -/
theorem of_lexeme {c : Char} {cs : List Char} {k : TokenKind} (hb : Text.isBlank c = false)
    (h : ∀ pos rest, Boundary rest → lexeme pos c (cs ++ rest) = .ok ⟨k, c :: cs, rest⟩) :
    Lexes (c :: cs) [k] := by
  intro pos
  refine ⟨[⟨k, c :: cs, ⟨pos, pos + Text.byteLength (c :: cs)⟩⟩], rfl, fun rest hr => ?_⟩
  rw [List.cons_append, scan_lexeme hb (h pos rest hr)]
  rfl

/-- Punctuation is a token whatever stands behind it. -/
theorem punctuation {c : Char} {k : TokenKind} (hc : punctuation? c = some k)
    (hb : Text.isBlank c = false) {cs : List Char} {ks : List TokenKind} (h : Lexes cs ks) :
    Lexes (c :: cs) (k :: ks) := by
  intro pos
  obtain ⟨ts, hts, hscan⟩ := h (pos + Text.byteLength [c])
  refine ⟨⟨k, [c], ⟨pos, pos + Text.byteLength [c]⟩⟩ :: ts, by rw [List.map_cons, hts],
    fun rest hr => ?_⟩
  have hl : lexeme pos c (cs ++ rest) = .ok ⟨k, [c], cs ++ rest⟩ := by
    rw [lexeme, hc]
  rw [List.cons_append, scan_lexeme hb hl, hscan rest hr]
  simp only [Text.byteLength_cons, Text.byteLength_nil, Nat.add_zero, Nat.add_assoc]
  cases scan (pos + (c.utf8Size + Text.byteLength cs)) rest <;> rfl

end Lexes

/-! ### Words -/

theorem isWordStart_cases {c : Char} (h : isWordStart c = true) :
    punctuation? c = none ∧ c ≠ '\'' ∧ c ≠ '-' ∧ Text.isAsciiDigit c = false ∧
      Text.isBlank c = false := by
  have hne : ∀ d : Char, isWordStart d = false → c ≠ d := by
    intro d hd hcd
    rw [← hcd, h] at hd
    cases hd
  refine ⟨?_, hne _ (by decide), hne _ (by decide), ?_, ?_⟩
  · unfold punctuation?
    split <;> first | rfl | exact absurd rfl (hne _ (by decide))
  · rw [← Bool.not_eq_true]
    intro hdigit
    simp only [isWordStart, Text.isAlphabetic_of_isAsciiDigit hdigit, Bool.false_or,
      Bool.or_eq_true, decide_eq_true_eq] at h
    rcases h with rfl | rfl <;> exact absurd hdigit (by decide)
  · simp only [isWordStart, Bool.or_eq_true, decide_eq_true_eq] at h
    rcases h with (h | rfl) | rfl
    · exact Text.isBlank_of_isAlphabetic h
    · decide
    · decide

/-- Whether a text is a word: a letter, underscore or dollar sign, and word characters behind it. -/
def isWord : List Char → Bool
  | [] => false
  | c :: rest => isWordStart c && rest.all isWordChar

theorem isWord_iff {cs : List Char} : isWord cs = true ↔
    ∃ c rest, cs = c :: rest ∧ isWordStart c = true ∧ ∀ d ∈ rest, isWordChar d = true := by
  cases cs with
  | nil => simp [isWord]
  | cons c rest =>
    rw [isWord, Bool.and_eq_true, List.all_eq_true]
    constructor
    · intro h
      exact ⟨c, rest, rfl, h⟩
    · rintro ⟨d, tail, heq, h⟩
      obtain ⟨rfl, rfl⟩ := List.cons.inj heq
      exact h

theorem lexeme_word {c : Char} {cs rest : List Char} (hc : isWordStart c = true)
    (hcs : ∀ d ∈ cs, isWordChar d = true) (hr : Boundary rest) (pos : Nat) :
    lexeme pos c (cs ++ rest) = .ok ⟨wordKind (String.ofList (c :: cs)), c :: cs, rest⟩ := by
  obtain ⟨hpunct, hquote, hminus, hdigit, -⟩ := isWordStart_cases hc
  simp only [lexeme, hpunct, hquote, hminus, hdigit, hc, if_false, if_true, decide_false,
    Bool.false_and, Bool.or_self, Bool.false_eq_true]
  unfold wordLexeme
  rw [Text.takeWhile_append_run _ hcs hr.not_wordChar,
    Text.dropWhile_append_run _ hcs hr.not_wordChar]
  cases rest with
  | nil => rfl
  | cons d rest =>
    have hd : d ≠ '\'' := (hr d (by simp)).2
    simp only
    split
    · rename_i heq
      exact absurd (List.cons.inj heq).1 hd
    · rfl

theorem Lexes.word {cs : List Char} (h : isWord cs = true) :
    Lexes cs [wordKind (String.ofList cs)] := by
  obtain ⟨c, rest, rfl, hc, hrest⟩ := isWord_iff.1 h
  exact .of_lexeme (isWordStart_cases hc).2.2.2.2 fun pos _ hr => lexeme_word hc hrest hr pos

/-- A name that scans to one identifier: a word, and not the word of a literal. -/
def IsIdentifier (name : String) : Prop :=
  isWord name.toList = true ∧ wordKind name = .identifier name

instance (name : String) : Decidable (IsIdentifier name) :=
  inferInstanceAs (Decidable (_ ∧ _))

theorem Lexes.identifier {name : String} (h : IsIdentifier name) :
    Lexes name.toList [.identifier name] := by
  have hlex := Lexes.word h.1
  rw [String.ofList_toList, h.2] at hlex
  exact hlex

/-! ### Integers -/

/-- A text that extends no digits in front of it. -/
def EndsDigits (rest : List Char) : Prop :=
  ∀ c ∈ rest.head?, Text.isAsciiDigit c = false ∧ c ≠ '.' ∧ c ≠ 'e' ∧ c ≠ 'E'

theorem Boundary.endsDigits {rest : List Char} (h : Boundary rest) : EndsDigits rest := by
  intro c hc
  obtain ⟨ha, -, hd, -, -, hp⟩ := isWordChar_eq_false (h c hc).1
  refine ⟨hd, hp, ?_, ?_⟩
  · rintro rfl
    exact absurd ha (by decide)
  · rintro rfl
    exact absurd ha (by decide)

theorem fractionPart_of_endsDigits {rest : List Char} (h : EndsDigits rest) :
    fractionPart rest = ([], rest) := by
  unfold fractionPart
  split
  · exact absurd rfl (h '.' (by simp)).2.1
  · rfl

theorem exponentPart_of_endsDigits {rest : List Char} (h : EndsDigits rest) :
    exponentPart rest = ([], rest) := by
  unfold exponentPart
  split
  · rename_i e d tail
    obtain ⟨-, -, he, hE⟩ := h e (by simp)
    rw [if_neg (by simp [he, hE])]
  · rfl

theorem unsignedNumeral_digits {ds rest : List Char} (hds : ∀ d ∈ ds, Text.isAsciiDigit d = true)
    (hr : EndsDigits rest) : unsignedNumeral (ds ++ rest) = ⟨ds, false, rest⟩ := by
  have hspan : spanDigits (ds ++ rest) = (ds, rest) := by
    rw [spanDigits, Text.takeWhile_append_run _ hds fun c hc => (hr c hc).1,
      Text.dropWhile_append_run _ hds fun c hc => (hr c hc).1]
  simp only [unsignedNumeral, hspan, fractionPart_of_endsDigits hr, exponentPart_of_endsDigits hr,
    List.append_nil, List.isEmpty_nil, Bool.not_true, Bool.or_self]

/-- The decimal characters of an integer are read as a numeral without a fraction. -/
theorem numeral_chars (n : Int) {rest : List Char} (hr : EndsDigits rest) :
    numeral (Integer.chars n ++ rest) = ⟨Integer.chars n, false, rest⟩ := by
  have hds : ∀ d ∈ Nat.toDigits 10 n.natAbs, Text.isAsciiDigit d = true :=
    fun d hd => Integer.isAsciiDigit_of_mem_toDigits hd
  unfold Integer.chars
  by_cases hneg : n < 0
  · rw [if_pos hneg, List.cons_append]
    show ({ unsignedNumeral (Nat.toDigits 10 n.natAbs ++ rest) with
        taken := '-' :: (unsignedNumeral (Nat.toDigits 10 n.natAbs ++ rest)).taken } : Numeral) = _
    rw [unsignedNumeral_digits hds hr]
  · rw [if_neg hneg]
    obtain ⟨d, ds, heq, hd⟩ := Integer.toDigits_eq_cons n.natAbs
    have hnum : numeral (d :: ds ++ rest) = unsignedNumeral (d :: ds ++ rest) := by
      unfold numeral
      split
      · rename_i hcons
        obtain ⟨rfl, -⟩ := List.cons.inj hcons
        exact absurd hd (by decide)
      · rfl
    rw [heq, hnum, ← heq, unsignedNumeral_digits hds hr]

theorem numberLexeme_int (n : Int64) {rest : List Char} (hr : Boundary rest) :
    numberLexeme (Integer.chars n.toInt ++ rest)
      = .ok ⟨.literal (.int n), Integer.chars n.toInt, rest⟩ := by
  unfold numberLexeme
  rw [numeral_chars n.toInt hr.endsDigits]
  have hvalue : unsuffixed? ⟨Integer.chars n.toInt, false, rest⟩ = some (.int n) := by
    simp [unsuffixed?, Integer.parse64?_chars]
  cases rest with
  | nil => simp only [hvalue, literalLexeme]
  | cons c rest =>
    obtain ⟨ha, -, -, hu, -, -⟩ := isWordChar_eq_false (hr c (by simp)).1
    have hs : isSuffix c = false := by
      rw [← Bool.not_eq_true]
      intro hs
      simp only [isSuffix, List.mem_cons, List.not_mem_nil, or_false, decide_eq_true_eq] at hs
      rcases hs with rfl | rfl | rfl | rfl | rfl | rfl | rfl | rfl <;> exact absurd ha (by decide)
    simp only [hs, ha, hu, Bool.false_eq_true, if_false, decide_false, Bool.or_self, hvalue,
      literalLexeme]

theorem numberLexeme_long (n : Int64) {rest : List Char} (hr : Boundary rest) :
    numberLexeme (Integer.chars n.toInt ++ 'L' :: rest)
      = .ok ⟨.literal (.long n), Integer.chars n.toInt ++ ['L'], rest⟩ := by
  unfold numberLexeme
  have hends : EndsDigits ('L' :: rest) := by
    intro c hc
    obtain rfl : 'L' = c := by simpa using hc
    decide
  rw [numeral_chars n.toInt hends]
  have hvalue : suffixed? ⟨Integer.chars n.toInt, false, 'L' :: rest⟩ 'L' = some (.long n) := by
    simp [suffixed?, Integer.parse64?_chars]
  cases rest with
  | nil => simp only [hvalue, literalLexeme, show isSuffix 'L' = true from by decide, if_true]
  | cons c rest =>
    obtain ⟨-, ha, -, hu, -, -⟩ := isWordChar_eq_false (hr c (by simp)).1
    simp only [hvalue, literalLexeme, show isSuffix 'L' = true from by decide, if_true, ha, hu,
      decide_false, Bool.or_self, Bool.false_eq_true, if_false]

/-- The token of a number that starts with a digit or with a sign in front of one. -/
theorem lexeme_number {c : Char} {cs : List Char} {l : Lexeme} (pos : Nat)
    (hc : Text.isAsciiDigit c = true ∨ c = '-' ∧ ∃ d ∈ cs.head?, Text.isAsciiDigit d = true)
    (h : numberLexeme (c :: cs) = .ok l) : lexeme pos c cs = .ok l := by
  have hne : ∀ e : Char, Text.isAsciiDigit e = false → e ≠ '-' → c ≠ e := by
    rintro e he hsign rfl
    rcases hc with hc | ⟨hc, -⟩
    · rw [he] at hc
      cases hc
    · exact hsign hc
  have hpunct : punctuation? c = none := by
    unfold punctuation?
    split <;> first | rfl | exact absurd rfl (hne _ (by decide) (by decide))
  have hstart : (Text.isAsciiDigit c || (decide (c = '-') && startsNegative cs)) = true := by
    rcases hc with hc | ⟨rfl, d, hd, hdigit⟩
    · rw [hc, Bool.true_or]
    · cases cs with
      | nil => cases hd
      | cons e cs =>
        obtain rfl : e = d := by simpa using hd
        simp [startsNegative, hdigit]
  have hinf : (decide (c = '-') && negativeInfinity.isPrefixOf (c :: cs)) = false := by
    rcases hc with hc | ⟨rfl, d, hd, hdigit⟩
    · have hsign : c ≠ '-' := by
        rintro rfl
        exact absurd hc (by decide)
      simp [hsign]
    · cases cs with
      | nil => rfl
      | cons e cs =>
        obtain rfl : e = d := by simpa using hd
        have hI : e ≠ 'I' := by
          rintro rfl
          exact absurd hdigit (by decide)
        simp [negativeInfinity, List.isPrefixOf, Ne.symm hI]
  simp only [lexeme, hpunct, hne '\'' (by decide) (by decide), hstart, hinf, h, if_true, if_false,
    Bool.false_eq_true]

/-- What the first character of an integer's text makes the lexer do. -/
theorem lexeme_chars {n : Int} {c : Char} {cs : List Char} (h : Integer.chars n = c :: cs)
    (pos : Nat) (rest : List Char) (l : Lexeme) (hl : numberLexeme (c :: (cs ++ rest)) = .ok l) :
    lexeme pos c (cs ++ rest) = .ok l := by
  refine lexeme_number pos ?_ hl
  unfold Integer.chars at h
  obtain ⟨d, ds, heq, hd⟩ := Integer.toDigits_eq_cons n.natAbs
  rw [heq] at h
  split at h
  · obtain ⟨rfl, rfl⟩ := List.cons.inj h
    exact .inr ⟨rfl, d, rfl, hd⟩
  · obtain ⟨rfl, rfl⟩ := List.cons.inj h
    exact .inl hd

theorem isBlank_chars {n : Int} {c : Char} {cs : List Char} (h : Integer.chars n = c :: cs) :
    Text.isBlank c = false := by
  unfold Integer.chars at h
  obtain ⟨d, ds, heq, hd⟩ := Integer.toDigits_eq_cons n.natAbs
  rw [heq] at h
  split at h
  · obtain ⟨rfl, -⟩ := List.cons.inj h
    decide
  · obtain ⟨rfl, -⟩ := List.cons.inj h
    exact Text.isBlank_of_isAsciiDigit hd

theorem chars_eq_cons (n : Int) : ∃ c cs, Integer.chars n = c :: cs := by
  obtain ⟨d, ds, heq, -⟩ := Integer.toDigits_eq_cons n.natAbs
  unfold Integer.chars
  rw [heq]
  split
  · exact ⟨_, _, rfl⟩
  · exact ⟨_, _, rfl⟩

theorem Lexes.int (n : Int64) : Lexes (Integer.chars n.toInt) [.literal (.int n)] := by
  obtain ⟨c, cs, h⟩ := chars_eq_cons n.toInt
  rw [h]
  refine .of_lexeme (isBlank_chars h) fun pos rest hr => lexeme_chars h pos rest _ ?_
  rw [← List.cons_append, ← h, numberLexeme_int n hr]

theorem Lexes.long (n : Int64) : Lexes (Integer.chars n.toInt ++ ['L']) [.literal (.long n)] := by
  obtain ⟨c, cs, h⟩ := chars_eq_cons n.toInt
  rw [h, List.cons_append]
  refine .of_lexeme (isBlank_chars h) fun pos rest hr => ?_
  rw [List.append_assoc]
  have hl := numberLexeme_long n hr
  rw [h] at hl
  exact lexeme_chars h pos _ _ hl

/-! ### Quoted text -/

theorem quotedText?_doubling (cs : List Char) {rest : List Char} (hr : ∀ c ∈ rest.head?, c ≠ '\'') :
    quotedText? (Text.doubling '\'' cs ++ '\'' :: rest)
      = some (cs, Text.doubling '\'' cs ++ ['\''], rest) := by
  induction cs with
  | nil =>
    show quotedText? ('\'' :: rest) = some ([], ['\''], rest)
    cases rest with
    | nil => rfl
    | cons c rest => rw [quotedText?.eq_3 _ (by simpa using hr c (by simp))]
  | cons c cs ih =>
    by_cases hc : c = '\''
    · subst hc
      show quotedText? ('\'' :: '\'' :: (Text.doubling '\'' cs ++ '\'' :: rest)) = _
      rw [quotedText?, ih]
      rfl
    · have hd : Text.doubling '\'' (c :: cs) = c :: Text.doubling '\'' cs := by
        simp [Text.doubling, hc]
      rw [hd, List.cons_append, quotedText?.eq_4 _ _ (fun _ h _ => hc h) hc, ih]
      rfl

theorem Boundary.not_quote {rest : List Char} (h : Boundary rest) : ∀ c ∈ rest.head?, c ≠ '\'' :=
  fun c hc => (h c hc).2

theorem Lexes.string (s : String) :
    Lexes (Text.delimited '\'' s).toList [.literal (.string s)] := by
  rw [Text.delimited, String.toList_ofList]
  refine .of_lexeme (by decide) fun pos rest hr => ?_
  have hpunct : punctuation? '\'' = none := by decide
  rw [List.append_assoc, List.singleton_append]
  simp only [lexeme, hpunct, if_true, quotedText?_doubling s.toList hr.not_quote,
    String.ofList_toList]

/-- A typed literal: the name of its type and a quoted text. -/
theorem Lexes.typed {name : String} {s : String} {value : Literal}
    (hname : isTypeName (Text.asciiLower name) = true) (hword : isWord name.toList = true)
    (h : typed? (Text.asciiLower name) s.toList = some value) :
    Lexes (name.toList ++ (Text.delimited '\'' s).toList) [.literal value] := by
  obtain ⟨c, cs, hcons, hc, hcs⟩ := isWord_iff.1 hword
  obtain ⟨hpunct, hquote, hminus, hdigit, hblank⟩ := isWordStart_cases hc
  rw [hcons, Text.delimited, String.toList_ofList, List.cons_append]
  refine .of_lexeme hblank fun pos rest hr => ?_
  have hstop : ∀ d ∈ ('\'' :: (Text.doubling '\'' s.toList ++ '\'' :: rest)).head?,
      isWordChar d = false := by
    intro d hd
    obtain rfl : '\'' = d := by simpa using hd
    decide
  have hname' : String.ofList (c :: cs) = name := by
    rw [← hcons, String.ofList_toList]
  simp only [List.append_assoc, List.cons_append, List.nil_append]
  simp only [lexeme, hpunct, hquote, hminus, hdigit, hc, if_false, if_true, decide_false,
    Bool.false_and, Bool.or_self, Bool.false_eq_true]
  unfold wordLexeme
  rw [Text.takeWhile_append_run _ hcs hstop, Text.dropWhile_append_run _ hcs hstop]
  simp only [hname', hname, if_true, quotedText?_doubling s.toList hr.not_quote, h]
  simp

end Polyquery.OData
