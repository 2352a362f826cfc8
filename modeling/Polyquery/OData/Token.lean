import Polyquery.Expr
import Polyquery.Text.Bytes
import Polyquery.Text.Case

/-!
# Tokens of query options

The words, literals and punctuation of OData query option texts, each with its place in the text.

* `TokenKind`, `Token` - the tokens;
* `Lexeme` - a token's characters and the characters after it;
* `lexeme` - the token at the front of a text;
* `tokenize` - the tokens of a text, blanks between them skipped.

Every token takes as many characters as it can, and `lexeme_length` says that it takes at least one.
-/

namespace Polyquery.OData

/-- What a token is.  Identifiers are names, operator words and option names. -/
inductive TokenKind where
  | leftParen
  | rightParen
  | slash
  | comma
  | equals
  | semicolon
  | colon
  | star
  | identifier (name : String)
  | literal (value : Literal)
deriving DecidableEq

/-- A token, its characters, and where they stand. -/
structure Token where
  kind : TokenKind
  text : List Char
  span : Span
deriving DecidableEq

/-- The name of an identifier token. -/
def Token.name? (t : Token) : Option String :=
  match t.kind with
  | .identifier name => some name
  | _ => none

/-- Whether the token is a keyword, in any letter case. -/
def Token.isKeyword (t : Token) (keyword : String) : Bool :=
  match t.name? with
  | some name => Text.asciiLower name == keyword
  | none => false

/-- A token at the front of a text: its kind, its characters, and the characters after it. -/
structure Lexeme where
  kind : TokenKind
  taken : List Char
  rest : List Char

/-- The kind of a punctuation character. -/
def punctuation? (c : Char) : Option TokenKind :=
  match c with
  | '(' => some .leftParen
  | ')' => some .rightParen
  | '/' => some .slash
  | ',' => some .comma
  | '=' => some .equals
  | ';' => some .semicolon
  | ':' => some .colon
  | '*' => some .star
  | _ => none

/-! ### Quoted text -/

/-- Quoted text after its opening quote, a doubled quote standing for one: the text, the characters
taken with the closing quote, and the characters after it. -/
def quotedText? : List Char → Option (List Char × List Char × List Char)
  | [] => none
  | '\'' :: '\'' :: rest =>
    (quotedText? rest).map fun r => ('\'' :: r.1, '\'' :: '\'' :: r.2.1, r.2.2)
  | '\'' :: rest => some ([], ['\''], rest)
  | c :: rest => (quotedText? rest).map fun r => (c :: r.1, c :: r.2.1, r.2.2)

/-! ### Numbers -/

/-- The characters of a number without its suffix, whether it has a fraction or an exponent, and the
characters after it. -/
structure Numeral where
  taken : List Char
  fractional : Bool
  rest : List Char

/-- The leading ASCII digits and the characters after them. -/
def spanDigits (cs : List Char) : List Char × List Char :=
  (cs.takeWhile Text.isAsciiDigit, cs.dropWhile Text.isAsciiDigit)

/-- A point and digits, or nothing. -/
def fractionPart : List Char → List Char × List Char
  | '.' :: d :: rest =>
    if Text.isAsciiDigit d then ('.' :: d :: (spanDigits rest).1, (spanDigits rest).2)
    else ([], '.' :: d :: rest)
  | cs => ([], cs)

/-- An exponent mark, an optional sign and digits, or nothing. -/
def exponentPart : List Char → List Char × List Char
  | e :: d :: rest =>
    if e = 'e' ∨ e = 'E' then
      if Text.isAsciiDigit d then (e :: d :: (spanDigits rest).1, (spanDigits rest).2)
      else if d = '+' ∨ d = '-' then
        match rest with
        | f :: tail =>
          if Text.isAsciiDigit f then (e :: d :: f :: (spanDigits tail).1, (spanDigits tail).2)
          else ([], e :: d :: rest)
        | [] => ([], e :: d :: rest)
      else ([], e :: d :: rest)
    else ([], e :: d :: rest)
  | cs => ([], cs)

/-- The longest number at the front of a text, after an optional minus sign has been taken. -/
def unsignedNumeral (cs : List Char) : Numeral :=
  let whole := spanDigits cs
  let fraction := fractionPart whole.2
  let exponent := exponentPart fraction.2
  ⟨whole.1 ++ fraction.1 ++ exponent.1, !fraction.1.isEmpty || !exponent.1.isEmpty, exponent.2⟩

/-- The longest number at the front of a text. -/
def numeral : List Char → Numeral
  | '-' :: cs =>
    let n := unsignedNumeral cs
    { n with taken := '-' :: n.taken }
  | cs => unsignedNumeral cs

/-- The value of a number with a suffix: `F` single, `D` double, `M` decimal, `L` long. -/
def suffixed? (n : Numeral) (suffix : Char) : Option Literal :=
  if suffix = 'F' ∨ suffix = 'f' then (BinaryFloat.parse? n.taken).map .single
  else if suffix = 'D' ∨ suffix = 'd' then (BinaryFloat.parse? n.taken).map .double
  else if suffix = 'M' ∨ suffix = 'm' then (Decimal.parse? n.taken).map .decimal
  else if n.fractional then none
  else (Integer.parse64? n.taken).map .long

/-- The value of a number without a suffix. -/
def unsuffixed? (n : Numeral) : Option Literal :=
  if n.fractional then (BinaryFloat.parse? n.taken).map .double
  else (Integer.parse64? n.taken).map .int

/-- The suffixes of numbers. -/
def isSuffix (c : Char) : Bool := c ∈ ['F', 'f', 'D', 'd', 'M', 'm', 'L', 'l']

/-- A token, or the characters that a faulty literal takes. -/
def literalLexeme (value : Option Literal) (taken rest : List Char) : Except (List Char) Lexeme :=
  match value with
  | some v => .ok ⟨.literal v, taken, rest⟩
  | none => .error taken

/-- A number and the characters after it; a letter directly behind it makes it faulty. -/
def numberLexeme (cs : List Char) : Except (List Char) Lexeme :=
  let n := numeral cs
  match n.rest with
  | [] => literalLexeme (unsuffixed? n) n.taken []
  | s :: rest =>
    if isSuffix s then
      match rest with
      | c :: _ =>
        if Text.isAlphanumeric c || c = '_' then .error (n.taken ++ [s])
        else literalLexeme (suffixed? n s) (n.taken ++ [s]) rest
      | [] => literalLexeme (suffixed? n s) (n.taken ++ [s]) rest
    else if Text.isAlphabetic s || s = '_' then .error (n.taken ++ [s])
    else literalLexeme (unsuffixed? n) n.taken (s :: rest)

/-- The word for negative infinity. -/
def negativeInfinity : List Char := ['-', 'I', 'N', 'F']

/-- Whether a minus sign starts a number, `cs` being the characters after the sign. -/
def startsNegative (cs : List Char) : Bool :=
  match cs with
  | c :: _ => Text.isAsciiDigit c || negativeInfinity.isPrefixOf ('-' :: cs)
  | [] => false

/-! ### Typed literals -/

/-- The characters after `n` decimal digits. -/
def afterDigits? : Nat → List Char → Option (List Char)
  | 0, cs => some cs
  | n + 1, c :: rest => if Text.isDecimalDigit c then afterDigits? n rest else none
  | _ + 1, [] => none

/-- The characters after a given character. -/
def after? (c : Char) : List Char → Option (List Char)
  | d :: rest => if d = c then some rest else none
  | [] => none

/-- The characters after optional seconds with an optional fraction. -/
def afterSeconds (cs : List Char) : List Char :=
  match (after? ':' cs).bind (afterDigits? 2) with
  | none => cs
  | some rest =>
    match (after? '.' rest).bind (afterDigits? 1) with
    | none => rest
    | some tail => tail.dropWhile Text.isDecimalDigit

/-- The characters after hours, minutes and optional seconds. -/
def afterClock? (cs : List Char) : Option (List Char) := do
  let cs ← afterDigits? 2 cs
  let cs ← after? ':' cs
  let cs ← afterDigits? 2 cs
  some (afterSeconds cs)

/-- The characters after a calendar date. -/
def afterDate? (cs : List Char) : Option (List Char) := do
  let cs ← afterDigits? 4 cs
  let cs ← after? '-' cs
  let cs ← afterDigits? 2 cs
  let cs ← after? '-' cs
  afterDigits? 2 cs

/-- Nothing, `Z`, or a signed offset of hours and minutes. -/
def isZone (cs : List Char) : Bool :=
  match cs with
  | [] => true
  | ['Z'] => true
  | s :: rest =>
    (s = '+' || s = '-') &&
      (do
        let cs ← afterDigits? 2 rest
        let cs ← after? ':' cs
        afterDigits? 2 cs) == some []

/-- A date, an optional time of day and an optional zone. -/
def isDateTime (cs : List Char) : Bool :=
  match afterDate? cs with
  | none => false
  | some rest =>
    match after? 'T' rest with
    | none => isZone rest
    | some clock =>
      match afterClock? clock with
      | none => false
      | some zone => isZone zone

/-- A time of day. -/
def isTime (cs : List Char) : Bool := afterClock? cs == some []

/-- Base-64 characters and at most two padding signs. -/
def isBinary (cs : List Char) : Bool :=
  let padding := cs.dropWhile fun c =>
    Text.isAsciiLetter c || Text.isAsciiDigit c || c = '+' || c = '/'
  padding.length ≤ 2 && padding.all (· = '=')

/-- Whether a word in lower case announces a typed literal. -/
def isTypeName (word : String) : Bool := word ∈ ["guid", "datetime", "time", "binary"]

/-- The value of a typed literal. -/
def typed? (typeName : String) (text : List Char) : Option Literal :=
  if typeName = "guid" then (Guid.parse? (String.ofList text)).map .guid
  else if typeName = "datetime" then
    if isDateTime text then some (.dateTime (String.ofList text)) else none
  else if typeName = "time" then
    if isTime text then some (.time (String.ofList text)) else none
  else if typeName = "binary" then
    if isBinary text then some (.binary (String.ofList text)) else none
  else none

/-! ### Words -/

/-- Characters inside a word. -/
def isWordChar (c : Char) : Bool := Text.isAlphanumeric c || c = '_' || c = '$' || c = '.'

/-- Characters that start a word. -/
def isWordStart (c : Char) : Bool := Text.isAlphabetic c || c = '_' || c = '$'

/-- What a word stands for by itself: a constant or a name. -/
def wordKind (word : String) : TokenKind :=
  if word = "true" then .literal (.bool true)
  else if word = "false" then .literal (.bool false)
  else if word = "null" then .literal .null
  else if word = "INF" then .literal (.double (.infinite false))
  else if word = "NaN" then .literal (.double .nan)
  else .identifier word

/-! ### The lexer -/

/-- A fault over the first characters of a text at an offset. -/
def faultOver (pos : Nat) (fault : SyntaxFault) (taken : List Char) : SyntaxError :=
  ⟨fault, ⟨pos, pos + Text.byteLength taken⟩⟩

/-- A faulty literal. -/
def invalidLiteral (pos : Nat) (taken : List Char) : SyntaxError :=
  faultOver pos (.invalidLiteral (String.ofList taken)) taken

/-- A word at the front of a text, or a typed literal whose type it names. -/
def wordLexeme (pos : Nat) (first : Char) (rest : List Char) : Except SyntaxError Lexeme :=
  let chars := first :: rest.takeWhile isWordChar
  let after := rest.dropWhile isWordChar
  let word := String.ofList chars
  let plain : Except SyntaxError Lexeme := .ok ⟨wordKind word, chars, after⟩
  match after with
  | '\'' :: tail =>
    let typeName := Text.asciiLower word
    if isTypeName typeName then
      match quotedText? tail with
      | none => .error (faultOver (pos + Text.byteLength chars) .unterminatedString after)
      | some (text, quotedChars, tail) =>
        let taken := chars ++ '\'' :: quotedChars
        match typed? typeName text with
        | some value => .ok ⟨.literal value, taken, tail⟩
        | none => .error (invalidLiteral pos taken)
    else plain
  | _ => plain

/-- The token at the front of a text that starts with `c` at offset `pos`. -/
def lexeme (pos : Nat) (c : Char) (rest : List Char) : Except SyntaxError Lexeme :=
  match punctuation? c with
  | some kind => .ok ⟨kind, [c], rest⟩
  | none =>
    if c = '\'' then
      match quotedText? rest with
      | none => .error (faultOver pos .unterminatedString (c :: rest))
      | some (text, taken, tail) =>
        .ok ⟨.literal (.string (String.ofList text)), c :: taken, tail⟩
    else if Text.isAsciiDigit c || (c = '-' && startsNegative rest) then
      if c = '-' && negativeInfinity.isPrefixOf (c :: rest) then
        .ok ⟨.literal (.double (.infinite true)), negativeInfinity, rest.drop 3⟩
      else
        match numberLexeme (c :: rest) with
        | .ok l => .ok l
        | .error taken => .error (invalidLiteral pos taken)
    else if isWordStart c then wordLexeme pos c rest
    else .error (faultOver pos (.unknownCharacter c) [c])

/-! ### Progress -/

theorem length_dropWhile_le (p : Char → Bool) (cs : List Char) :
    (cs.dropWhile p).length ≤ cs.length :=
  (List.dropWhile_suffix p).length_le

theorem quotedText?_length {cs text taken rest : List Char}
    (h : quotedText? cs = some (text, taken, rest)) : rest.length < cs.length := by
  fun_induction quotedText? cs generalizing text taken rest with
  | case1 => simp at h
  | case2 tail ih =>
    simp only [Option.map_eq_some_iff, Prod.mk.injEq] at h
    obtain ⟨⟨a, b, c⟩, hr, _, _, hc⟩ := h
    have := ih hr
    simp only at hc
    subst hc
    simp only [List.length_cons]
    omega
  | case3 tail => simp at h; simp [h]
  | case4 c tail _ _ ih =>
    simp only [Option.map_eq_some_iff, Prod.mk.injEq] at h
    obtain ⟨⟨a, b, c⟩, hr, _, _, hc⟩ := h
    have := ih hr
    simp only at hc
    subst hc
    simp only [List.length_cons]
    omega

theorem spanDigits_length (cs : List Char) : (spanDigits cs).2.length ≤ cs.length :=
  length_dropWhile_le _ cs

theorem fractionPart_length (cs : List Char) : (fractionPart cs).2.length ≤ cs.length := by
  unfold fractionPart
  split
  · split
    · have := spanDigits_length ‹List Char›
      simp only [List.length_cons]
      omega
    · exact Nat.le_refl _
  · exact Nat.le_refl _

theorem exponentPart_length (cs : List Char) : (exponentPart cs).2.length ≤ cs.length := by
  unfold exponentPart
  split
  next e d rest =>
    have hr := spanDigits_length rest
    split
    · split
      · simp only [List.length_cons]; omega
      · split
        · split
          next f tail =>
            have ht := spanDigits_length tail
            split
            · simp only [List.length_cons] at *; omega
            · exact Nat.le_refl _
          · exact Nat.le_refl _
        · exact Nat.le_refl _
    · exact Nat.le_refl _
  · exact Nat.le_refl _

theorem unsignedNumeral_length (cs : List Char) : (unsignedNumeral cs).rest.length ≤ cs.length :=
  Nat.le_trans (exponentPart_length _)
    (Nat.le_trans (fractionPart_length _) (spanDigits_length cs))

theorem numeral_length (c : Char) (cs : List Char) (h : Text.isAsciiDigit c ∨ c = '-') :
    (numeral (c :: cs)).rest.length < (c :: cs).length := by
  unfold numeral
  split
  next tail heq =>
    obtain ⟨_, rfl⟩ := List.cons.inj heq
    have := unsignedNumeral_length cs
    simp only [List.length_cons]
    omega
  next hneg =>
    have hc : Text.isAsciiDigit c := by
      rcases h with h | h
      · exact h
      · exact absurd (by rw [h]) (hneg cs)
    have hspan : (spanDigits (c :: cs)).2.length ≤ cs.length := by
      simp only [spanDigits, List.dropWhile_cons, hc, if_true]
      exact length_dropWhile_le _ cs
    have := Nat.le_trans (exponentPart_length (fractionPart (spanDigits (c :: cs)).2).2)
      (Nat.le_trans (fractionPart_length _) hspan)
    simp only [unsignedNumeral, List.length_cons]
    omega

theorem literalLexeme_rest {value : Option Literal} {taken rest : List Char} {l : Lexeme}
    (h : literalLexeme value taken rest = .ok l) : l.rest = rest := by
  unfold literalLexeme at h
  split at h
  · cases h; rfl
  · cases h

theorem numberLexeme_length {cs : List Char} {l : Lexeme} (h : numberLexeme cs = .ok l) :
    l.rest.length ≤ (numeral cs).rest.length := by
  unfold numberLexeme at h
  simp only at h
  split at h
  next hr => simp [literalLexeme_rest h]
  next s rest hr =>
    rw [hr]
    split at h
    · split at h
      · split at h
        · cases h
        · simp [literalLexeme_rest h]
      · simp [literalLexeme_rest h]
    · split at h
      · cases h
      · simp [literalLexeme_rest h]

theorem wordLexeme_length {pos : Nat} {c : Char} {cs : List Char} {l : Lexeme}
    (h : wordLexeme pos c cs = .ok l) : l.rest.length < (c :: cs).length := by
  have hd := length_dropWhile_le isWordChar cs
  unfold wordLexeme at h
  simp only at h
  split at h
  next tail htail =>
    rw [htail] at hd
    split at h
    · split at h
      · cases h
      next hq =>
        have := quotedText?_length hq
        split at h
        · cases h
          simp only [List.length_cons] at *
          omega
        · cases h
    · cases h
      simp only [htail, List.length_cons] at *
      omega
  · cases h
    simp only [List.length_cons] at *
    omega

/-- A token takes at least one character. -/
theorem lexeme_length {pos : Nat} {c : Char} {cs : List Char} {l : Lexeme}
    (h : lexeme pos c cs = .ok l) : l.rest.length < (c :: cs).length := by
  unfold lexeme at h
  split at h
  · cases h; simp
  · split at h
    · split at h
      · cases h
      next hq =>
        cases h
        have := quotedText?_length hq
        simp only [List.length_cons]
        omega
    · split at h
      next hnum =>
        split at h
        · cases h
          simp only [List.length_drop, List.length_cons]
          omega
        · split at h
          next hn =>
            cases h
            have hc : Text.isAsciiDigit c ∨ c = '-' := by
              simp only [Bool.or_eq_true, Bool.and_eq_true, decide_eq_true_eq] at hnum
              rcases hnum with h | h
              · exact Or.inl h
              · exact Or.inr h.1
            exact Nat.lt_of_le_of_lt (numberLexeme_length hn) (numeral_length c cs hc)
          · cases h
      · split at h
        · exact wordLexeme_length h
        · cases h

/-- The tokens of a text that starts at offset `pos`. -/
def scan (pos : Nat) : List Char → Except SyntaxError (List Token)
  | [] => .ok []
  | c :: cs =>
    if Text.isBlank c then scan (pos + c.utf8Size) cs
    else
      match h : lexeme pos c cs with
      | .error e => .error e
      | .ok l =>
        let stop := pos + Text.byteLength l.taken
        have : l.rest.length < cs.length + 1 := lexeme_length h
        (scan stop l.rest).map (⟨l.kind, l.taken, ⟨pos, stop⟩⟩ :: ·)
termination_by cs => cs.length

/-- The tokens of a text. -/
def tokenize (source : List Char) : Except SyntaxError (List Token) := scan 0 source

end Polyquery.OData
