import Polyquery.Proofs.Characters
import Polyquery.Proofs.Number.Layout
import Polyquery.Proofs.Sql.StringLiteral
import Polyquery.Sql.Render

/-!
# SQL tokens and the lexemes of their text

The generic dialect spells tokens so that its own lexical rules find them again.  A name, number or
text constant ends where a blank, a comma or a parenthesis follows.

* `Token.lexemes` - the lexemes that a token is spelled as;
* `Boundary` - texts that extend nothing in front of them;
* `Lexes d cs ls` - wherever `cs` stands in front of a boundary, it is the lexemes `ls`;
* `nextLexeme_bareName`, `nextLexeme_identIn`, `numberLexeme_writes` - names and numbers of every
  dialect;
* `Spelled ts` - the spelling of `ts` is the lexemes of `ts`, with the ways to put tokens together;
* `lexemes?_text` - the lexemes of a whole text.
-/

namespace Polyquery.Sql

/-! ### Lexemes of tokens -/

/-- A name as the generic dialect writes it. -/
def identOf (name : String) : Ident := ⟨name, if isBareName name then none else some '"'⟩

/-- A name as a dialect writes it. -/
def identIn (d : DialectName) (name : String) : Ident :=
  match d with
  | .generic => identOf name
  | .postgres => ⟨name, some '"'⟩
  | .sqlite | .mySql => ⟨name, some graveAccent⟩

/-- A word without quotes. -/
def wordLexeme (text : String) : Lexeme := .word ⟨text, none⟩

/-- The lexemes of a number: a minus sign is one of its own. -/
def signedLexemes (negative : Bool) (digits : String) : List Lexeme :=
  if negative then [.symbol "-", .number digits false] else [.number digits false]

/-- The lexemes of an integer. -/
def intLexemes (n : Int) : List Lexeme :=
  signedLexemes (decide (n < 0)) (Integer.natText n.natAbs)

/-- The digits of a double, without its sign. -/
def floatDigits (f : Double) : String :=
  NumberLayout.literal.render (if f.isNegative then f.neg else f)

/-- The lexemes of a double. -/
def floatLexemes (f : Double) : List Lexeme := signedLexemes f.isNegative (floatDigits f)

namespace Token

/-- The lexemes that the generic dialect spells a token as. -/
def lexemes : Token → List Lexeme
  | .keyword k => [wordLexeme k.text]
  | .symbol text => [.symbol text]
  | .concat => [.symbol "||"]
  | .space => []
  | .ident name => [.word (identOf name)]
  | .int n => intLexemes n.toInt
  | .float f => floatLexemes f
  | .string s => [.text .single s]
  | .bool b => [wordLexeme (if b then "TRUE" else "FALSE")]
  | .null => [wordLexeme "NULL"]
  | .functionName name => [wordLexeme (Text.upper name)]
  | .raw text => [wordLexeme text]

/-- The characters that the generic dialect spells a token with. -/
def chars (t : Token) : List Char := (Dialect.generic.tokenText t).toList

end Token

/-- The characters of the generic spelling of tokens. -/
def spelling (ts : List Token) : List Char := ts.flatMap Token.chars

theorem toList_join (ss : List String) : (String.join ss).toList = ss.flatMap String.toList := by
  induction ss with
  | nil => rfl
  | cons s ss ih => rw [String.join_cons, String.toList_append, ih, List.flatMap_cons]

theorem toList_text (d : Dialect) (ts : List Token) :
    (d.text ts).toList = ts.flatMap fun t => (d.tokenText t).toList := by
  rw [Dialect.text, toList_join, List.flatMap_map]

/-! ### Boundaries -/

/-- The characters that end a lexeme in printed text. -/
def boundaryChars : List Char := [' ', ',', '(', ')']

/-- A text that extends no name, number or text constant in front of it. -/
def Boundary (rest : List Char) : Prop := ∀ c ∈ rest.head?, c ∈ boundaryChars

/-- A text that extends no name in front of it: a point may follow one. -/
def NameEnd (rest : List Char) : Prop := ∀ c ∈ rest.head?, c ∈ '.' :: boundaryChars

theorem boundary_nil : Boundary [] := by
  intro c hc
  cases hc

theorem boundary_cons {c : Char} (h : c ∈ boundaryChars) (cs : List Char) : Boundary (c :: cs) := by
  intro d hd
  obtain rfl : c = d := by simpa using hd
  exact h

theorem Boundary.append {cs rest : List Char} (h : Boundary cs) (hr : Boundary rest) :
    Boundary (cs ++ rest) := by
  cases cs with
  | nil => exact hr
  | cons c cs => exact boundary_cons (h c (by simp)) _

theorem Boundary.nameEnd {rest : List Char} (h : Boundary rest) : NameEnd rest :=
  fun c hc => List.mem_cons_of_mem _ (h c hc)

/-- A property of the few characters that may follow holds of the one that does. -/
theorem Boundary.forall {rest : List Char} (h : Boundary rest) {p : Char → Prop} [DecidablePred p]
    (hp : boundaryChars.all (p ·) = true) : ∀ c ∈ rest.head?, p c := fun c hc =>
  of_decide_eq_true (List.all_eq_true.1 hp c (h c hc))

theorem NameEnd.forall {rest : List Char} (h : NameEnd rest) {p : Char → Prop} [DecidablePred p]
    (hp : ('.' :: boundaryChars).all (p ·) = true) : ∀ c ∈ rest.head?, p c := fun c hc =>
  of_decide_eq_true (List.all_eq_true.1 hp c (h c hc))

/-! ### Reading piece by piece -/

theorem lexemesWithin_nil (d : DialectName) (n : Nat) : lexemesWithin d n [] = some [] := by
  cases n <;> rw [lexemesWithin]

theorem lexemesWithin_lexeme {d : DialectName} {c : Char} {cs rest : List Char} {l : Lexeme}
    (h : nextLexeme d c cs = some (some l, rest)) (n : Nat) :
    lexemesWithin d (n + 1) (c :: cs) = (lexemesWithin d n rest).map (l :: ·) := by
  rw [lexemesWithin, h]

/-- A text is the given lexemes wherever it stands in front of a boundary, each read in a step. -/
def Lexes (d : DialectName) (cs : List Char) (ls : List Lexeme) : Prop :=
  ∃ k, k ≤ cs.length ∧ ∀ n rest, Boundary rest →
    lexemesWithin d (n + k) (cs ++ rest)
      = (lexemesWithin d n rest).map (ls ++ ·)

namespace Lexes

variable {d : DialectName}

theorem nil : Lexes d [] [] := by
  refine ⟨0, Nat.le_refl 0, fun n rest _ => ?_⟩
  rw [Nat.add_zero, List.nil_append]
  cases lexemesWithin d n rest <;> rfl

/-- Two texts lex one behind the other if the second does not extend the first. -/
theorem append {a b : List Char} {la lb : List Lexeme} (ha : Lexes d a la) (hb : Lexes d b lb)
    (h : Boundary b) : Lexes d (a ++ b) (la ++ lb) := by
  obtain ⟨k, hk, hread⟩ := ha
  obtain ⟨m, hm, hread'⟩ := hb
  refine ⟨m + k, by rw [List.length_append]; omega, fun n rest hr => ?_⟩
  rw [List.append_assoc, ← Nat.add_assoc, hread _ _ (h.append hr), hread' _ _ hr, Option.map_map]
  congr 1
  funext ls
  exact (List.append_assoc la lb ls).symm

theorem blank {cs : List Char} {ls : List Lexeme} (h : Lexes d cs ls) : Lexes d (' ' :: cs) ls := by
  obtain ⟨k, hk, hread⟩ := h
  refine ⟨k + 1, by rw [List.length_cons]; omega, fun n rest hr => ?_⟩
  rw [← hread n rest hr, ← Nat.add_assoc]
  rfl

/-- A piece that is one lexeme whatever follows it, or followed by the text behind it. -/
theorem cons {c : Char} {cs tail : List Char} {l : Lexeme} {ls : List Lexeme}
    (h : ∀ rest, Boundary rest →
      nextLexeme d c (cs ++ (tail ++ rest)) = some (some l, tail ++ rest))
    (htail : Lexes d tail ls) : Lexes d (c :: (cs ++ tail)) (l :: ls) := by
  obtain ⟨k, hk, hread⟩ := htail
  refine ⟨k + 1, by simp only [List.length_cons, List.length_append]; omega, fun n rest hr => ?_⟩
  rw [List.cons_append, List.append_assoc, ← Nat.add_assoc, lexemesWithin_lexeme (h rest hr),
    hread n rest hr, Option.map_map]
  rfl

/-- A piece that is one lexeme in front of any boundary. -/
theorem of_lexeme {c : Char} {cs : List Char} {l : Lexeme}
    (h : ∀ rest, Boundary rest → nextLexeme d c (cs ++ rest) = some (some l, rest)) :
    Lexes d (c :: cs) [l] := by
  have hread : ∀ rest, Boundary rest →
      nextLexeme d c (cs ++ ([] ++ rest)) = some (some l, [] ++ rest) := h
  have hcons := cons hread nil
  rwa [List.append_nil] at hcons

/-- A character that is one lexeme in front of the text behind it. -/
theorem single {c : Char} {tail : List Char} {l : Lexeme} {ls : List Lexeme}
    (h : ∀ rest, nextLexeme d c (tail ++ rest) = some (some l, tail ++ rest))
    (htail : Lexes d tail ls) : Lexes d (c :: tail) (l :: ls) :=
  @cons d c [] tail l ls (fun rest _ => h rest) htail

end Lexes

/-! ### Names -/

section Names

variable {d : DialectName}

theorem isNamePart_of_bare {c : Char}
    (h : (Text.isAsciiLetter c || Text.isAsciiDigit c || decide (c = '_')) = true) :
    isNamePart d c = true := by
  simp only [Bool.or_eq_true, decide_eq_true_eq] at h
  rcases h with (h | h) | rfl
  · have hc : c.toNat < 128 := by
      simp only [Text.isAsciiLetter, Bool.or_eq_true, Bool.and_eq_true, decide_eq_true_eq] at h
      omega
    cases d <;>
      simp only [isNamePart, isNameStart, Text.isAlphabetic, if_pos hc, h, Bool.true_or]
  · cases d <;> simp only [isNamePart, h, Bool.or_true, Bool.true_or]
  · cases d <;> decide

theorem NameEnd.not_isNamePart {rest : List Char} (h : NameEnd rest) :
    ∀ c ∈ rest.head?, isNamePart d c = false := by
  cases d <;> exact h.forall (by decide)

/-- A letter starts a word where no quote follows it. -/
theorem letterLexeme_of_head {c : Char} {rest : List Char}
    (h : ∀ e ∈ rest.head?, e ≠ '\'' ∧ e ≠ '"' ∧ e ≠ '&') :
    letterLexeme d c rest = some (wordFrom d [c] rest) := by
  unfold letterLexeme
  split
  · exact absurd rfl (h '\'' (by simp)).1
  · exact absurd rfl (h '"' (by simp)).2.1
  · exact absurd rfl (h '&' (by simp)).2.2
  · rfl

theorem nextLexeme_letter {c : Char} (h : Text.isAsciiLetter c = true) (rest : List Char) :
    nextLexeme d c rest
      = (letterLexeme d c rest).map fun read => (some read.1, read.2) := by
  have hne : ∀ e : Char, Text.isAsciiLetter e = false → c ≠ e := by
    rintro e he rfl
    rw [h] at he
    cases he
  simp only [nextLexeme, closingQuote?, h, hne ' ' (by decide), hne '\t' (by decide),
    hne '\n' (by decide), hne '\x0d' (by decide), hne '\'' (by decide), hne '"' (by decide),
    hne '\x60' (by decide), hne '[' (by decide), decide_false, Bool.or_self, Bool.false_and,
    Bool.false_eq_true, if_false, if_true]

theorem nextLexeme_underscore (rest : List Char) :
    nextLexeme d '_' rest
      = some (some (wordFrom d ['_'] rest).1, (wordFrom d ['_'] rest).2) := by
  cases d <;> rfl

/-- A bare name up to a character that is no part of one. -/
theorem nextLexeme_bareName {name : String} (h : isBareName name = true) :
    ∃ c cs, name.toList = c :: cs ∧ Text.isAsciiDigit c = false ∧
      ∀ rest, NameEnd rest →
        nextLexeme d c (cs ++ rest) = some (some (wordLexeme name), rest) := by
  unfold isBareName at h
  cases hname : name.toList with
  | nil =>
    rw [hname] at h
    cases h
  | cons c cs =>
    rw [hname] at h
    simp only [Bool.and_eq_true, List.all_eq_true] at h
    obtain ⟨hc, hcs⟩ := h
    have hparts : ∀ e ∈ cs, isNamePart d e = true := fun e he =>
      isNamePart_of_bare (hcs e he)
    have hword : ∀ rest, NameEnd rest →
        wordFrom d [c] (cs ++ rest) = (wordLexeme name, rest) := by
      intro rest hr
      have hend : ∀ e ∈ rest.head?, isNamePart d e = false := hr.not_isNamePart
      rw [wordFrom, Text.takeWhile_append_run _ hparts hend, Text.dropWhile_append_run _ hparts hend,
        List.singleton_append, ← hname, String.ofList_toList]
      rfl
    simp only [Bool.or_eq_true, decide_eq_true_eq] at hc
    rcases hc with hletter | rfl
    · refine ⟨c, cs, rfl, ?_, fun rest hr => ?_⟩
      · rw [← Bool.not_eq_true]
        intro hdigit
        simp only [Text.isAsciiDigit, Text.isAsciiLetter, Bool.or_eq_true, Bool.and_eq_true,
          decide_eq_true_eq] at hdigit hletter
        omega
      · have hhead : ∀ e ∈ (cs ++ rest).head?, e ≠ '\'' ∧ e ≠ '"' ∧ e ≠ '&' := by
          intro e he
          cases cs with
          | nil => exact hr.forall (p := fun e => e ≠ '\'' ∧ e ≠ '"' ∧ e ≠ '&') (by decide) e he
          | cons next cs =>
            obtain rfl : next = e := by simpa using he
            have hpart := hcs next (by simp)
            refine ⟨?_, ?_, ?_⟩ <;> rintro rfl <;> exact absurd hpart (by decide)
        rw [nextLexeme_letter hletter, letterLexeme_of_head hhead, hword rest hr]
        rfl
    · refine ⟨'_', cs, rfl, by decide, fun rest hr => ?_⟩
      rw [nextLexeme_underscore, hword rest hr]

/-- A name between quotes that open names in a dialect. -/
theorem nextLexeme_quotedName {q : Char} (hq : q = '"' ∨ q = '\x60')
    (hnext : ∀ cs, nextLexeme d q cs = (quotedText q false cs).map fun read =>
      (some (.word ⟨String.ofList read.1, some q⟩), read.2)) (name : String) :
    ∃ c cs, (Text.delimited q name).toList = c :: cs ∧ Text.isAsciiDigit c = false ∧
      ∀ rest, NameEnd rest →
        nextLexeme d c (cs ++ rest) = some (some (.word ⟨name, some q⟩), rest) := by
  refine ⟨q, Text.doubling q name.toList ++ [q], ?_, ?_, fun rest hr => ?_⟩
  · rw [Text.delimited, String.toList_ofList]
  · rcases hq with rfl | rfl <;> decide
  · have hend : ∀ c ∈ rest.head?, c ≠ q := by
      rcases hq with rfl | rfl
      · exact hr.forall (p := fun c => c ≠ '"') (by decide)
      · exact hr.forall (p := fun c => c ≠ '\x60') (by decide)
    have hquoted : quotedText q false (Text.doubling q name.toList ++ q :: rest)
        = some (name.toList, rest) := quotedText_doubling (by simp) hend
    rw [hnext, List.append_assoc, List.singleton_append, hquoted, Option.map_some,
      String.ofList_toList]

/-- A name as a dialect writes it, bare or in quotes. -/
theorem nextLexeme_identIn (d : DialectName) (name : String) :
    ∃ c cs, (d.dialect.quoteIdentifier name).toList = c :: cs ∧ Text.isAsciiDigit c = false ∧
      ∀ rest, NameEnd rest →
        nextLexeme d c (cs ++ rest) = some (some (.word (identIn d name)), rest) := by
  cases d with
  | generic =>
    show ∃ c cs, (quoteIfNeeded name).toList = c :: cs ∧ _
    by_cases h : isBareName name = true
    · have hident : Lexeme.word (identIn .generic name) = wordLexeme name := by
        rw [identIn, identOf, if_pos h, wordLexeme]
      rw [quoteIfNeeded, if_pos h, hident]
      exact nextLexeme_bareName h
    · rw [quoteIfNeeded, if_neg h, identIn, identOf, if_neg h]
      exact nextLexeme_quotedName (.inl rfl) (fun _ => rfl) name
  | postgres => exact nextLexeme_quotedName (.inl rfl) (fun _ => rfl) name
  | sqlite => exact nextLexeme_quotedName (.inr rfl) (fun _ => rfl) name
  | mySql => exact nextLexeme_quotedName (.inr rfl) (fun _ => rfl) name

end Names

/-! ### Numbers -/

theorem exponentPart_of_boundary {rest : List Char} (hr : Boundary rest) :
    exponentPart rest = ([], rest) := by
  cases rest with
  | nil => rfl
  | cons c rest =>
    have hc : c ≠ 'e' ∧ c ≠ 'E' :=
      hr.forall (p := fun c => c ≠ 'e' ∧ c ≠ 'E') (by decide) c rfl
    simp only [exponentPart, hc, decide_false, Bool.or_self, Bool.false_eq_true, if_false]

/-- The exponent of a numeral up to a boundary. -/
theorem exponentPart_writes {tail : List Char} {e : Int} (h : BinaryFloat.WritesExponent tail e)
    {rest : List Char} (hr : Boundary rest) : exponentPart (tail ++ rest) = (tail, rest) := by
  cases h with
  | absent => exact exponentPart_of_boundary hr
  | @present sign e hsign =>
    have hdigits : ∀ d ∈ Nat.toDigits 10 e.natAbs, Text.isAsciiDigit d = true :=
      fun d hd => Integer.isAsciiDigit_of_mem_toDigits hd
    have hend : ∀ c ∈ rest.head?, Text.isAsciiDigit c = false := hr.forall (by decide)
    have hne : (Nat.toDigits 10 e.natAbs).isEmpty = false :=
      List.isEmpty_eq_false_iff.2 Nat.toDigits_ne_nil
    have htake := Text.takeWhile_append_run _ hdigits hend
    have hsplit : ((sign ++ (Nat.toDigits 10 e.natAbs ++ rest)).takeWhile
        (fun c => c = '+' || c = '-')).take 1 = sign := by
      obtain ⟨d, ds, heq, hd⟩ := Integer.toDigits_eq_cons e.natAbs
      have hplus : d ≠ '+' := by
        rintro rfl
        exact absurd hd (by decide)
      have hminus : d ≠ '-' := by
        rintro rfl
        exact absurd hd (by decide)
      have hsigns : sign = [] ∨ sign = ['-'] ∨ sign = ['+'] := by
        rcases hsign with h | ⟨h, -⟩
        · split at h
          · exact .inr (.inl h)
          · exact .inl h
        · exact .inr (.inr h)
      rw [heq]
      rcases hsigns with rfl | rfl | rfl <;> simp [hplus, hminus]
    rw [List.cons_append, List.append_assoc]
    simp only [exponentPart, decide_true, Bool.true_or, if_true, hsplit, List.drop_left, htake, hne,
      Bool.false_eq_true, if_false, List.cons_append]

/-- What stands behind the digits of a numeral starts no other lexeme. -/
theorem exponent_head {tail : List Char} {e : Int} (h : BinaryFloat.WritesExponent tail e)
    {rest : List Char} (hr : Boundary rest) :
    ∀ c ∈ (tail ++ rest).head?, c ∈ 'e' :: boundaryChars := by
  cases tail with
  | nil => exact fun c hc => List.mem_cons_of_mem _ (hr c hc)
  | cons d tail =>
    intro c hc
    obtain rfl : d = c := by simpa using hc
    rw [h.head d rfl]
    exact List.mem_cons_self

/-- The digits of a number up to a boundary. -/
theorem numberLexeme_writes {d : DialectName} {cs : List Char} {n : Nat} {e : Int}
    (h : BinaryFloat.Writes cs n e) {rest : List Char} (hr : Boundary rest) :
    numberLexeme d (cs ++ rest) = (.number (String.ofList cs) false, rest) := by
  -- a name behind digits makes them one word in some dialects, but none follows
  have hname : rest.takeWhile (isNamePart d) = [] := by
    have hnone : ∀ c ∈ rest.head?, isNamePart d c = false := hr.nameEnd.not_isNamePart
    exact @Text.takeWhile_append_run (isNamePart d) [] rest (by simp) hnone
  have hnone : ∀ digits : List Char, rest = 'L' :: digits → False := by
    rintro digits rfl
    exact absurd (hr 'L' rfl) (by decide)
  have hnoDigit : ∀ c ∈ 'e' :: boundaryChars, Text.isAsciiDigit c = false ∧ c ≠ 'x' ∧ c ≠ '.' := by
    have hall : ('e' :: boundaryChars).all
        (fun c => Text.isAsciiDigit c = false ∧ c ≠ 'x' ∧ c ≠ '.') = true := by decide
    exact fun c hc => of_decide_eq_true (List.all_eq_true.1 hall c hc)
  cases h with
  | @plain whole tail e hne hdigits htail =>
    have hhead := exponent_head htail hr
    have hend : ∀ c ∈ (tail ++ rest).head?, Text.isAsciiDigit c = false :=
      fun c hc => (hnoDigit c (hhead c hc)).1
    have hpoint : whole ≠ ['.'] := by
      rintro rfl
      exact absurd (hdigits '.' (by simp)) (by decide)
    unfold numberLexeme
    rw [List.append_assoc]
    simp only [Text.takeWhile_append_run _ hdigits hend, Text.dropWhile_append_run _ hdigits hend]
    split
    · rename_i heq
      exact absurd rfl (hnoDigit 'x' (hhead 'x' (by rw [heq]; rfl))).2.1
    · split
      · rename_i heq
        exact absurd rfl (hnoDigit '.' (hhead '.' (by rw [heq]; rfl))).2.2
      · simp only [if_neg hpoint, exponentPart_writes htail hr, hname, ite_self,
          List.isEmpty_nil, Bool.not_true, Bool.false_eq_true, if_false]
  | @pointed whole fraction tail e hne hdigits hfraction htail =>
    have hhead := exponent_head htail hr
    have hend : ∀ c ∈ (tail ++ rest).head?, Text.isAsciiDigit c = false :=
      fun c hc => (hnoDigit c (hhead c hc)).1
    have hpointEnd : ∀ c ∈ ('.' :: (fraction ++ (tail ++ rest))).head?,
        Text.isAsciiDigit c = false := by
      intro c hc
      obtain rfl : '.' = c := by simpa using hc
      decide
    have hpoint : whole ++ '.' :: fraction ≠ ['.'] := by
      obtain ⟨c, whole, rfl⟩ := List.exists_cons_of_ne_nil hne
      simp
    unfold numberLexeme
    rw [List.append_assoc, List.cons_append, List.append_assoc]
    simp only [Text.takeWhile_append_run _ hdigits hpointEnd,
      Text.dropWhile_append_run _ hdigits hpointEnd]
    split
    · rename_i heq
      exact absurd (List.cons.inj heq).1 (by decide)
    · simp only [Text.takeWhile_append_run _ hfraction hend,
        Text.dropWhile_append_run _ hfraction hend, if_neg hpoint, exponentPart_writes htail hr,
        hname, ite_self, List.isEmpty_nil, Bool.not_true, Bool.false_eq_true, if_false]
      simp

theorem nextLexeme_digit {d : DialectName} {c : Char} (h : Text.isAsciiDigit c = true) (rest : List Char) :
    nextLexeme d c rest
      = some (some (numberLexeme d (c :: rest)).1,
          (numberLexeme d (c :: rest)).2) := by
  have hne : ∀ e : Char, Text.isAsciiDigit e = false → c ≠ e := by
    rintro e he rfl
    rw [h] at he
    cases he
  have hletter : Text.isAsciiLetter c = false := by
    rw [← Bool.not_eq_true]
    intro hletter
    simp only [Text.isAsciiDigit, Text.isAsciiLetter, Bool.or_eq_true, Bool.and_eq_true,
      decide_eq_true_eq] at h hletter
    omega
  simp only [nextLexeme, closingQuote?, h, hletter, hne ' ' (by decide), hne '\t' (by decide),
    hne '\n' (by decide), hne '\x0d' (by decide), hne '\'' (by decide), hne '"' (by decide),
    hne '\x60' (by decide), hne '[' (by decide), decide_false, Bool.or_self, Bool.false_and,
    Bool.true_or, Bool.false_eq_true, if_false, if_true]

/-! ### Operators and punctuation -/

/-- A character that starts operators and no comment with what follows it. -/
theorem nextLexeme_symbol {d : DialectName} {c : Char}
    (hc : c ∈ ['=', '<', '>', '+', '-', '*', '/', '%', '|', '(', ')', ',']) {rest : List Char}
    (hr : ∀ e ∈ rest.head?, e ∉ ['-', '*', '/']) :
    nextLexeme d c rest
      = some (some (symbolLexeme d c rest).1, (symbolLexeme d c rest).2) := by
  cases rest with
  | nil =>
    simp only [List.mem_cons, List.not_mem_nil, or_false] at hc
    rcases hc with rfl | rfl | rfl | rfl | rfl | rfl | rfl | rfl | rfl | rfl | rfl | rfl <;>
      cases d <;> rfl
  | cons e rest =>
    have he : e ≠ '-' ∧ e ≠ '*' ∧ e ≠ '/' := by simpa using hr e (by simp)
    have hplain : ∀ m : Char, m = '-' ∨ m = '/' → isNameStart d m = false := by
      rintro m (rfl | rfl) <;> cases d <;> rfl
    simp only [List.mem_cons, List.not_mem_nil, or_false] at hc
    rcases hc with rfl | rfl | rfl | rfl | rfl | rfl | rfl | rfl | rfl | rfl | rfl | rfl
    case inr.inr.inr.inr.inl =>
      simp [nextLexeme, closingQuote?, Text.isAsciiLetter, Text.isAsciiDigit,
        hplain '-' (.inl rfl), show Text.isBlank '-' = false from rfl, he]
    case inr.inr.inr.inr.inr.inr.inl =>
      simp [nextLexeme, closingQuote?, Text.isAsciiLetter, Text.isAsciiDigit,
        hplain '/' (.inr rfl), show Text.isBlank '/' = false from rfl, he]
    all_goals cases d <;> rfl

/-- A digit extends no operator. -/
theorem not_isOperatorPart_digit {c : Char} (h : Text.isAsciiDigit c = true) (d : DialectName) :
    isOperatorPart d c = false := by
  have hnot : c ∉ ['+', '-', '*', '/', '<', '>', '=', '~', '!', '@', '#', '%', '^', '&', '|',
      '\x60', '?'] := by
    intro hmem
    have hall : (['+', '-', '*', '/', '<', '>', '=', '~', '!', '@', '#', '%', '^', '&', '|',
        '\x60', '?'].all fun e => !Text.isAsciiDigit e) = true := by decide
    simpa [h] using List.all_eq_true.1 hall c hmem
  rw [isOperatorPart, decide_eq_false hnot, Bool.and_false]

/-- A minus sign in front of a digit stands alone. -/
theorem nextLexeme_minus {d : DialectName} {c : Char} (h : Text.isAsciiDigit c = true)
    (rest : List Char) :
    nextLexeme d '-' (c :: rest) = some (some (.symbol "-"), c :: rest) := by
  have hne : ∀ e : Char, Text.isAsciiDigit e = false → e ≠ c := by
    rintro e he rfl
    rw [h] at he
    cases he
  have hgreater : '>' ≠ c := hne '>' (by decide)
  have hfind : symbols.find? (fun s => s.1.toList.isPrefixOf ('-' :: c :: rest))
      = some ("-", true) := by
    rw [symbols, List.find?_cons_of_neg (by simp [hgreater]),
      List.find?_cons_of_neg (by simp [hgreater]), List.find?_cons_of_pos rfl]
  have hmore : (c :: rest).takeWhile (isOperatorPart d) = [] := by
    rw [List.takeWhile_cons, not_isOperatorPart_digit h, if_neg (by decide)]
  have hdrop : ('-' :: c :: rest).drop "-".toList.length = c :: rest := rfl
  have hsymbol : symbolLexeme d '-' (c :: rest) = (.symbol "-", c :: rest) := by
    simp only [symbolLexeme, hfind, hdrop, if_true, hmore, List.isEmpty_nil]
  have hplain : ∀ e ∈ (c :: rest).head?, e ∉ ['-', '*', '/'] := by
    intro e he
    obtain rfl : c = e := by simpa using he
    simpa using ⟨(hne '-' (by decide)).symm, (hne '*' (by decide)).symm,
      (hne '/' (by decide)).symm⟩
  rw [nextLexeme_symbol (by decide) hplain, hsymbol]

/-- The operators of printed text. -/
def printedOperators : List String :=
  ["=", "<>", "<", "<=", ">", ">=", "+", "-", "*", "/", "%", "||"]

/-- An operator in front of a boundary stands alone. -/
theorem nextLexeme_operator (d : DialectName) {op : String} (h : op ∈ printedOperators) :
    ∃ c cs, op.toList = c :: cs ∧ ∀ rest, Boundary rest →
      nextLexeme d c (cs ++ rest) = some (some (.symbol op), rest) := by
  have main : ∀ {c : Char} {cs : List Char}, op.toList = c :: cs →
      (∀ rest, Boundary rest → nextLexeme d c (cs ++ rest)
        = some (some (.symbol op), rest)) →
      ∃ c cs, op.toList = c :: cs ∧ ∀ rest, Boundary rest →
        nextLexeme d c (cs ++ rest) = some (some (.symbol op), rest) :=
    fun heq hread => ⟨_, _, heq, hread⟩
  simp only [printedOperators, List.mem_cons, List.not_mem_nil, or_false] at h
  rcases h with rfl | rfl | rfl | rfl | rfl | rfl | rfl | rfl | rfl | rfl | rfl | rfl
  all_goals
    refine main rfl fun rest hr => ?_
    cases rest with
    | nil => cases d <;> rfl
    | cons c rest =>
      have hc := hr c (by simp)
      simp only [boundaryChars, List.mem_cons, List.not_mem_nil, or_false] at hc
      rcases hc with rfl | rfl | rfl | rfl <;> cases d <;> rfl

/-- A point in front of a name stands alone. -/
theorem nextLexeme_point {d : DialectName} {c : Char} (h : Text.isAsciiDigit c = false) (rest : List Char) :
    nextLexeme d '.' (c :: rest) = some (some (.symbol "."), c :: rest) := by
  have hnumber : numberLexeme d ('.' :: c :: rest) = (.symbol ".", c :: rest) := by
    have hwhole : ('.' :: c :: rest).takeWhile Text.isAsciiDigit = [] := rfl
    have hrest : ('.' :: c :: rest).dropWhile Text.isAsciiDigit = '.' :: c :: rest := rfl
    have htake : (c :: rest).takeWhile Text.isAsciiDigit = [] := by
      rw [List.takeWhile_cons, if_neg (by simp [h])]
    have hdrop : (c :: rest).dropWhile Text.isAsciiDigit = c :: rest := by
      rw [List.dropWhile_cons, if_neg (by simp [h])]
    simp [numberLexeme, hwhole, hrest, htake, hdrop]
  have hnext : nextLexeme d '.' (c :: rest)
      = some (some (numberLexeme d ('.' :: c :: rest)).1,
          (numberLexeme d ('.' :: c :: rest)).2) := rfl
  rw [hnext, hnumber]

/-! ### Tokens in a dialect -/

/-- The characters that a dialect spells tokens with. -/
def spellingIn (d : DialectName) (ts : List Token) : List Char :=
  ts.flatMap fun t => (d.dialect.tokenText t).toList

theorem spellingIn_space (d : DialectName) (ts : List Token) :
    spellingIn d (.space :: ts) = ' ' :: spellingIn d ts := by
  show " ".toList ++ spellingIn d ts = _
  rfl

theorem spellingIn_point (d : DialectName) (ts : List Token) :
    spellingIn d (.symbol "." :: ts) = '.' :: spellingIn d ts := by
  show ".".toList ++ spellingIn d ts = _
  rfl

/-- The spelling of tokens in a dialect is the given lexemes. -/
def SpelledIn (d : DialectName) (ts : List Token) (ls : List Lexeme) : Prop :=
  Lexes d (spellingIn d ts) ls

/-- The text of spelled tokens has their lexemes and no others. -/
theorem lexemes?_textIn {d : DialectName} {ts : List Token} {ls : List Lexeme}
    (h : SpelledIn d ts ls) : lexemes? d (d.dialect.text ts) = some ls := by
  obtain ⟨k, hk, hread⟩ := h
  have hwhole := hread ((spellingIn d ts).length - k) [] boundary_nil
  rw [List.append_nil, Nat.sub_add_cancel hk, lexemesWithin_nil, Option.map_some,
    List.append_nil] at hwhole
  rw [lexemes?, toList_text]
  exact hwhole

namespace SpelledIn

variable {d : DialectName} {ts us : List Token} {ls ms : List Lexeme}

theorem nil : SpelledIn d [] [] := Lexes.nil

theorem append (ht : SpelledIn d ts ls) (hu : SpelledIn d us ms)
    (h : Boundary (spellingIn d us)) : SpelledIn d (ts ++ us) (ls ++ ms) := by
  rw [SpelledIn, spellingIn, List.flatMap_append]
  exact Lexes.append ht hu h

theorem space (h : SpelledIn d ts ls) : SpelledIn d (.space :: ts) ls := by
  rw [SpelledIn, spellingIn_space]
  exact Lexes.blank h

theorem boundary_space (d : DialectName) (ts : List Token) :
    Boundary (spellingIn d (.space :: ts)) := by
  rw [spellingIn_space]
  exact boundary_cons (by decide) _

theorem boundary_leftParen (d : DialectName) (ts : List Token) :
    Boundary (spellingIn d (.leftParen :: ts)) := by
  cases d <;> exact boundary_cons (by decide) _

theorem boundary_rightParen (d : DialectName) (ts : List Token) :
    Boundary (spellingIn d (.rightParen :: ts)) := by
  cases d <;> exact boundary_cons (by decide) _

theorem boundary_comma (d : DialectName) (ts : List Token) :
    Boundary (spellingIn d (.comma :: ts)) := by
  cases d <;> exact boundary_cons (by decide) _

/-- Two operands with a lexeme between them. -/
theorem infixed {operator : Token} {l : Lexeme} (ht : SpelledIn d ts ls)
    (ho : SpelledIn d [operator] [l]) (hu : SpelledIn d us ms) :
    SpelledIn d (Token.infixed ts operator us) (ls ++ l :: ms) := by
  rw [Token.infixed, List.append_assoc]
  exact append ht (space (append ho (space hu) (boundary_space d us))) (boundary_space d _)

/-- A token that is one piece in front of any boundary. -/
theorem of_piece {t : Token} {c : Char} {cs : List Char} {l : Lexeme}
    (hchars : (d.dialect.tokenText t).toList = c :: cs)
    (h : ∀ rest, Boundary rest → nextLexeme d c (cs ++ rest) = some (some l, rest)) :
    SpelledIn d [t] [l] := by
  rw [SpelledIn, spellingIn, List.flatMap_singleton, hchars]
  exact .of_lexeme h

/-- A token that is spelled as a bare word. -/
theorem word {t : Token} {text : String} (hchars : (d.dialect.tokenText t).toList = text.toList)
    (h : isBareName text = true) : SpelledIn d [t] [wordLexeme text] := by
  obtain ⟨c, cs, heq, -, hread⟩ := nextLexeme_bareName h
  exact of_piece (hchars.trans heq) fun rest hr => hread rest hr.nameEnd

theorem ident (d : DialectName) (name : String) :
    SpelledIn d [.ident name] [.word (identIn d name)] := by
  obtain ⟨c, cs, heq, -, hread⟩ := nextLexeme_identIn d name
  exact of_piece heq fun rest hr => hread rest hr.nameEnd

/-- A number that is written as a numeral without a sign. -/
theorem numeral {t : Token} {cs : List Char} {n : Nat} {e : Int} (h : BinaryFloat.Writes cs n e)
    (hchars : (d.dialect.tokenText t).toList = cs) :
    SpelledIn d [t] [.number (String.ofList cs) false] := by
  obtain ⟨c, cs, rfl, hc⟩ := h.head
  refine of_piece hchars fun rest hr => ?_
  rw [nextLexeme_digit hc, ← List.cons_append, numberLexeme_writes h hr]

/-- A number that is written as a numeral behind an optional minus sign. -/
theorem number {t : Token} {negative : Bool} {cs : List Char} {n : Nat} {e : Int}
    (h : BinaryFloat.Writes cs n e)
    (hchars : (d.dialect.tokenText t).toList = if negative then '-' :: cs else cs) :
    SpelledIn d [t] (signedLexemes negative (String.ofList cs)) := by
  rw [signedLexemes]
  cases negative with
  | true =>
    obtain ⟨c, cs, rfl, hc⟩ := h.head
    have hdigits : Lexes d (c :: cs) [.number (String.ofList (c :: cs)) false] := by
      refine .of_lexeme fun rest hr => ?_
      rw [nextLexeme_digit hc, ← List.cons_append, numberLexeme_writes h hr]
    have hspelling : spellingIn d [t] = '-' :: c :: cs := by
      rw [spellingIn, List.flatMap_singleton]
      exact hchars
    rw [SpelledIn, hspelling]
    exact .single (fun rest => nextLexeme_minus hc _) hdigits
  | false => exact numeral h hchars

theorem int (d : DialectName) (n : Int64) : SpelledIn d [.int n] (intLexemes n.toInt) := by
  have hwrites := BinaryFloat.Writes.plain Nat.toDigits_ne_nil
    (BinaryFloat.allDigits_toDigits n.toInt.natAbs) .absent
  rw [List.append_nil] at hwrites
  refine number hwrites ?_
  show (Integer.text64 n).toList = _
  rw [Integer.text64, Integer.text, String.toList_ofList, Integer.chars]
  simp only [decide_eq_true_eq]

theorem operator {op : String} (h : op ∈ printedOperators) :
    SpelledIn d [.symbol op] [.symbol op] := by
  obtain ⟨c, cs, heq, hread⟩ := nextLexeme_operator d h
  exact of_piece heq hread

/-- A text constant, where none of its backslashes is one that escapes. -/
theorem string {s : String} (h : d = .mySql → '\\' ∉ s.toList) :
    SpelledIn d [.string s] [.text .single s] := by
  have hchars : (d.dialect.tokenText (.string s)).toList
      = '\'' :: (Text.doubling '\'' s.toList ++ ['\'']) := by
    show (d.dialect.quoteString s).toList = _
    rw [quoteString_eq, Text.delimited, String.toList_ofList]
  refine of_piece hchars fun rest hr => ?_
  have hend : ∀ c ∈ rest.head?, c ≠ '\'' := hr.forall (by decide)
  rw [nextLexeme_quote, List.append_assoc, List.singleton_append,
    quotedText_doubling (by simpa using h) hend, Option.map_some, String.ofList_toList]

/-- Punctuation is a lexeme whatever stands behind it. -/
theorem leftParen (h : SpelledIn d ts ls) :
    SpelledIn d (.leftParen :: ts) (.symbol "(" :: ls) := by
  cases d <;> exact Lexes.single (fun _ => rfl) h

theorem rightParen (h : SpelledIn d ts ls) :
    SpelledIn d (.rightParen :: ts) (.symbol ")" :: ls) := by
  cases d <;> exact Lexes.single (fun _ => rfl) h

theorem comma (h : SpelledIn d ts ls) : SpelledIn d (.comma :: ts) (.symbol "," :: ls) := by
  cases d <;> exact Lexes.single (fun _ => rfl) h

/-- A name in front of a point. -/
theorem ident_point {name : String} (h : SpelledIn d (.symbol "." :: ts) ls) :
    SpelledIn d (.ident name :: .symbol "." :: ts) (.word (identIn d name) :: ls) := by
  obtain ⟨c, cs, heq, -, hread⟩ := nextLexeme_identIn d name
  have hchars : (d.dialect.tokenText (.ident name)).toList = c :: cs := heq
  rw [SpelledIn, spellingIn, List.flatMap_cons, hchars]
  refine Lexes.cons (fun rest _ => hread _ ?_) h
  show NameEnd (spellingIn d (.symbol "." :: ts) ++ rest)
  rw [spellingIn_point]
  intro e he
  obtain rfl : '.' = e := by simpa using he
  decide

/-- A point in front of a name. -/
theorem point_ident {name : String} (h : SpelledIn d (.ident name :: ts) ls) :
    SpelledIn d (.symbol "." :: .ident name :: ts) (.symbol "." :: ls) := by
  obtain ⟨c, cs, heq, hdigit, -⟩ := nextLexeme_identIn d name
  have hspelling : spellingIn d (.ident name :: ts) = c :: (cs ++ spellingIn d ts) := by
    have hchars : (d.dialect.tokenText (.ident name)).toList = c :: cs := heq
    rw [spellingIn, List.flatMap_cons, hchars]
    rfl
  have hpoint : ∀ rest, nextLexeme d '.' (spellingIn d (.ident name :: ts) ++ rest)
      = some (some (.symbol "."), spellingIn d (.ident name :: ts) ++ rest) := by
    intro rest
    rw [hspelling]
    exact nextLexeme_point hdigit _
  rw [SpelledIn, spellingIn_point]
  exact Lexes.single hpoint h

end SpelledIn

/-! ### Spelled tokens -/

/-- The spelling of tokens in the generic dialect is their lexemes. -/
def Spelled (ts : List Token) : Prop := SpelledIn .generic ts (ts.flatMap Token.lexemes)

/-- The text of spelled tokens has their lexemes and no others. -/
theorem lexemes?_text {ts : List Token} (h : Spelled ts) :
    lexemes? .generic (Dialect.generic.text ts) = some (ts.flatMap Token.lexemes) :=
  lexemes?_textIn h

theorem boundary_space (ts : List Token) : Boundary (spelling (.space :: ts)) :=
  SpelledIn.boundary_space .generic ts

theorem boundary_leftParen (ts : List Token) : Boundary (spelling (.leftParen :: ts)) :=
  SpelledIn.boundary_leftParen .generic ts

theorem boundary_rightParen (ts : List Token) : Boundary (spelling (.rightParen :: ts)) :=
  SpelledIn.boundary_rightParen .generic ts

theorem boundary_comma (ts : List Token) : Boundary (spelling (.comma :: ts)) :=
  SpelledIn.boundary_comma .generic ts

namespace Spelled

theorem nil : Spelled [] := SpelledIn.nil

theorem append {ts us : List Token} (ht : Spelled ts) (hu : Spelled us)
    (h : Boundary (spelling us)) : Spelled (ts ++ us) := by
  rw [Spelled, List.flatMap_append]
  exact SpelledIn.append ht hu h

theorem space {ts : List Token} (h : Spelled ts) : Spelled (.space :: ts) := SpelledIn.space h

theorem leftParen {ts : List Token} (h : Spelled ts) : Spelled (.leftParen :: ts) :=
  SpelledIn.leftParen h

theorem rightParen {ts : List Token} (h : Spelled ts) : Spelled (.rightParen :: ts) :=
  SpelledIn.rightParen h

theorem comma {ts : List Token} (h : Spelled ts) : Spelled (.comma :: ts) := SpelledIn.comma h

/-! #### Single tokens -/

/-- A token that is one piece in front of any boundary. -/
theorem of_piece {t : Token} {c : Char} {cs : List Char} {l : Lexeme} (hchars : t.chars = c :: cs)
    (hlexemes : t.lexemes = [l])
    (h : ∀ rest, Boundary rest → nextLexeme .generic c (cs ++ rest) = some (some l, rest)) :
    Spelled [t] := by
  rw [Spelled, List.flatMap_singleton, hlexemes]
  exact SpelledIn.of_piece hchars h

/-- A token that is spelled as a bare word. -/
theorem word {t : Token} {text : String} (hchars : t.chars = text.toList)
    (hlexemes : t.lexemes = [wordLexeme text]) (h : isBareName text = true) : Spelled [t] := by
  rw [Spelled, List.flatMap_singleton, hlexemes]
  exact SpelledIn.word hchars h

theorem keyword {k : Keyword} (h : isBareName k.text = true) : Spelled [.keyword k] :=
  word rfl rfl h

theorem functionName {name : String} (h : isBareName (Text.upper name) = true) :
    Spelled [.functionName name] := word rfl rfl h

theorem bool (b : Bool) : Spelled [.bool b] := by
  cases b
  · have hword : isBareName "FALSE" = true := by decide
    exact word rfl rfl hword
  · have hword : isBareName "TRUE" = true := by decide
    exact word rfl rfl hword

theorem null : Spelled [.null] := by
  have hword : isBareName "NULL" = true := by decide
  exact word rfl rfl hword

theorem ident (name : String) : Spelled [.ident name] := SpelledIn.ident .generic name

theorem operator {op : String} (h : op ∈ printedOperators) : Spelled [.symbol op] :=
  SpelledIn.operator h

theorem concat : Spelled [.concat] := by
  obtain ⟨c, cs, heq, hread⟩ := nextLexeme_operator .generic (show "||" ∈ printedOperators by decide)
  exact of_piece heq rfl hread

theorem string (s : String) : Spelled [.string s] :=
  SpelledIn.string fun h => by cases h

/-- A number that is written as a numeral behind an optional minus sign. -/
theorem number {t : Token} {negative : Bool} {cs : List Char} {n : Nat} {e : Int}
    (h : BinaryFloat.Writes cs n e) (hchars : t.chars = if negative then '-' :: cs else cs)
    (hlexemes : t.lexemes = signedLexemes negative (String.ofList cs)) : Spelled [t] := by
  rw [Spelled, List.flatMap_singleton, hlexemes]
  exact SpelledIn.number h hchars

theorem int (n : Int64) : Spelled [.int n] := by
  rw [Spelled, List.flatMap_singleton]
  exact SpelledIn.int .generic n

/-- A finite double. -/
theorem float {f : Double} (h : f.IsCanonical) (hfinite : f.isFinite = true) :
    Spelled [.float f] := by
  cases f with
  | finite negative m e =>
    obtain ⟨cs, n, x, hwrites, htext, -⟩ :=
      NumberLayout.literal.render_writes Shortest.printable_double h
    have hdigits : floatDigits (.finite negative m e) = String.ofList cs := by
      cases negative with
      | true => exact htext false
      | false => exact htext false
    refine number hwrites ?_ (by rw [Token.lexemes, floatLexemes, hdigits])
    show (NumberLayout.literal.render (BinaryFloat.finite negative m e)).toList = _
    rw [htext, String.toList_ofList]
    rfl
  | _ => cases hfinite

/-- A name in front of a point. -/
theorem ident_point {name : String} {ts : List Token} (h : Spelled (.symbol "." :: ts)) :
    Spelled (.ident name :: .symbol "." :: ts) := SpelledIn.ident_point h

/-- A point in front of a name. -/
theorem point_ident {name : String} {ts : List Token} (h : Spelled (.ident name :: ts)) :
    Spelled (.symbol "." :: .ident name :: ts) := SpelledIn.point_ident h

theorem separated_ident_cons (name : String) (names : List String) :
    ∃ ts, Token.separated [.symbol "."] ((name :: names).map fun name => [.ident name])
      = .ident name :: ts := by
  cases names with
  | nil => exact ⟨[], rfl⟩
  | cons next names => exact ⟨_, rfl⟩

/-- Names with points between them. -/
theorem path (names : List String) :
    Spelled (Token.separated [.symbol "."] (names.map fun name => [.ident name])) := by
  induction names with
  | nil => exact nil
  | cons name names ih =>
    cases names with
    | nil => exact ident name
    | cons next names =>
      obtain ⟨ts, heq⟩ := separated_ident_cons next names
      rw [heq] at ih
      rw [List.map_cons, Token.separated.eq_3 _ _ _ (by simp), heq]
      exact ident_point (point_ident ih)

/-! #### Arrangements -/

theorem parenthesized {ts : List Token} (h : Spelled ts) : Spelled (Token.parenthesized ts) :=
  leftParen (append h (rightParen nil) (boundary_rightParen []))

/-- A token between two blanks. -/
theorem spaced {t : Token} {ts : List Token} (ht : Spelled [t]) (h : Spelled ts) :
    Spelled (Token.spaced t ++ ts) := by
  have hrest : Spelled ([t] ++ .space :: ts) := append ht (space h) (boundary_space ts)
  exact space hrest

theorem infixed {left right : List Token} {operator : Token} (hl : Spelled left)
    (ho : Spelled [operator]) (hr : Spelled right) :
    Spelled (Token.infixed left operator right) := by
  rw [Token.infixed, List.append_assoc]
  exact append hl (spaced ho hr) (boundary_space _)

/-- Items with a separator between them that starts with a boundary. -/
theorem separated {separator : List Token} {items : List (List Token)}
    (hseparator : ∀ ts, Spelled ts → Spelled (separator ++ ts))
    (hboundary : ∀ ts, Boundary (spelling (separator ++ ts)))
    (h : ∀ item ∈ items, Spelled item) : Spelled (Token.separated separator items) := by
  induction items with
  | nil => exact nil
  | cons item items ih =>
    have hitem := h item (by simp)
    have hitems := ih fun i hi => h i (List.mem_cons_of_mem _ hi)
    cases items with
    | nil => exact hitem
    | cons next items =>
      rw [Token.separated.eq_3 _ _ _ (by simp), List.append_assoc]
      exact append hitem (hseparator _ hitems) (hboundary _)

theorem call {name : String} {args : List (List Token)} (hname : isBareName (Text.upper name) = true)
    (h : ∀ arg ∈ args, Spelled arg) : Spelled (Token.call name args) := by
  have hargs : Spelled (Token.commaSeparated args) :=
    separated (fun _ hts => comma (space hts)) (fun _ => boundary_comma _) h
  have hclosed : Spelled (Token.commaSeparated args ++ [.rightParen]) :=
    append hargs (rightParen nil) (boundary_rightParen [])
  have hcall : Token.call name args
      = [.functionName name] ++ .leftParen :: (Token.commaSeparated args ++ [.rightParen]) := by
    simp [Token.call]
  rw [hcall]
  exact append (functionName hname) (leftParen hclosed) (boundary_leftParen _)

end Spelled

end Polyquery.Sql
