import Polyquery.Proofs.OData.Spans
import Polyquery.Proofs.Outcome

/-!
# Places in a text

Tokens stand one behind the other in the text that they were taken from, and the faults of the
lexer point into it.

* `Text.IsBoundary` - an offset does not split a character;
* `Span.Marks` - a span is the place of some characters of a text;
* `SyntaxError.PointsInto` - a fault has a place in a text, and what it quotes stands there;
* `StandsIn` - tokens stand in a text in their order;
* `scan_stands`, `scan_pointsInto` - what comes of scanning a text.
-/

namespace Polyquery

/-! ### Faults and their places -/

/-- A span is the place of some characters of a text. -/
def Span.Marks (s : Span) (text marked : List Char) : Prop :=
  ∃ before after, text = before ++ (marked ++ after) ∧
    s = ⟨Text.byteLength before, Text.byteLength before + Text.byteLength marked⟩

/-- An offset is one between two characters of a text, or at one of its ends. -/
def Text.IsBoundary (text : List Char) (offset : Nat) : Prop :=
  ∃ before after, text = before ++ after ∧ Text.byteLength before = offset

/-- What a fault quotes, if it quotes anything, are the given characters. -/
def SyntaxFault.Quotes (marked : List Char) : SyntaxFault → Prop
  | .unexpectedToken t | .invalidLiteral t => t = String.ofList marked
  | .unknownCharacter c => marked = [c]
  | .unterminatedString | .expectedOperand | .expectedIdentifier => True

/-- A fault has a place in a text, and what it quotes stands there. -/
def SyntaxError.PointsInto (text : List Char) (e : SyntaxError) : Prop :=
  ∃ marked, e.span.Marks text marked ∧ e.fault.Quotes marked

/-- A failure points into a text, if it is a syntax fault. -/
def QueryError.PointsInto (text : List Char) (e : QueryError) : Prop :=
  ∀ fault, e = .syntaxError fault → fault.PointsInto text

theorem Span.Marks.shift {s : Span} {text marked : List Char} (h : s.Marks text marked)
    (before after : List Char) :
    (s.shift (Text.byteLength before)).Marks (before ++ (text ++ after)) marked := by
  obtain ⟨front, back, rfl, rfl⟩ := h
  refine ⟨before ++ front, back ++ after, by simp, ?_⟩
  rw [Span.shift, Text.byteLength_append, Nat.add_comm _ (Text.byteLength before),
    Nat.add_comm _ (Text.byteLength before), Nat.add_assoc]

/-- The slice over a place is what stands there. -/
theorem Span.Marks.slice {s : Span} {text marked : List Char} (h : s.Marks text marked) :
    Text.slice s.start s.stop text = marked := by
  obtain ⟨before, after, rfl, rfl⟩ := h
  exact Text.slice_append before marked after

namespace QueryError

variable {text : List Char}

theorem PointsInto.of_syntaxError {e : SyntaxError} (h : e.PointsInto text) :
    (syntaxError e).PointsInto text := by
  intro fault hfault
  cases hfault
  exact h

theorem pointsInto_unsupported (construct : String) : (unsupported construct).PointsInto text :=
  fun fault hfault => by cases hfault

/-- A fault inside a part of a text, seen from the text. -/
theorem PointsInto.shifted {e : QueryError} (h : e.PointsInto text) (before after : List Char) :
    (e.shifted (Text.byteLength before)).PointsInto (before ++ (text ++ after)) := by
  cases e with
  | syntaxError fault =>
    obtain ⟨marked, hmarks, hquotes⟩ := h fault rfl
    exact .of_syntaxError ⟨marked, hmarks.shift before after, hquotes⟩
  | _ => exact fun fault hfault => by cases hfault

end QueryError

namespace OData

/-! ### Faults of the lexer -/

theorem faultOver_pointsInto (fault : SyntaxFault) (before taken after : List Char)
    (h : fault.Quotes taken) :
    (faultOver (Text.byteLength before) fault taken).PointsInto (before ++ (taken ++ after)) :=
  ⟨taken, ⟨before, after, rfl, rfl⟩, h⟩

/-- A faulty number takes characters from the front of the text. -/
theorem numberLexeme_error {cs taken : List Char} (h : numberLexeme cs = .error taken) :
    taken <+: cs := by
  have hnumeral := numeral_append cs
  have hliteral : ∀ {value : Option Literal} {front rest : List Char},
      literalLexeme value front rest = .error taken → front = taken := by
    intro value front rest hfault
    unfold literalLexeme at hfault
    split at hfault
    · cases hfault
    · exact Except.error.inj hfault
  unfold numberLexeme at h
  simp only at h
  split at h
  · exact ⟨(numeral cs).rest, by rw [← hliteral h, hnumeral]⟩
  · rename_i s rest hrest
    have hletter : (numeral cs).taken ++ [s] ++ rest = cs := by
      rw [List.append_assoc, List.singleton_append, ← hrest, hnumeral]
    split at h
    · split at h
      · split at h
        · exact ⟨_, by rw [← Except.error.inj h, hletter]⟩
        · exact ⟨_, by rw [← hliteral h, hletter]⟩
      · exact ⟨_, by rw [← hliteral h, hletter]⟩
    · split at h
      · exact ⟨_, by rw [← Except.error.inj h, hletter]⟩
      · exact ⟨(numeral cs).rest, by rw [← hliteral h, hnumeral]⟩

theorem wordLexeme_error {before cs : List Char} {c : Char} {e : SyntaxError}
    (h : wordLexeme (Text.byteLength before) c cs = .error e) :
    e.PointsInto (before ++ c :: cs) := by
  have hword : cs.takeWhile isWordChar ++ cs.dropWhile isWordChar = cs :=
    List.takeWhile_append_dropWhile
  unfold wordLexeme at h
  simp only at h
  split at h
  · rename_i tail hafter
    rw [hafter] at hword
    split at h
    · split at h
      · cases h
        have hplace := faultOver_pointsInto .unterminatedString
          (before ++ c :: cs.takeWhile isWordChar) ('\'' :: tail) [] trivial
        rw [Text.byteLength_append, List.append_nil, List.append_assoc, List.cons_append,
          hword] at hplace
        rwa [hafter]
      · rename_i text quoted rest hquoted
        split at h
        · cases h
        · cases h
          have hplace := faultOver_pointsInto (.invalidLiteral (String.ofList
            (c :: cs.takeWhile isWordChar ++ '\'' :: quoted))) before _ rest rfl
          rw [List.append_assoc, List.cons_append, List.cons_append, quotedText?_append hquoted,
            hword] at hplace
          exact hplace
    · cases h
  · cases h

theorem scan_fault {pos : Nat} {c : Char} {cs : List Char} {e : SyntaxError}
    (hb : Text.isBlank c = false) (h : lexeme pos c cs = .error e) :
    scan pos (c :: cs) = .error e := by
  rw [scan, if_neg (by simp [hb])]
  split
  · rename_i fault hfault
    rw [h] at hfault
    cases hfault
    rfl
  · rename_i l hl
    rw [h] at hl
    cases hl

/-- A fault of the lexer points to the front of the text. -/
theorem lexeme_pointsInto {before cs : List Char} {c : Char} {e : SyntaxError}
    (h : lexeme (Text.byteLength before) c cs = .error e) : e.PointsInto (before ++ c :: cs) := by
  unfold lexeme at h
  split at h
  · cases h
  · split at h
    · split at h
      · cases h
        have hplace := faultOver_pointsInto .unterminatedString before (c :: cs) [] trivial
        rwa [List.append_nil] at hplace
      · cases h
    · split at h
      · split at h
        · cases h
        · split at h
          · cases h
          · rename_i taken hnumber
            cases h
            obtain ⟨rest, hrest⟩ := numberLexeme_error hnumber
            rw [← hrest]
            exact faultOver_pointsInto _ before taken rest rfl
      · split at h
        · exact wordLexeme_error h
        · cases h
          exact faultOver_pointsInto _ before [c] cs rfl

/-! ### Tokens and their places -/

theorem wordKind_identifier {word name : String} (h : wordKind word = .identifier name) :
    name = word := by
  unfold wordKind at h
  grind

theorem literalLexeme_ne_identifier {value : Option Literal} {taken rest : List Char} {l : Lexeme}
    {name : String} (h : literalLexeme value taken rest = .ok l) : l.kind ≠ .identifier name := by
  unfold literalLexeme at h
  split at h
  · cases h
    exact TokenKind.noConfusion
  · cases h

theorem numberLexeme_ne_identifier {cs : List Char} {l : Lexeme} {name : String}
    (h : numberLexeme cs = .ok l) : l.kind ≠ .identifier name := by
  unfold numberLexeme at h
  simp only at h
  split at h
  · exact literalLexeme_ne_identifier h
  · split at h
    · split at h
      · split at h
        · cases h
        · exact literalLexeme_ne_identifier h
      · exact literalLexeme_ne_identifier h
    · split at h
      · cases h
      · exact literalLexeme_ne_identifier h

theorem punctuation?_ne_identifier {c : Char} {k : TokenKind} {name : String}
    (h : punctuation? c = some k) : k ≠ .identifier name := by
  unfold punctuation? at h
  split at h <;> cases h <;> exact TokenKind.noConfusion

theorem wordLexeme_name {pos : Nat} {c : Char} {cs : List Char} {l : Lexeme} {name : String}
    (h : wordLexeme pos c cs = .ok l) (hname : l.kind = .identifier name) :
    name = String.ofList l.taken := by
  unfold wordLexeme at h
  simp only at h
  split at h
  · split at h
    · split at h
      · cases h
      · split at h
        · cases h
          cases hname
        · cases h
    · cases h
      exact wordKind_identifier hname
  · cases h
    exact wordKind_identifier hname

/-- A name is what its token takes. -/
theorem lexeme_name {pos : Nat} {c : Char} {cs : List Char} {l : Lexeme} {name : String}
    (h : lexeme pos c cs = .ok l) (hname : l.kind = .identifier name) :
    name = String.ofList l.taken := by
  unfold lexeme at h
  split at h
  · rename_i hc
    cases h
    exact absurd hname (punctuation?_ne_identifier hc)
  · split at h
    · split at h
      · cases h
      · cases h
        cases hname
    · split at h
      · split at h
        · cases h
          cases hname
        · split at h
          · rename_i hnumber
            cases h
            exact absurd hname (numberLexeme_ne_identifier hnumber)
          · cases h
      · split at h
        · exact wordLexeme_name h hname
        · cases h

/-- Tokens stand one behind the other in the rest of a text. -/
inductive Stands : List Char → List Char → List Token → Prop where
  | nil {before rest : List Char} : Stands before rest []
  | cons {before gap rest : List Char} {t : Token} {ts : List Token} :
      t.span = ⟨Text.byteLength (before ++ gap),
        Text.byteLength (before ++ gap) + Text.byteLength t.text⟩ →
      (∀ name, t.kind = .identifier name → name = String.ofList t.text) →
      Stands (before ++ gap ++ t.text) rest ts → Stands before (gap ++ (t.text ++ rest)) (t :: ts)

theorem Stands.behind {before gap rest : List Char} {ts : List Token}
    (h : Stands (before ++ gap) rest ts) : Stands before (gap ++ rest) ts := by
  cases h with
  | nil => exact .nil
  | @cons _ inner rest t ts hspan hname hts =>
    rw [← List.append_assoc gap]
    rw [List.append_assoc before] at hspan hts
    exact .cons hspan hname hts

theorem Stands.front {before rest : List Char} {ts more : List Token}
    (h : Stands before rest (ts ++ more)) : Stands before rest ts := by
  induction ts generalizing before rest with
  | nil => exact .nil
  | cons t ts ih =>
    cases h with
    | cons hspan hname hts => exact .cons hspan hname (ih hts)

/-- The last token stops somewhere in the rest of the text. -/
theorem Stands.last {before rest : List Char} {ts : List Token} (h : Stands before rest ts) :
    ∀ u ∈ ts.getLast?, ∃ text tail, rest = text ++ tail ∧
      u.span.stop = Text.byteLength (before ++ text) := by
  induction h with
  | nil =>
    intro u hu
    cases hu
  | @cons before gap rest t ts hspan _ hts ih =>
    intro u hu
    cases ts with
    | nil =>
      obtain rfl : t = u := by simpa using hu
      exact ⟨gap ++ t.text, rest, by simp, by simp [hspan, Nat.add_assoc]⟩
    | cons t' ts =>
      rw [List.getLast?_cons_cons] at hu
      obtain ⟨text, tail, rfl, hstop⟩ := ih u hu
      exact ⟨gap ++ (t.text ++ text), tail, by simp, by rw [hstop]; simp⟩

/-- Scanning a text gives tokens that stand in it. -/
theorem scan_stands {before cs : List Char} {ts : List Token}
    (h : scan (Text.byteLength before) cs = .ok ts) : Stands before cs ts := by
  generalize hpos : Text.byteLength before = pos at h
  induction pos, cs using scan_induction generalizing before ts with
  | nil pos =>
    rw [scan_nil] at h
    cases h
    exact .nil
  | blank pos c cs hb ih =>
    rw [scan_blank hb] at h
    have hstop : Text.byteLength (before ++ [c]) = pos + c.utf8Size := by simp [hpos]
    exact (ih hstop h).behind
  | fault pos c cs fault hb hl =>
    rw [scan_fault hb hl] at h
    cases h
  | token pos c cs l hb hl ih =>
    obtain ⟨l', us, hl', hrest, rfl⟩ := scan_step hb h
    obtain rfl : l = l' := Except.ok.inj (hl.symm.trans hl')
    have hstop : Text.byteLength (before ++ l.taken) = pos + Text.byteLength l.taken := by
      rw [Text.byteLength_append, hpos]
    have hbehind := ih hstop hrest
    rw [← lexeme_append hl]
    rw [← List.append_nil before] at hbehind
    exact @Stands.cons before [] l.rest ⟨l.kind, l.taken, _⟩ us
      (by rw [List.append_nil, hpos]) (fun name => lexeme_name hl) hbehind

/-- A text that is no list of tokens has a fault that points into it. -/
theorem scan_pointsInto {before cs : List Char} {e : SyntaxError}
    (h : scan (Text.byteLength before) cs = .error e) : e.PointsInto (before ++ cs) := by
  generalize hpos : Text.byteLength before = pos at h
  induction pos, cs using scan_induction generalizing before with
  | nil pos =>
    rw [scan_nil] at h
    cases h
  | blank pos c cs hb ih =>
    rw [scan_blank hb] at h
    have hstop : Text.byteLength (before ++ [c]) = pos + c.utf8Size := by simp [hpos]
    have hbehind := ih hstop h
    rwa [List.append_assoc] at hbehind
  | fault pos c cs fault hb hl =>
    rw [scan_fault hb hl] at h
    cases h
    subst hpos
    exact lexeme_pointsInto hl
  | token pos c cs l hb hl ih =>
    rw [scan_lexeme hb hl] at h
    cases hrest : scan (pos + Text.byteLength l.taken) l.rest with
    | ok us =>
      rw [hrest] at h
      cases h
    | error fault =>
      rw [hrest] at h
      cases h
      have hstop : Text.byteLength (before ++ l.taken) = pos + Text.byteLength l.taken := by
        rw [Text.byteLength_append, hpos]
      have hbehind := ih hstop hrest
      rwa [List.append_assoc, lexeme_append hl] at hbehind

/-- Tokens stand in a text in their order. -/
def StandsIn (text : List Char) (ts : List Token) : Prop :=
  ∃ before rest, text = before ++ rest ∧ Stands before rest ts

namespace StandsIn

variable {text : List Char} {t : Token} {ts : List Token}

theorem tail (h : StandsIn text (t :: ts)) : StandsIn text ts := by
  obtain ⟨before, rest, rfl, hts⟩ := h
  cases hts with
  | @cons _ gap rest _ _ _ _ hts => exact ⟨before ++ gap ++ t.text, rest, by simp, hts⟩

/-- The text of a token stands at its place. -/
theorem marks (h : StandsIn text (t :: ts)) : t.span.Marks text t.text := by
  obtain ⟨before, rest, rfl, hts⟩ := h
  cases hts with
  | @cons _ gap rest _ _ hspan _ _ => exact ⟨before ++ gap, rest, by simp, hspan⟩

theorem name (h : StandsIn text (t :: ts)) {name : String} (hname : t.kind = .identifier name) :
    name = String.ofList t.text := by
  obtain ⟨before, rest, rfl, hts⟩ := h
  cases hts with
  | cons _ hnames _ => exact hnames name hname

theorem back {done : List Token} (h : StandsIn text (done ++ ts)) : StandsIn text ts := by
  induction done with
  | nil => exact h
  | cons t done ih => exact ih h.tail

theorem front {more : List Token} (h : StandsIn text (ts ++ more)) : StandsIn text ts := by
  obtain ⟨before, rest, rfl, hts⟩ := h
  exact ⟨before, rest, rfl, hts.front⟩

/-- From the first to the last of some tokens. -/
theorem between {first : Token} (h : StandsIn text (first :: ts)) :
    ∀ last ∈ (first :: ts).getLast?, ∃ marked,
      Span.Marks ⟨first.span.start, last.span.stop⟩ text marked := by
  intro last hlast
  obtain ⟨before, rest, rfl, hts⟩ := h
  cases hts with
  | @cons _ gap rest _ _ hspan _ hts =>
    cases ts with
    | nil =>
      obtain rfl : first = last := by simpa using hlast
      exact ⟨first.text, before ++ gap, rest, by simp, by rw [hspan]⟩
    | cons t ts =>
      rw [List.getLast?_cons_cons] at hlast
      obtain ⟨text, tail, rfl, hstop⟩ := hts.last last hlast
      refine ⟨first.text ++ text, before ++ gap, tail, by simp, ?_⟩
      rw [hspan, hstop]
      simp [Nat.add_assoc]

end StandsIn

end OData

end Polyquery
