import Polyquery.OData.Expand
import Polyquery.Proofs.OData.Spans

/-!
# Values of options

Inside an expansion the value of an option ends at the first semicolon or closing parenthesis of its
own depth.  No text of an expression has one.

* `Balances m n ks` - tokens of kinds `ks` are passed over, from `m` open parentheses to `n`;
* `Derives.balances` - the tokens of an expression are passed over as they stand;
* `IsValue cs` - `cs` is a text that is passed over, with no blank at either end;
* `IsValue.commas` - values with commas between them;
* `optionValue_of_isValue` - a value is found again, at its place.
-/

namespace Polyquery.OData

/-! ### Tokens that are passed over -/

/-- Tokens of some kinds are part of a value, `m` parentheses being open in front of them and `n`
behind them. -/
def Balances (m n : Nat) (ks : List TokenKind) : Prop :=
  ∀ d (ts rest : List Token), ts.map Token.kind = ks →
    valueTokens (d + m) (ts ++ rest)
      = (ts ++ (valueTokens (d + n) rest).1, (valueTokens (d + n) rest).2)

namespace Balances

variable {m n p : Nat} {k : TokenKind} {ks ks' : List TokenKind}

theorem nil : Balances m m [] := by
  intro d ts rest hts
  rw [List.map_eq_nil_iff.1 hts]
  rfl

theorem append (h : Balances m n ks) (h' : Balances n p ks') : Balances m p (ks ++ ks') := by
  intro d ts rest hts
  obtain ⟨ta, tb, rfl, hta, htb⟩ := List.map_eq_append_iff.1 hts
  rw [List.append_assoc, h d ta (tb ++ rest) hta, h' d tb rest htb]
  simp only [List.append_assoc]

theorem cons (h : Balances m n [k]) (h' : Balances n p ks) : Balances m p (k :: ks) := h.append h'

/-- One token, from the step that passes it over. -/
theorem single
    (h : ∀ (d : Nat) (t : Token) (rest : List Token), t.kind = k →
      valueTokens (d + m) (t :: rest)
        = (t :: (valueTokens (d + n) rest).1, (valueTokens (d + n) rest).2)) :
    Balances m n [k] := by
  intro d ts rest hts
  obtain ⟨t, rfl, ht⟩ := List.map_eq_singleton_iff.1 hts
  exact h d t rest ht

/-- A token that is no parenthesis and no semicolon. -/
theorem plain (hl : k ≠ .leftParen) (hr : k ≠ .rightParen) (hs : k ≠ .semicolon) :
    Balances m m [k] :=
  single fun d t rest ht => by
    rw [valueTokens.eq_def]
    simp only [ht]
    cases k <;> first | rfl | contradiction

theorem opening : Balances m (m + 1) [.leftParen] :=
  single fun d t rest ht => by
    simp only [valueTokens, ht]
    rfl

theorem closing : Balances (m + 1) m [.rightParen] :=
  single fun d t rest ht => by simp only [valueTokens, ht, ← Nat.add_assoc]

theorem semicolon : Balances (m + 1) (m + 1) [.semicolon] :=
  single fun d t rest ht => by simp only [valueTokens, ht, ← Nat.add_assoc]

/-- What is passed over is passed over inside further parentheses. -/
theorem deeper (h : Balances m n ks) : Balances (m + 1) (n + 1) ks := by
  intro d ts rest hts
  have hinner := h (d + 1) ts rest hts
  rw [Nat.add_right_comm d 1 m, Nat.add_right_comm d 1 n] at hinner
  exact hinner

theorem enclosed (h : Balances (m + 1) (m + 1) ks) :
    Balances m m (.leftParen :: (ks ++ [.rightParen])) := opening.cons (h.append closing)

theorem word (w : String) : Balances m m [.identifier w] := plain (by simp) (by simp) (by simp)

theorem literal (value : Literal) : Balances m m [.literal value] :=
  plain (by simp) (by simp) (by simp)

theorem comma : Balances m m [.comma] := plain (by simp) (by simp) (by simp)

theorem colon : Balances m m [.colon] := plain (by simp) (by simp) (by simp)

theorem segments (names : List String) : Balances m m (segmentKinds names) := by
  induction names with
  | nil => exact nil
  | cons name names ih =>
    show Balances m m (.slash :: .identifier name :: segmentKinds names)
    exact (plain (by simp) (by simp) (by simp)).cons ((word name).cons ih)

end Balances

/-- The tokens of a phrase are passed over; lists take their closing parenthesis with them. -/
def Phrase.Balanced (ks : List TokenKind) : Phrase → Prop
  | .expr _ _ | .further .. => Balances 0 0 ks
  | .arguments _ | .moreArguments _ | .branches _ _ => Balances 1 0 ks

theorem Derives.balanced {rs : Resolvers} {ph : Phrase} {ks : List TokenKind}
    (h : Derives rs ph ks) : ph.Balanced ks := by
  induction h with
  | operand _ _ ih | comparison _ ih | sum _ ih => exact ih
  | connective _ _ _ iha ihb | compare _ _ _ iha ihb =>
    exact iha.append ((Balances.word _).cons ihb)
  | not _ _ ih => exact (Balances.word _).cons ih
  | chain _ _ iha ihb => exact iha.append ihb
  | noMore => exact Balances.nil
  | more _ _ _ iha ihb => exact (Balances.word _).cons (iha.append ihb)
  | parenthesized _ ih => exact (Balances.deeper ih).enclosed
  | literal value => exact .literal value
  | path _ => exact (Balances.word _).cons (.segments _)
  | call _ _ _ _ ih | case _ _ _ ih => exact (Balances.word _).cons (Balances.opening.cons ih)
  | noArguments => exact Balances.closing
  | someArguments _ ih => exact ih
  | lastArgument _ ih => exact (Balances.deeper ih).append .closing
  | argument _ _ iha ihb => exact (Balances.deeper iha).append (Balances.comma.cons ihb)
  | lastBranch _ _ ihc ihv =>
    exact (Balances.deeper ihc).append
      (Balances.colon.cons ((Balances.deeper ihv).append .closing))
  | branch _ _ _ _ ihc ihv ihr =>
    exact (Balances.deeper ihc).append
      (Balances.colon.cons ((Balances.deeper ihv).append (Balances.comma.cons ihr)))

/-- The tokens of an expression are passed over. -/
theorem Derives.balances {rs : Resolvers} {l : Level} {e : Expr} {ks : List TokenKind}
    (h : Derives rs (.expr l e) ks) : Balances 0 0 ks := h.balanced

/-! ### Values -/

/-- A text that may stand as the value of an option. -/
def IsValue (cs : List Char) : Prop := Trimmed cs ∧ ∃ ks, Lexes cs ks ∧ Balances 0 0 ks

theorem Written.isValue {rs : Resolvers} {l : Level} {cs : List Char} {e : Expr}
    (h : Written rs l cs e) : IsValue cs := by
  obtain ⟨ht, ks, hl, hd⟩ := h
  exact ⟨ht, ks, hl, hd.balances⟩

theorem isValue_word {w : String} (h : IsIdentifier w) : IsValue w.toList :=
  ⟨trimmed_of_isWord h.1, _, .identifier h, .word w⟩

/-- Two values with a blank, a word and a blank between them. -/
theorem IsValue.spaced {a b : List Char} {w : String} (ha : IsValue a) (hw : IsIdentifier w)
    (hb : IsValue b) : IsValue (a ++ (' ' :: (w.toList ++ (' ' :: b)))) := by
  obtain ⟨hta, ka, hla, hba⟩ := ha
  obtain ⟨htb, kb, hlb, hbb⟩ := hb
  have hlex := hla.spaced hw.1 hlb
  rw [String.ofList_toList, hw.2] at hlex
  exact ⟨hta.spaced htb _, _, hlex, hba.append ((Balances.word w).cons hbb)⟩

/-- A value and a word behind it. -/
theorem IsValue.wordBehind {a : List Char} {w : String} (ha : IsValue a) (hw : IsIdentifier w) :
    IsValue (a ++ (' ' :: w.toList)) := by
  obtain ⟨hta, ka, hla, hba⟩ := ha
  exact ⟨hta.append (trimmed_of_isWord hw.1) [' '], _,
    hla.append (.blank (by decide) (.identifier hw)) boundary_blank, hba.append (.word w)⟩

/-- Values with commas between them. -/
theorem IsValue.commas {texts : List (List Char)} (hne : texts ≠ [])
    (h : ∀ cs ∈ texts, IsValue cs) : IsValue ([','].intercalate texts) := by
  induction texts with
  | nil => exact absurd rfl hne
  | cons cs texts ih =>
    have hcs := h cs List.mem_cons_self
    cases texts with
    | nil => simpa using hcs
    | cons cs' texts =>
      obtain ⟨htail, ks', hl', hb'⟩ := ih (List.cons_ne_nil cs' texts)
        fun c hc => h c (List.mem_cons_of_mem cs hc)
      obtain ⟨hhead, ks, hl, hb⟩ := hcs
      have hcomma : Lexes (',' :: [','].intercalate (cs' :: texts)) (.comma :: ks') :=
        .punctuation rfl (by decide) hl'
      have hvalue : IsValue (cs ++ (',' :: [','].intercalate (cs' :: texts))) :=
        ⟨hhead.append htail [','], _, hl.append hcomma (boundary_cons (by decide) (by decide)),
          hb.append (Balances.comma.cons hb')⟩
      simpa using hvalue

/-! ### Finding values -/

/-- A token that ends a value. -/
def EndsValue (t : Token) : Prop := t.kind = .semicolon ∨ t.kind = .rightParen

theorem valueTokens_of_endsValue {t : Token} (h : EndsValue t) (rest : List Token) :
    valueTokens 0 (t :: rest) = ([], t :: rest) := by
  rw [valueTokens.eq_def]
  rcases h with h | h <;> simp only [h]

/-- A value in front of a token that ends values is found again, at its place. -/
theorem optionValue_of_isValue (ctx : Context) {cs : List Char} (h : IsValue cs) {pos : Nat}
    {ts : List Token} (hts : scan pos cs = .ok ts) {t : Token} (ht : EndsValue t)
    (rest : List Token) :
    optionValue ctx (ts ++ t :: rest)
      = .ok (⟨pos, pos + Text.byteLength cs⟩, t :: rest) := by
  obtain ⟨htrim, ks, hl, hb⟩ := h
  have hvalue : valueTokens 0 (ts ++ t :: rest) = (ts, t :: rest) := by
    have hpassed := hb 0 ts (t :: rest) (hl.kinds hts)
    rw [Nat.add_zero, valueTokens_of_endsValue ht, List.append_nil] at hpassed
    exact hpassed
  obtain ⟨first, more, rfl, hstart⟩ := scan_first htrim hts
  have hlast : ∃ c ∈ cs.getLast?, Text.isBlank c = false := by
    obtain ⟨-, init, c, rfl, hc⟩ := htrim
    exact ⟨c, by simp, hc⟩
  obtain ⟨last, hmem, hstop⟩ := scan_last hlast hts
  have hgetLast : (first :: more).getLast?.getD first = last := by
    rw [Option.mem_def.1 hmem, Option.getD_some]
  rw [optionValue, hvalue]
  show Except.ok ((⟨first.span.start, ((first :: more).getLast?.getD first).span.stop⟩ : Span),
    t :: rest) = _
  rw [hgetLast, hstart, hstop]

end Polyquery.OData
