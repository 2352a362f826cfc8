import Polyquery.OData.Printer
import Polyquery.Proofs.OData.Written

/-!
# Texts with blanks between tokens

* `Spaced` - a text of tokens with blanks around them; next to punctuation there may be none;
* `Lexable` - a token whose characters scan to it; `AllLexable` - lists of such tokens;
* `Spaced.lexes` - a spaced text scans to its tokens;
* `isIdentifier_of_letters` - words in any letter case.
-/

namespace Polyquery.OData

/-! ### Texts of tokens -/

/-- Whether a token is punctuation. -/
def TokenKind.isPunctuation : TokenKind → Bool
  | .identifier _ | .literal _ => false
  | _ => true

/-- The characters of a token. -/
def TokenKind.chars : TokenKind → List Char
  | .leftParen => ['(']
  | .rightParen => [')']
  | .slash => ['/']
  | .comma => [',']
  | .equals => ['=']
  | .semicolon => [';']
  | .colon => [':']
  | .star => ['*']
  | .identifier name => name.toList
  | .literal value => (literalText value).toList

/-- A text of tokens with blanks in front of them, between them and at the end.  Next to punctuation
there may be none. -/
inductive Spaced : List TokenKind → List Char → Prop where
  | nil {blanks : List Char} : (∀ c ∈ blanks, Text.isBlank c = true) → Spaced [] blanks
  | cons {k : TokenKind} {ks : List TokenKind} {blanks rest : List Char} :
      (∀ c ∈ blanks, Text.isBlank c = true) →
      (k.isPunctuation = true ∨
        ∀ c ∈ rest.head?, Text.isBlank c = true ∨ (punctuation? c).isSome = true) →
      Spaced ks rest → Spaced (k :: ks) (blanks ++ (k.chars ++ rest))

/-- A token that scans to itself in front of a blank, of punctuation and of the end. -/
def Lexable (k : TokenKind) : Prop := k.isPunctuation = true ∨ Lexes k.chars [k]

theorem lexes_punctuation {k : TokenKind} (h : k.isPunctuation = true) {cs : List Char}
    {ks : List TokenKind} (hcs : Lexes cs ks) : Lexes (k.chars ++ cs) (k :: ks) := by
  cases k with
  | identifier name => cases h
  | literal value => cases h
  | _ => exact .punctuation rfl (by decide) hcs

theorem boundary_of_head {cs : List Char}
    (h : ∀ c ∈ cs.head?, Text.isBlank c = true ∨ (punctuation? c).isSome = true) :
    Boundary cs := by
  intro c hc
  rcases h c hc with hblank | hmark
  · constructor
    · rw [← Bool.not_eq_true]
      intro hword
      rw [isBlank_of_isWordChar hword] at hblank
      cases hblank
    · rintro rfl
      exact absurd hblank (by decide)
  · unfold punctuation? at hmark
    split at hmark
    case h_9 => cases hmark
    all_goals exact ⟨by decide, by decide⟩

theorem lexes_blanks {blanks cs : List Char} {ks : List TokenKind}
    (hb : ∀ c ∈ blanks, Text.isBlank c = true) (h : Lexes cs ks) : Lexes (blanks ++ cs) ks := by
  induction blanks with
  | nil => exact h
  | cons c rest ih =>
    rw [List.forall_mem_cons] at hb
    exact .blank hb.1 (ih hb.2)

/-- A spaced text scans to its tokens. -/
theorem Spaced.lexes {ks : List TokenKind} {cs : List Char} (h : Spaced ks cs)
    (hks : ∀ k ∈ ks, Lexable k) : Lexes cs ks := by
  induction h with
  | nil hb =>
    have hlex := lexes_blanks hb .nil
    rwa [List.append_nil] at hlex
  | @cons k ks blanks rest hb hseparated _ ih =>
    rw [List.forall_mem_cons] at hks
    refine lexes_blanks hb ?_
    have hrest := ih hks.2
    by_cases hmark : k.isPunctuation = true
    · exact lexes_punctuation hmark hrest
    · have hk : Lexes k.chars [k] := hks.1.resolve_left hmark
      exact hk.append hrest (boundary_of_head (hseparated.resolve_left hmark))

/-- Tokens with the same blanks in front of each. -/
theorem spaced_flatMap {gap : List Char} (hne : gap ≠ [])
    (hb : ∀ c ∈ gap, Text.isBlank c = true) (ks : List TokenKind) :
    Spaced ks (ks.flatMap fun k => gap ++ k.chars) := by
  induction ks with
  | nil => exact .nil (by simp)
  | cons k ks ih =>
    rw [List.flatMap_cons, List.append_assoc]
    refine .cons hb (.inr ?_) ih
    intro c hc
    cases gap with
    | nil => exact absurd rfl hne
    | cons d gap =>
      cases ks with
      | nil => cases hc
      | cons k' ks =>
        obtain rfl : d = c := by simpa using hc
        exact .inl (hb d List.mem_cons_self)

/-! ### Tokens that scan to themselves -/

/-- What is a letter in lower case starts a word, and may stand inside one. -/
theorem isWordStart_of_lower {c : Char}
    (h : Text.isAsciiLetter (Text.asciiLowerChar c) = true) :
    isWordStart c = true ∧ isWordChar c = true := by
  have hletter : Text.isAsciiLetter c = true := by
    unfold Text.asciiLowerChar at h
    split at h
    · rename_i hupper
      simp [Text.isAsciiLetter, hupper]
    · exact h
  have hascii : c.toNat < 128 := by
    simp only [Text.isAsciiLetter, Bool.or_eq_true, Bool.and_eq_true, decide_eq_true_eq] at hletter
    omega
  have halphabetic : Text.isAlphabetic c = true := by rw [Text.isAlphabetic, if_pos hascii, hletter]
  simp [isWordStart, isWordChar, Text.isAlphanumeric, halphabetic]

/-- A word of letters is an identifier in any letter case, unless it is a constant. -/
theorem isIdentifier_of_letters {word lower : String} (h : Text.asciiLower word = lower)
    (hne : lower.toList ≠ []) (hletters : lower.toList.all Text.isAsciiLetter = true)
    (hconstant : ∀ v ∈ ["true", "false", "null", "INF", "NaN"], Text.asciiLower v ≠ lower) :
    IsIdentifier word := by
  have hchars : word.toList.map Text.asciiLowerChar = lower.toList := by
    rw [← h, Text.asciiLower, String.toList_ofList]
  rw [← hchars, List.all_map, List.all_eq_true] at hletters
  have hplain : ∀ v ∈ ["true", "false", "null", "INF", "NaN"], word ≠ v := by
    rintro v hv rfl
    exact hconstant word hv h
  constructor
  · cases hw : word.toList with
    | nil =>
      rw [hw] at hchars
      exact absurd hchars.symm hne
    | cons c rest =>
      rw [hw] at hletters
      rw [isWord, Bool.and_eq_true, List.all_eq_true]
      refine ⟨(isWordStart_of_lower (hletters c List.mem_cons_self)).1, fun d hd => ?_⟩
      exact (isWordStart_of_lower (hletters d (List.mem_cons_of_mem c hd))).2
  · simp only [List.forall_mem_cons] at hplain
    obtain ⟨h₁, h₂, h₃, h₄, h₅, -⟩ := hplain
    rw [wordKind, if_neg h₁, if_neg h₂, if_neg h₃, if_neg h₄, if_neg h₅]

theorem lexable_identifier {name : String} (h : IsIdentifier name) : Lexable (.identifier name) :=
  .inr (Lexes.identifier h)

theorem lexable_int (n : Int64) : Lexable (.literal (.int n)) := by
  refine .inr ?_
  rw [TokenKind.chars, literalText, Integer.text64, Integer.text, String.toList_ofList]
  exact Lexes.int n

theorem lexable_bool (b : Bool) : Lexable (.literal (.bool b)) := by
  cases b
  · exact .inr (Lexes.word (by decide))
  · exact .inr (Lexes.word (by decide))

/-- Every token of a list is lexable. -/
def AllLexable (ks : List TokenKind) : Prop := ∀ k ∈ ks, Lexable k

namespace AllLexable

variable {ks ks' : List TokenKind} {k : TokenKind}

theorem nil : AllLexable [] := fun _ hk => absurd hk List.not_mem_nil

theorem cons (hk : Lexable k) (h : AllLexable ks) : AllLexable (k :: ks) :=
  List.forall_mem_cons.2 ⟨hk, h⟩

theorem append (h : AllLexable ks) (h' : AllLexable ks') : AllLexable (ks ++ ks') :=
  List.forall_mem_append.2 ⟨h, h'⟩

theorem mark (hk : k.isPunctuation = true) (h : AllLexable ks) : AllLexable (k :: ks) :=
  cons (.inl hk) h

theorem commas {parts : List (List TokenKind)} (h : ∀ part ∈ parts, AllLexable part) :
    AllLexable ([.comma].intercalate parts) := by
  induction parts with
  | nil => exact nil
  | cons part rest ih =>
    rw [List.forall_mem_cons] at h
    cases rest with
    | nil => simpa using h.1
    | cons next rest =>
      rw [List.intercalate_cons_cons]
      exact (h.1.append (mark rfl nil)).append (ih h.2)

theorem segments {segments : List String} (h : ∀ s ∈ segments, IsIdentifier s) :
    AllLexable (segmentKinds segments) := by
  intro k hk
  obtain ⟨s, hs, hk⟩ := List.mem_flatMap.1 hk
  simp only [List.mem_cons, List.not_mem_nil, or_false] at hk
  rcases hk with rfl | rfl
  · exact .inl rfl
  · exact lexable_identifier (h s hs)

end AllLexable

end Polyquery.OData
