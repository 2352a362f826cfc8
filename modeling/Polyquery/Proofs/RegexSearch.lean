import Polyquery.Proofs.TextPattern

/-!
# Texts that a regular expression finds

Regular expressions of characters, dots, starred dots and anchors.  The search is unanchored: some
stretch of the text has to match, and only the anchors say where it lies.

* `Regex.Part`, `Regex.parts?` - the parts of an expression, read from its text;
* `Regex.Matches`, `Regex.Finds` - the stretches that parts match, and the texts they are found in;
* `Regex.parts?_character`, `Regex.parts?_anyCharacter` - parts are read one by one.
-/

namespace Polyquery.Regex

/-- A part of a regular expression. -/
inductive Part where
  | character (c : Char)
  | anyCharacter
  | anyText
  | start
  | stop
deriving DecidableEq

/-- The parts of a regular expression.  A backslash stands in front of characters that a literal text
escapes, and other operators than dots, starred dots and anchors are not read. -/
def parts? : List Char → Option (List Part)
  | [] => some []
  | '\\' :: [] => none
  | '\\' :: c :: rest =>
    if TextPattern.isEscaped c then (parts? rest).map (.character c :: ·) else none
  | '.' :: '*' :: rest => (parts? rest).map (.anyText :: ·)
  | '.' :: rest => (parts? rest).map (.anyCharacter :: ·)
  | '^' :: rest => (parts? rest).map (.start :: ·)
  | '$' :: rest => (parts? rest).map (.stop :: ·)
  | c :: rest =>
    if TextPattern.isOperator c then none else (parts? rest).map (.character c :: ·)

/-- A part matches a run of characters between the text before it and the text behind it.  Dots
match no line break, and anchors match nothing but a place. -/
def Part.MatchesAt : Part → (before run behind : List Char) → Prop
  | .character c, _, run, _ => run = [c]
  | .anyCharacter, _, run, _ => ∃ c, c ≠ '\n' ∧ run = [c]
  | .anyText, _, run, _ => '\n' ∉ run
  | .start, before, run, _ => run = [] ∧ before = []
  | .stop, _, run, behind => run = [] ∧ behind = []

/-- Parts match a stretch of a text if it splits into runs that they match one by one. -/
def Matches : List Part → (before stretch behind : List Char) → Prop
  | [], _, stretch, _ => stretch = []
  | part :: parts, before, stretch, behind =>
    ∃ run rest, stretch = run ++ rest ∧ part.MatchesAt before run (rest ++ behind) ∧
      Matches parts (before ++ run) rest behind

/-- Parts are found in a text if they match a stretch of it. -/
def Finds (parts : List Part) (text : List Char) : Prop :=
  ∃ before stretch behind, text = before ++ stretch ++ behind ∧ Matches parts before stretch behind

/-! ### Reading parts -/

theorem parts?_escaped {c : Char} (h : TextPattern.isEscaped c = true) (rest : List Char) :
    parts? ('\\' :: c :: rest) = (parts? rest).map (.character c :: ·) := by
  rw [parts?, if_pos h]

/-- A character that needs no escape stands for itself. -/
theorem parts?_plain {c : Char} (h : TextPattern.isEscaped c = false) (rest : List Char) :
    parts? (c :: rest) = (parts? rest).map (.character c :: ·) := by
  have hne : ∀ d, TextPattern.isEscaped d = true → c ≠ d := by
    intro d hd heq
    rw [heq, hd] at h
    cases h
  have hslash : c ≠ '\\' := hne '\\' (by decide)
  have hdot : c ≠ '.' := hne '.' (by decide)
  have hcaret : c ≠ '^' := hne '^' (by decide)
  have hdollar : c ≠ '$' := hne '$' (by decide)
  have hop : TextPattern.isOperator c = false := by
    rw [← Bool.not_eq_true]
    intro hop
    exact absurd (TextPattern.isEscaped_of_isOperator hop) (by simp [h])
  rw [parts?.eq_8]
  · rw [hop, if_neg (by simp)]
  · exact fun heq _ => hslash heq
  · exact fun _ _ heq _ => hslash heq
  · exact fun _ heq _ => hdot heq
  · exact hdot
  · exact hcaret
  · exact hdollar

/-- The escaped text of a character is read as that character. -/
theorem parts?_character (c : Char) (rest : List Char) :
    parts? (TextPattern.escape [c] ++ rest) = (parts? rest).map (.character c :: ·) := by
  rw [TextPattern.escape_cons]
  by_cases hc : TextPattern.isEscaped c = true
  · rw [if_pos hc]
    exact parts?_escaped hc rest
  · rw [if_neg hc]
    exact parts?_plain (by simpa using hc) rest

/-- A dot without a star behind it is any character. -/
theorem parts?_anyCharacter {rest : List Char} (h : rest.head? ≠ some '*') :
    parts? ('.' :: rest) = (parts? rest).map (.anyCharacter :: ·) := by
  rw [parts?]
  rintro tail rfl
  exact h rfl

end Polyquery.Regex
