import Mathlib.Data.List.Infix
import Polyquery.Proofs.Sql.LikePattern
import Polyquery.Proofs.Sql.Meaning
import Polyquery.Sql.Render

/-!
# Text conditions in SQLite

What SQLite makes of the functions, comparisons and patterns that test texts.  A text is its
characters: positions and lengths count characters, and comparisons without a collation go by them.

* `TextPattern.Occurs` - a prefix, a suffix or a part of a text;
* `substr`, `instr` - a part of a text, and the place of another text in it;
* `substr_behind`, `substr_fromStart`, `substr_fromEnd`, `instr_pos_iff` - they find parts, prefixes
  and suffixes;
* `likeMatches_likeText` - patterns of plain characters between percent signs find them as well;
* `value`, `Holds` - the value of an expression in a row, and the conditions that are true there.
-/

namespace Polyquery

/-- Where a pattern wants a text to occur in another: at its start, at its end, or anywhere. -/
def TextPattern.Occurs : TextPattern → (needle text : List Char) → Prop
  | .startsWith _, needle, text => needle <+: text
  | .endsWith _, needle, text => needle <:+ text
  | .contains _, needle, text => needle <:+: text

instance (p : TextPattern) (needle text : List Char) : Decidable (p.Occurs needle text) :=
  match p with
  | .startsWith _ => inferInstanceAs (Decidable (needle <+: text))
  | .endsWith _ => inferInstanceAs (Decidable (needle <:+ text))
  | .contains _ => inferInstanceAs (Decidable (needle <:+: text))

namespace Sql.Sqlite

/-! ### Functions of texts -/

/-- The part of a text from a position on: as many characters as a count says, or all.  Positions
count from one, negative ones from the end, and position zero is in front of the first character.
Of a part that reaches beyond an end of the text, what lies inside is left, and a negative count
takes the characters in front of the position. -/
def substr (text : List Char) (start : Int) (count : Option Int) : List Char :=
  let first : Int := if 0 < start then start - 1 else if start < 0 then text.length + start else -1
  match count with
  | none => text.drop first.toNat
  | some count => (text.take (max first (first + count)).toNat).drop (min first (first + count)).toNat

/-- The position of the first place where one text occurs in another, or zero. -/
def instr (text needle : List Char) : Nat :=
  (text.tails.findIdx? needle.isPrefixOf).elim 0 (· + 1)

/-- Positions and counts that are not negative cut a part out of a text. -/
theorem substr_behind (text : List Char) {start count : Int} (hstart : 0 ≤ start)
    (hcount : 0 ≤ count) :
    substr text (start + 1) (some count) = (text.drop start.toNat).take count.toNat := by
  have hfirst : start + 1 - 1 = start := by omega
  have hhigh : max start (start + count) = start + count := by omega
  have hlow : min start (start + count) = start := by omega
  have hlength : (start + count).toNat - start.toNat = count.toNat := by omega
  rw [substr, if_pos (by omega)]
  show (text.take (max (start + 1 - 1) (start + 1 - 1 + count)).toNat).drop
    (min (start + 1 - 1) (start + 1 - 1 + count)).toNat = _
  rw [hfirst, hhigh, hlow, List.drop_take, hlength]

theorem substr_fromStart (text : List Char) (n : Nat) : substr text 1 (some n) = text.take n :=
  substr_behind text (Int.le_refl 0) (Int.natCast_nonneg n)

theorem substr_fromEnd (text : List Char) {n : Nat} (h : 0 < n) :
    substr text (-n) none = text.drop (text.length - n) := by
  have hfirst : (text.length + -(n : Int)).toNat = text.length - n := by omega
  rw [substr, if_neg (by omega), if_pos (by omega)]
  exact congrArg text.drop hfirst

/-- A text that is as long as a prefix may be is cut off as it is if it is one. -/
theorem substr_fromStart_eq_iff (needle text : List Char) :
    substr text 1 (some needle.length) = needle ↔ needle <+: text := by
  rw [substr_fromStart, List.prefix_iff_eq_take, eq_comm]

/-- Counting from the end may reach beyond the start of a text, which is then too short. -/
theorem substr_fromEnd_eq_iff {needle : List Char} (h : needle ≠ []) (text : List Char) :
    substr text (-needle.length) none = needle ↔ needle <:+ text := by
  rw [substr_fromEnd text (List.length_pos_iff.2 h), List.suffix_iff_eq_drop, eq_comm]

example : substr "naïve".toList (-9) none = "naïve".toList := by decide

/-- A text has a place in another if it occurs there; the empty text has the first one. -/
theorem instr_pos_iff (needle text : List Char) : 0 < instr text needle ↔ needle <:+: text := by
  have hfound : 0 < instr text needle ↔ (text.tails.findIdx? needle.isPrefixOf).isSome = true := by
    unfold instr
    cases text.tails.findIdx? needle.isPrefixOf <;> simp
  rw [hfound, List.findIdx?_isSome, List.any_eq_true, List.infix_iff_prefix_suffix]
  simp only [List.mem_tails, List.isPrefixOf_iff_prefix]
  exact exists_congr fun t => And.comm

example : instr "naïve".toList "ve".toList = 4 := by decide

/-! ### Patterns -/

/-- A text in which ASCII letters are small ones: patterns tell no others apart by case. -/
def folded (cs : List Char) : List Char := cs.map Text.asciiLowerChar

/-- Characters of a pattern that stand for themselves. -/
def Plain (cs : List Char) : Prop := ∀ c ∈ cs, c ≠ '%' ∧ c ≠ '_'

theorem asciiLowerChar_plain {c : Char} (h : c ≠ '%' ∧ c ≠ '_') :
    Text.asciiLowerChar c ≠ '%' ∧ Text.asciiLowerChar c ≠ '_' := by
  have hletters : ∀ n < 91, 65 ≤ n → Char.ofNat (n + 32) ≠ '%' ∧ Char.ofNat (n + 32) ≠ '_' := by
    decide
  unfold Text.asciiLowerChar
  split
  · rename_i hupper
    exact hletters c.toNat (by omega) hupper.1
  · exact h

/-- Letter case makes no wildcards. -/
theorem plain_folded {s : String} (h : hasWildcard s = false) : Plain (folded s.toList) := by
  intro c hc
  obtain ⟨d, hd, rfl⟩ := List.mem_map.1 hc
  rw [hasWildcard, List.any_eq_false] at h
  have hplain := h d hd
  simp only [Bool.or_eq_true, decide_eq_true_eq, not_or] at hplain
  exact asciiLowerChar_plain hplain

theorem likeMatches_nil (text : List Char) : LikeMatches none [] text ↔ text = [] := by
  constructor
  · intro h
    cases h
    rfl
  · rintro rfl
    exact .nil

/-- A percent sign takes any run of characters and leaves an end of the text. -/
theorem likeMatches_percent (pattern text : List Char) :
    LikeMatches none ('%' :: pattern) text ↔
      ∃ rest, rest <:+ text ∧ LikeMatches none pattern rest := by
  constructor
  · intro h
    cases h with
    | escaped he => cases he
    | anyText _ hrest => exact ⟨_, List.suffix_append _ _, hrest⟩
    | character _ hany => exact absurd rfl hany
  · rintro ⟨rest, ⟨run, rfl⟩, hrest⟩
    exact .anyText (by simp) hrest

/-- A plain character takes itself. -/
theorem likeMatches_plain_cons {c : Char} (h : c ≠ '%' ∧ c ≠ '_') (pattern text : List Char) :
    LikeMatches none (c :: pattern) text ↔ ∃ rest, text = c :: rest ∧ LikeMatches none pattern rest := by
  constructor
  · intro hmatch
    cases hmatch with
    | escaped he => cases he
    | anyText => exact absurd rfl h.1
    | anyCharacter => exact absurd rfl h.2
    | character _ _ _ hrest => exact ⟨_, rfl, hrest⟩
  · rintro ⟨rest, rfl, hrest⟩
    exact .character (by simp) h.1 h.2 hrest

theorem likeMatches_plain_append {cs : List Char} (h : Plain cs) (pattern text : List Char) :
    LikeMatches none (cs ++ pattern) text ↔
      ∃ rest, text = cs ++ rest ∧ LikeMatches none pattern rest := by
  induction cs generalizing text with
  | nil => simp
  | cons c cs ih =>
    have hcs : Plain cs := fun d hd => h d (List.mem_cons_of_mem c hd)
    rw [List.cons_append, likeMatches_plain_cons (h c List.mem_cons_self)]
    constructor
    · rintro ⟨rest, rfl, hmatch⟩
      obtain ⟨rest, rfl, hrest⟩ := (ih hcs rest).1 hmatch
      exact ⟨rest, rfl, hrest⟩
    · rintro ⟨rest, rfl, hrest⟩
      exact ⟨cs ++ rest, rfl, (ih hcs _).2 ⟨rest, rfl, hrest⟩⟩

/-- Plain characters in front of a percent sign are a prefix. -/
theorem likeMatches_start {cs : List Char} (h : Plain cs) (text : List Char) :
    LikeMatches none (cs ++ ['%']) text ↔ cs <+: text := by
  simp only [likeMatches_plain_append h, likeMatches_percent, likeMatches_nil]
  constructor
  · rintro ⟨rest, rfl, -⟩
    exact List.prefix_append cs rest
  · rintro ⟨rest, rfl⟩
    exact ⟨rest, rfl, [], List.nil_suffix, rfl⟩

theorem likeMatches_self {cs : List Char} (h : Plain cs) (text : List Char) :
    LikeMatches none cs text ↔ text = cs := by
  have hmatch := likeMatches_plain_append h [] text
  simpa only [List.append_nil, likeMatches_nil, exists_eq_right] using hmatch

/-- The pattern of plain characters finds what it is made for, letter case apart. -/
theorem likeMatches_likeText {p : TextPattern} (h : hasWildcard p.text = false) (text : List Char) :
    LikeMatches none (folded (likeText p).toList) (folded text) ↔
      p.Occurs (folded p.text.toList) (folded text) := by
  cases p with
  | startsWith s =>
    have hpattern : folded (likeText (.startsWith s)).toList = folded s.toList ++ ['%'] := by
      rw [likeText, String.toList_append, folded, List.map_append]
      rfl
    rw [hpattern]
    exact likeMatches_start (plain_folded h) _
  | endsWith s =>
    have hplain : Plain (folded s.toList) := plain_folded h
    have hpattern : folded (likeText (.endsWith s)).toList = '%' :: folded s.toList := by
      rw [likeText, String.toList_append]
      rfl
    rw [hpattern, likeMatches_percent]
    simp only [likeMatches_self hplain, exists_eq_right]
    rfl
  | contains s =>
    have hplain : Plain (folded s.toList) := plain_folded h
    have hpattern : folded (likeText (.contains s)).toList = '%' :: (folded s.toList ++ ['%']) := by
      rw [likeText, String.toList_append, String.toList_append, folded, List.map_append]
      rfl
    rw [hpattern, likeMatches_percent]
    simp only [likeMatches_start hplain]
    exact (exists_congr fun rest => And.comm).trans List.infix_iff_prefix_suffix.symm

/-! ### Values and conditions -/

/-- The values that are no null. -/
inductive Value where
  | integer (n : Int)
  | text (cs : List Char)
deriving DecidableEq

/-- The order of values: numbers by size, in front of all texts, and texts by their characters. -/
def Value.precedes : Value → Value → Bool
  | .integer m, .integer n => m < n
  | .integer _, .text _ => true
  | .text _, .integer _ => false
  | .text s, .text t => s < t

/-- What a comparison says of two values. -/
def compared (op : ComparisonOp) (left right : Value) : Bool :=
  match op with
  | .eq => left = right
  | .ne => left ≠ right
  | .lt => left.precedes right
  | .lte => !right.precedes left
  | .gt => right.precedes left
  | .gte => !left.precedes right

/-- The value of a constant. -/
def ofLiteral : Literal → Option Value
  | .int n => some (.integer n.toInt)
  | .string s => some (.text s.toList)
  | _ => none

/-- The value of a call. -/
def called (function : String) (args : List Value) : Option Value :=
  match function, args with
  | "SUBSTR", [.text s, .integer start] => some (.text (substr s start none))
  | "SUBSTR", [.text s, .integer start, .integer count] =>
    some (.text (substr s start (some count)))
  | "INSTR", [.text s, .text needle] => some (.integer (instr s needle))
  | _, _ => none

mutual

/-- The value of an expression in a row, which gives the values of columns by their names.  There is
none where the value is null, and none of other expressions. -/
def value (row : List String → Option Value) : Tree → Option Value
  | .name ident => row [ident.value]
  | .path idents => row (idents.map Ident.value)
  | .call ⟨[function], "", .arguments none [], false, "", false⟩ arguments =>
    (values row arguments).bind (called function.value)
  | t => t.literal?.bind ofLiteral

/-- The values of arguments. -/
def values (row : List String → Option Value) : List Argument → Option (List Value)
  | [] => some []
  | .value t :: rest => (value row t).bind fun v => (values row rest).map (v :: ·)
  | _ => none

end

/-- Whether a condition is true in a row: a comparison, or a pattern without an escape character.
Neither is true of null. -/
def Holds (row : List String → Option Value) : Tree → Prop
  | .binary (.compare op) left right =>
    ∃ x y, value row left = some x ∧ value row right = some y ∧ compared op x y = true
  | .like false false false operand pattern none =>
    ∃ x p, value row operand = some (.text x) ∧ value row pattern = some (.text p) ∧
      LikeMatches none (folded p) (folded x)
  | _ => False

end Sql.Sqlite

end Polyquery
