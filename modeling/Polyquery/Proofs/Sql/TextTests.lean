import Polyquery.Proofs.Sql.SqliteText
import Polyquery.Proofs.Sql.TextReading

/-!
# Text tests on columns in SQLite

A test of a literal text on a column is written for SQLite with its functions of texts, or as a
pattern where letter case plays no part.  The text is read as one condition, and the condition is
true of the texts that the test asks for.

* `SqliteOperand`, `operand_path`, `operand_textFunction` - operands as SQLite's grammar reads them;
* `testTree`, `readsText_textFunctionTokens`, `readsText_like` - the conditions that tests are read
  as;
* `Sqlite.holds_testTree`, `Sqlite.holds_like` - what these conditions mean;
* `text_tests_exact` - tests and their texts agree.
-/

namespace Polyquery.Sql

/-! ### Operands -/

/-- At a number of levels the lexemes are one operand for SQLite in front of operators of limited
strength. -/
def SqliteOperand (n hi : Nat) (ls : List Lexeme) (t : Tree) : Prop :=
  ∀ rest, Follows rest → precedence .sqlite rest ≤ hi →
    operand .sqlite (readers .sqlite false n) (ls ++ rest) = .ok (t, rest)

theorem nameForm_qualified {d : DialectName} {r : Readings} (name : Ident) (names : List Ident)
    {rest : List Lexeme} (h : EndsName rest) :
    nameForm d r name (pointed names ++ rest) = .ok (qualifiedTree (name :: names), rest) := by
  cases names with
  | nil => exact nameForm_of_endsName h
  | cons next names => exact nameForm_path (List.cons_ne_nil next names) h

/-- A name in quotes starts no type and no form of its own, so it is read as a name. -/
theorem operand_quoted_names {name : Ident} (hquote : (Lexeme.word name).keyword? = none)
    (names : List Ident) {rest : List Lexeme} (hend : EndsName rest) (hbracket : Unbracketed rest)
    (hcollate : keyword? "COLLATE" rest = .ok (false, rest)) (r : Deeper) :
    operand .sqlite r (.word name :: (pointed names ++ rest))
      = .ok (qualifiedTree (name :: names), rest) := by
  have hkey : ((Lexeme.word name).keyword?).getD "" = "" := by rw [hquote]; rfl
  have htype : ((Lexeme.word name).keyword?).getD "" ∉ typeWords := by
    rw [hkey]
    decide
  have hform : ∀ r ls, wordForm .sqlite r name ls = .ok (none, ls) := by
    intro r ls
    unfold wordForm
    rw [hkey]
    rfl
  rw [operand_of_untyped (typedConstant_form htype _ ((unbracketed_pointed names).append hbracket))]
  rw [plainOperand_word, wordOperand_of_no_form (hform _ _),
    bind_of_ok (nameForm_qualified name names hend)]
  exact bind_if_false hcollate

/-- A qualified name is an operand in front of anything that goes on with no name. -/
theorem operand_path (path : String) {rest : List Lexeme} (hend : EndsName rest)
    (hbracket : Unbracketed rest) (hcollate : keyword? "COLLATE" rest = .ok (false, rest))
    (r : Deeper) :
    operand .sqlite r (pathLexemes .sqlite path ++ rest) = .ok (pathTreeIn .sqlite path, rest) := by
  obtain ⟨name, names, hpath⟩ := List.exists_cons_of_ne_nil (Text.segments_ne_nil path)
  rw [pathLexemes, pathTreeIn, hpath]
  exact operand_quoted_names rfl _ hend hbracket hcollate r

namespace SqliteOperand

variable {n hi : Nat}

theorem path (path : String) :
    SqliteOperand n hi (pathLexemes .sqlite path) (pathTreeIn .sqlite path) :=
  fun _ hrest _ => operand_path path hrest.endsName hrest.unbracketed (keyword?_collate hrest) _

theorem constant {l : Lexeme} {c : Constant}
    (htyped : ∀ r ls, typedConstant .sqlite r (l :: ls) = .error .mismatch)
    (hplain : ∀ r ls, plainOperand .sqlite r (l :: ls) = collated (.constant c) ls) :
    SqliteOperand n hi [l] (.constant c) :=
  fun _ hrest _ => operand_constant htyped hplain hrest _

theorem number (digits : String) : SqliteOperand n hi [.number digits false] (numberTree digits) :=
  constant (fun _ _ => rfl) fun _ _ => rfl

theorem text (s : String) : SqliteOperand n hi [.text .single s] (textTree s) :=
  constant (fun _ _ => rfl) fun _ _ => rfl

/-- An operand in front of weaker operators is all that is read. -/
theorem subexpression {ls rest : List Lexeme} {t : Tree} (h : SqliteOperand n hi ls t)
    (hrest : Follows rest) (strength : Nat) (hp : precedence .sqlite rest ≤ strength)
    (hhi : precedence .sqlite rest ≤ hi) :
    Sql.subexpression .sqlite (readings .sqlite (readers .sqlite false n)) strength (ls ++ rest)
      = .ok (t, rest) := by
  refine (bind_of_ok (h rest hrest hhi)).trans ?_
  exact operatorChain_stop hp _ _

/-- A minus sign takes the number behind it. -/
theorem int (m : Int64) : SqliteOperand (n + 1) 0 (intLexemes m.toInt) (intTree m.toInt) := by
  rw [intLexemes, intTree, signedLexemes, signedTree]
  split
  · intro rest hrest hp
    have hnumber : SqliteOperand n 0 _ _ := number (Integer.natText m.toInt.natAbs)
    have hdigits := hnumber.subexpression hrest (rank .sqlite .multiplicative) (by omega) hp
    rw [List.cons_append, operand_of_untyped rfl]
    refine (bind_of_ok (f := collated) (bind_of_ok hdigits)).trans ?_
    exact collated_of_follows hrest _
  · exact number _

end SqliteOperand

/-! ### Calls -/

/-- The lexemes are an argument for SQLite. -/
structure SqliteArgument (n : Nat) (ls : List Lexeme) (t : Tree) : Prop where
  operand : SqliteOperand n 0 ls t
  starts : Starts ls
  unbracketed : Unbracketed ls
  argument : IsArgument ls

/-- What follows an argument in the generic dialect binds no argument in SQLite. -/
theorem precedence_sqlite {rest : List Lexeme} (h : Follows rest)
    (hp : precedence .generic rest = 0) : precedence .sqlite rest = 0 := by
  cases rest with
  | nil => rfl
  | cons l ls =>
    have hl : l ∈ followers := h.head l rfl
    simp only [followers, printedOperators, followingWords, List.map_cons, List.map_nil,
      List.cons_append, List.nil_append, List.mem_cons, List.not_mem_nil, or_false] at hl
    rcases hl with rfl | rfl | rfl | rfl | rfl | rfl | rfl | rfl | rfl | rfl | rfl | rfl | rfl | rfl |
      rfl | rfl | rfl | rfl | rfl | rfl | rfl <;> first | rfl | cases hp

namespace SqliteArgument

variable {n : Nat}

theorem readsItem {ls : List Lexeme} {t : Tree} (h : SqliteArgument n ls t) (op : Parse Tree) :
    ReadsItem (Sql.argument .sqlite ⟨readers .sqlite false (n + 1), op⟩) ls (.value t) := by
  refine ReadsItem.argument (by decide) ⟨h.unbracketed, fun rest hrest hp => ?_⟩ h.argument
  have hsqlite := precedence_sqlite hrest hp
  exact h.operand.subexpression hrest 0 (by omega) (by omega)

theorem path (path : String) :
    SqliteArgument n (pathLexemes .sqlite path) (pathTreeIn .sqlite path) := by
  refine ⟨.path path, ?_, ?_, ?_⟩
  all_goals
    obtain ⟨name, names, hpath⟩ := List.exists_cons_of_ne_nil (Text.segments_ne_nil path)
    rw [pathLexemes, hpath]
  · exact .cons rfl (by simp) _
  · exact unbracketed_path _ _
  · cases names with
    | nil => exact .single (by simp)
    | cons next names => exact .path _ (List.cons_ne_nil _ _)

theorem int (m : Int64) : SqliteArgument (n + 1) (intLexemes m.toInt) (intTree m.toInt) := by
  refine ⟨.int m, ?_, ?_, Printed.isArgument_signed _ _⟩
  · rw [intLexemes, signedLexemes]
    split <;> exact .cons rfl (by simp) _
  · rw [intLexemes, signedLexemes]
    split <;> simp [Unbracketed]

theorem text (s : String) : SqliteArgument n [.text .single s] (textTree s) :=
  ⟨.text s, .cons rfl (by simp) _, by simp [Unbracketed], .single (by simp)⟩

end SqliteArgument

/-- Functions of texts that SQLite's grammar reads like any others. -/
def textFunctions : List String := ["SUBSTR", "INSTR"]

theorem operand_textFunction {n hi : Nat} {word : String} (hword : word ∈ textFunctions)
    {items : List (List Lexeme)} {ts : List Tree} (hne : items ≠ [])
    (h : List.Forall₂ (SqliteArgument n) items ts) :
    SqliteOperand (n + 1) hi (wordLexeme word :: enclosed (commaLexemes items))
      (wordCall word (ts.map .value)) := by
  cases h with
  | nil => exact absurd rfl hne
  | @cons ls t items ts hfirst hmore =>
    intro rest hrest _
    have hitems : ∀ op, List.Forall₂ (ReadsItem (argument .sqlite ⟨readers .sqlite false (n + 1), op⟩))
        items (ts.map .value) := by
      intro op
      rw [List.forall₂_map_right_iff]
      exact hmore.imp fun ls t harg => harg.readsItem op
    have hbracket : Unbracketed (enclosed (commaLexemes (ls :: items))) :=
      unbracketed_enclosed (hfirst.unbracketed.append
        (unbracketed_commaTail (unbracketed_items (hitems Sql.refuse))))
    obtain ⟨htype, hform⟩ : Text.upper word ∉ typeWords ∧
        ∀ r ls, wordForm .sqlite r ⟨word, none⟩ ls = .ok (none, ls) := by
      simp only [textFunctions, List.mem_cons, List.not_mem_nil, or_false] at hword
      rcases hword with rfl | rfl <;> exact ⟨by decide, fun _ _ => rfl⟩
    have htyped : ∀ r, typedConstant .sqlite r (wordLexeme word ::
        (enclosed (commaLexemes (ls :: items)) ++ rest)) = .error .mismatch := fun r =>
      @typedConstant_form .sqlite ⟨word, none⟩ htype r _ (hbracket.append hrest.unbracketed)
    rw [List.cons_append, operand_of_untyped (htyped _)]
    refine (plainOperand_word _ _ _ _).trans ?_
    rw [wordOperand_of_no_form (hform _ _)]
    refine (bind_of_ok (f := collated) ?_).trans (collated_of_follows hrest _)
    exact functionCall_of_items hfirst.starts hfirst.argument.noClause (hfirst.readsItem _)
      (hitems _) hrest

/-! ### Conditions -/

section Conditions

variable {ls rest : List Lexeme} {t condition : Tree}

/-- An operand with an operator behind it. -/
theorem textExpression_of_operand
    (hoperand : operand .sqlite (readers .sqlite false 49) (ls ++ rest) = .ok (t, rest))
    (hchain : operatorChain .sqlite (readings .sqlite (readers .sqlite false 49)) 0 rest.length t rest
      = .ok (condition, [])) : textExpression .sqlite (ls ++ rest) = .ok (condition, []) :=
  (bind_of_ok (f := fun t => remaining >>= fun n =>
    operatorChain .sqlite (readings .sqlite (readers .sqlite false 49)) 0 n t) hoperand).trans hchain

theorem textExpression_equalText (h : ∀ hi, SqliteOperand 49 hi ls t) (s : String) :
    textExpression .sqlite (ls ++ [.symbol "=", .text .single s])
      = .ok (.binary (.compare .eq) t (textTree s), []) := by
  have hfollows : Follows [.symbol "=", .text .single s] :=
    ⟨headIn_cons (by decide) _, by simp [Unbracketed]⟩
  exact textExpression_of_operand (h _ _ hfollows (Nat.le_refl _)) rfl

theorem textExpression_positive (h : ∀ hi, SqliteOperand 49 hi ls t) :
    textExpression .sqlite (ls ++ [.symbol ">", .number "0" false])
      = .ok (.binary (.compare .gt) t (intTree 0), []) := by
  have hfollows : Follows [.symbol ">", .number "0" false] :=
    ⟨headIn_cons (by decide) _, by simp [Unbracketed]⟩
  exact textExpression_of_operand (h _ _ hfollows (Nat.le_refl _)) rfl

theorem textExpression_like (path s : String) :
    textExpression .sqlite (pathLexemes .sqlite path ++ [wordLexeme "LIKE", .text .single s])
      = .ok (.like false false false (pathTreeIn .sqlite path) (textTree s) none, []) := by
  refine textExpression_of_operand (operand_path path ?_ (by simp [Unbracketed, wordLexeme]) rfl _) rfl
  exact .inr (.inr ⟨"LIKE", _, rfl⟩)

end Conditions

/-! ### Tests of literal texts -/

/-- The tree of a call of a function of texts. -/
def textCall (word : String) (args : List Tree) : Tree := wordCall word (args.map .value)

theorem textCall_spelled {word : String} (hword : word ∈ textFunctions) {args : List (List Token)}
    {items : List (List Lexeme)} {ts : List Tree}
    (hspelled : List.Forall₂ (SpelledIn .sqlite) args items) (hne : items ≠ [])
    (hread : List.Forall₂ (SqliteArgument 48) items ts) :
    ∃ ls, SpelledIn .sqlite (Token.call word args) ls ∧
      ∀ hi, SqliteOperand 49 hi ls (textCall word ts) := by
  have hbare : ∀ word ∈ textFunctions, isBareName (Text.upper word) = true ∧
      Text.upper word = word := by decide
  obtain ⟨hname, hupper⟩ := hbare word hword
  refine ⟨_, .call hname hspelled, fun hi => ?_⟩
  rw [hupper]
  exact operand_textFunction hword hne hread

/-- The condition that a text occurs somewhere. -/
def locatedTree (input : Tree) (s : String) : Tree :=
  .binary (.compare .gt) (textCall "INSTR" [input, textTree s]) (intTree 0)

/-- The condition of a test that tells letter cases apart. -/
def testTree (input : Tree) (p : TextPattern) : Tree :=
  let length : Int64 := Int64.ofNat p.text.length
  match p with
  | .startsWith s =>
    if s.isEmpty then locatedTree input s
    else
      .binary (.compare .eq) (textCall "SUBSTR" [input, intTree 1, intTree length.toInt]) (textTree s)
  | .endsWith s =>
    if s.isEmpty then locatedTree input s
    else .binary (.compare .eq) (textCall "SUBSTR" [input, intTree (-length).toInt]) (textTree s)
  | .contains s => locatedTree input s

section Tests

variable {ts : List Token} {ls : List Lexeme} {t : Tree}

/-- A test that compares a call with a text. -/
theorem readsText_equalText (hspelled : SpelledIn .sqlite ts ls)
    (h : ∀ hi, SqliteOperand 49 hi ls t) (s : String) :
    ReadsText .sqlite (Dialect.sqlite.text (Token.infixed ts (.symbol "=") [.string s]))
      (.binary (.compare .eq) t (textTree s)) :=
  readsText_of_spelled
    (hspelled.infixed (.operator (by decide)) (.string fun hd => by cases hd))
    (textExpression_equalText h s)

/-- A test that compares a call with zero. -/
theorem readsText_positive (hspelled : SpelledIn .sqlite ts ls)
    (h : ∀ hi, SqliteOperand 49 hi ls t) :
    ReadsText .sqlite (Dialect.sqlite.text (Token.infixed ts (.symbol ">") [.int 0]))
      (.binary (.compare .gt) t (intTree 0)) := by
  have hzero : SpelledIn .sqlite [.int 0] [.number "0" false] := .int .sqlite 0
  exact readsText_of_spelled (hspelled.infixed (.operator (by decide)) hzero)
    (textExpression_positive h)

theorem readsText_located (path s : String) :
    ReadsText .sqlite (Dialect.sqlite.text (textFunctionTokens.located (pathTokens path) s))
      (locatedTree (pathTreeIn .sqlite path) s) := by
  have hstring : SpelledIn .sqlite [.string s] [.text .single s] := .string fun hd => by cases hd
  obtain ⟨ls, hspelled, hread⟩ := @textCall_spelled "INSTR" (by decide) _ _ _
    (.cons (.pathTokens .sqlite path) (.cons hstring .nil)) (List.cons_ne_nil _ _)
    (.cons (.path path) (.cons (.text s) .nil))
  exact readsText_positive hspelled hread

/-- What is written for a test of a literal text is read as its condition. -/
theorem readsText_textFunctionTokens (path : String) (p : TextPattern) :
    ReadsText .sqlite (Dialect.sqlite.text (textFunctionTokens (pathTokens path) p))
      (testTree (pathTreeIn .sqlite path) p) := by
  cases p with
  | startsWith s =>
    rw [textFunctionTokens, testTree, TextPattern.text]
    by_cases hempty : s.isEmpty = true
    · rw [if_pos hempty, if_pos hempty]
      exact readsText_located path s
    · rw [if_neg hempty, if_neg hempty]
      obtain ⟨ls, hspelled, hread⟩ := @textCall_spelled "SUBSTR" (by decide) _ _ _
        (.cons (.pathTokens .sqlite path) (.cons (.int .sqlite 1) (.cons (.int .sqlite _) .nil)))
        (List.cons_ne_nil _ _) (.cons (.path path) (.cons (.int 1) (.cons (.int _) .nil)))
      exact readsText_equalText hspelled hread s
  | endsWith s =>
    rw [textFunctionTokens, testTree, TextPattern.text]
    by_cases hempty : s.isEmpty = true
    · rw [if_pos hempty, if_pos hempty]
      exact readsText_located path s
    · rw [if_neg hempty, if_neg hempty]
      obtain ⟨ls, hspelled, hread⟩ := @textCall_spelled "SUBSTR" (by decide) _ _ _
        (.cons (.pathTokens .sqlite path) (.cons (.int .sqlite _) .nil)) (List.cons_ne_nil _ _)
        (.cons (.path path) (.cons (.int _) .nil))
      exact readsText_equalText hspelled hread s
  | contains s => exact readsText_located path s

/-- What is written for a test that tells no letter cases apart is read as a pattern. -/
theorem readsText_like (path s : String) :
    ReadsText .sqlite
      (Dialect.sqlite.text (Token.infixed (pathTokens path) (.keyword .like) [.string s]))
      (.like false false false (pathTreeIn .sqlite path) (textTree s) none) := by
  have hbare : isBareName "LIKE" = true := by decide
  have hlike : SpelledIn .sqlite [.keyword .like] [wordLexeme "LIKE"] :=
    @SpelledIn.word .sqlite (.keyword .like) "LIKE" rfl hbare
  have hstring : SpelledIn .sqlite [.string s] [.text .single s] := .string fun hd => by cases hd
  exact readsText_of_spelled ((SpelledIn.pathTokens .sqlite path).infixed hlike hstring)
    (textExpression_like path s)

end Tests

/-! ### What the conditions mean -/

namespace Sqlite

variable {row : List String → Option Value} {x : List Char}

theorem value_qualifiedTree (names : List Ident) :
    value row (qualifiedTree names) = row (names.map Ident.value) := by
  rcases names with _ | ⟨name, _ | ⟨next, names⟩⟩ <;> rfl

/-- A qualified name has the value of the column of that name. -/
theorem value_pathTreeIn (d : DialectName) (path : String) :
    value row (pathTreeIn d path) = row (Text.segments path) := by
  rw [pathTreeIn, value_qualifiedTree, value_identIn]

theorem value_textTree (s : String) : value row (textTree s) = some (.text s.toList) := rfl

theorem value_intTree {n : Int64} (h : n ≠ Int64.minValue) :
    value row (intTree n.toInt) = some (.integer n.toInt) := by
  have hvalue : value row (intTree n.toInt) = (intTree n.toInt).literal?.bind ofLiteral := by
    rw [intTree, signedTree]
    split <;> rfl
  rw [hvalue, literal?_intTree h]
  rfl

/-- A call has a value where its arguments have values that its function is made for. -/
theorem value_textCall {word : String} {args : List Tree} {values : List Value}
    (h : List.Forall₂ (fun t v => value row t = some v) args values) :
    value row (textCall word args) = called word values := by
  have hvalues : Sqlite.values row (args.map .value) = some values := by
    induction h with
    | nil => rfl
    | cons hfirst _ ih =>
      rw [List.map_cons, Sqlite.values, hfirst, ih]
      rfl
  rw [textCall, wordCall, CallHead.of, value, hvalues]
  rfl

/-- A comparison of two values that are there. -/
theorem holds_compare {op : ComparisonOp} {left right : Tree} {a b : Value}
    (hleft : value row left = some a) (hright : value row right = some b) :
    Holds row (.binary (.compare op) left right) ↔ compared op a b = true := by
  rw [Holds, hleft, hright]
  simp

/-- The length of a text and its opposite are no least integer. -/
theorem toInt_length {n : Nat} (h : n < Nat.pow 2 63) :
    (Int64.ofNat n).toInt = n ∧ (-Int64.ofNat n).toInt = -n := by
  have hlength := Int64.toInt_ofNat_of_lt h
  refine ⟨hlength, ?_⟩
  have hbound : n < 9223372036854775808 := h
  rw [Int64.toInt_neg, hlength, Int.bmod_eq_of_le (by omega) (by omega)]

theorem ne_minValue_of_toInt {n : Int64} {m : Int} (h : n.toInt = m)
    (hm : -9223372036854775808 < m) : n ≠ Int64.minValue := by
  rintro rfl
  have hmin : Int64.minValue.toInt = -9223372036854775808 := by decide
  omega

section Tests

variable {input : Tree} (hinput : value row input = some (.text x))

include hinput

theorem holds_locatedTree (s : String) : Holds row (locatedTree input s) ↔ s.toList <:+: x := by
  have hcall : value row (textCall "INSTR" [input, textTree s])
      = some (.integer (instr x s.toList)) :=
    value_textCall (.cons hinput (.cons (value_textTree s) .nil))
  have hzero : value row (intTree 0) = some (.integer 0) := rfl
  rw [locatedTree, holds_compare hcall hzero, ← instr_pos_iff]
  simp [compared, Value.precedes]

/-- A part of the input is compared with a text. -/
theorem holds_substr {numbers : List Tree} {values : List Value} {part : List Char}
    (h : List.Forall₂ (fun t v => value row t = some v) numbers values)
    (hpart : called "SUBSTR" (.text x :: values) = some (.text part)) (s : String) :
    Holds row (.binary (.compare .eq) (textCall "SUBSTR" (input :: numbers)) (textTree s)) ↔
      part = s.toList := by
  have hcall : value row (textCall "SUBSTR" (input :: numbers)) = some (.text part) :=
    (value_textCall (.cons hinput h)).trans hpart
  rw [holds_compare hcall (value_textTree s)]
  simp [compared]

/-- A condition is true of the texts in which the text of its pattern occurs. -/
theorem holds_testTree {p : TextPattern} (hlength : p.text.length < Nat.pow 2 63) :
    Holds row (testTree input p) ↔ p.Occurs p.text.toList x := by
  cases p with
  | contains s => exact holds_locatedTree hinput s
  | startsWith s =>
    rw [testTree, TextPattern.text, TextPattern.Occurs]
    by_cases hempty : s.isEmpty = true
    · rw [if_pos hempty, holds_locatedTree hinput, String.isEmpty_iff.1 hempty]
      simp
    · obtain ⟨hint, -⟩ : (Int64.ofNat s.length).toInt = s.length ∧ _ := toInt_length hlength
      have hone : value row (intTree 1) = some (.integer 1) := rfl
      have hcount := @value_intTree row _ (ne_minValue_of_toInt hint (by omega))
      rw [hint, ← String.length_toList] at hcount
      rw [if_neg hempty, hint, ← String.length_toList,
        holds_substr hinput (.cons hone (.cons hcount .nil)) rfl, substr_fromStart_eq_iff]
  | endsWith s =>
    rw [testTree, TextPattern.text, TextPattern.Occurs]
    by_cases hempty : s.isEmpty = true
    · rw [if_pos hempty, holds_locatedTree hinput, String.isEmpty_iff.1 hempty]
      simp
    · obtain ⟨-, hint⟩ : _ ∧ (-Int64.ofNat s.length).toInt = -(s.length : Int) :=
        toInt_length hlength
      have hbound : s.length < 9223372036854775808 := hlength
      have hstart := @value_intTree row _ (ne_minValue_of_toInt hint (by omega))
      have hne : s.toList ≠ [] := by
        rw [Ne, String.toList_eq_nil_iff, ← String.isEmpty_iff]
        exact hempty
      rw [hint, ← String.length_toList] at hstart
      rw [if_neg hempty, hint, ← String.length_toList,
        holds_substr hinput (.cons hstart .nil) rfl, substr_fromEnd_eq_iff hne]

/-- A pattern without an escape character is matched without letter case. -/
theorem holds_like (pattern : String) :
    Holds row (.like false false false input (textTree pattern) none) ↔
      LikeMatches none (folded pattern.toList) (folded x) := by
  rw [Holds, hinput, value_textTree]
  simp

end Tests

end Sqlite

/-! ### Tests on columns -/

theorem exprText_regexMatch (path regex : String) (options : Option String) :
    Dialect.sqlite.exprText (.regexMatch (.field path) regex options)
      = .ok (Dialect.sqlite.text (regexTokens .textFunctions (pathTokens path) regex options)) := by
  rw [Dialect.exprText, Dialect.render]
  rfl

/-- The forms of a pattern that is recognised: text functions without options, and `LIKE` where
letter case plays no part. -/
theorem regexTokens_recognised {p : TextPattern} (h : p.Recognised) (input : List Token) :
    regexTokens .textFunctions input p.regex none = textFunctionTokens input p ∧
      (hasWildcard p.text = false → regexTokens .textFunctions input p.regex (some "i")
        = Token.infixed input (.keyword .like) [.string (likeText p)]) := by
  have hregex := TextPattern.ofRegex?_regex h
  constructor
  · simp only [regexTokens, hregex]
    rfl
  · intro hplain
    simp only [regexTokens, hregex, hplain]
    rfl

/-- A test of a literal text on a column is written as a condition that is true of exactly the texts
that the test asks for, and where letter case plays no part, without it.  A suffix that ends in a
backslash is not recognised, and no text has more characters than a signed count of 64 bits. -/
theorem text_tests_exact (path : String) {p : TextPattern}
    (hslash : ∀ s, p = .endsWith s → s.toList.getLast? ≠ some '\\')
    (hlength : p.text.length < Nat.pow 2 63) :
    (∃ text t, Dialect.sqlite.exprText ((Expr.field path).textMatch p) = .ok text ∧
      ReadsText .sqlite text t ∧
      ∀ row x, row (Text.segments path) = some (.text x) →
        (Sqlite.Holds row t ↔ p.Occurs p.text.toList x)) ∧
    (hasWildcard p.text = false →
      ∃ text t,
        Dialect.sqlite.exprText (.regexMatch (.field path) p.regex (some "i")) = .ok text ∧
        ReadsText .sqlite text t ∧
        ∀ row x, row (Text.segments path) = some (.text x) →
          (Sqlite.Holds row t ↔ p.Occurs (Sqlite.folded p.text.toList) (Sqlite.folded x))) := by
  have hrecognised : p.Recognised := by
    cases p with
    | startsWith s => trivial
    | contains s => trivial
    | endsWith s => exact (TextPattern.recognised_endsWith_iff s).2 (hslash s rfl)
  obtain ⟨hcased, hcaseless⟩ := regexTokens_recognised hrecognised (pathTokens path)
  constructor
  · refine ⟨_, _, ?_, readsText_textFunctionTokens path p, fun row x hrow => ?_⟩
    · rw [Expr.textMatch, exprText_regexMatch, hcased]
    · have hinput := (Sqlite.value_pathTreeIn .sqlite path).trans hrow
      exact Sqlite.holds_testTree hinput hlength
  · intro hplain
    refine ⟨_, _, ?_, readsText_like path (likeText p), fun row x hrow => ?_⟩
    · rw [exprText_regexMatch, hcaseless hplain]
    · have hinput := (Sqlite.value_pathTreeIn .sqlite path).trans hrow
      rw [Sqlite.holds_like hinput]
      exact Sqlite.likeMatches_likeText hplain x

/-- Both forms of a test on the end of a name, on names that are longer. -/
theorem text_tests_exact_suffix :
    (∃ text t, Dialect.sqlite.exprText ((Expr.field "name").endsWith "fé") = .ok text ∧
      ReadsText .sqlite text t ∧ Sqlite.Holds (fun _ => some (.text "café".toList)) t) ∧
    ∃ text t, Dialect.sqlite.exprText (.regexMatch (.field "name") "fé$" (some "i")) = .ok text ∧
      ReadsText .sqlite text t ∧ Sqlite.Holds (fun _ => some (.text "CAFé".toList)) t := by
  have hslash : ∀ s, TextPattern.endsWith "fé" = .endsWith s → s.toList.getLast? ≠ some '\\' := by
    intro s hs
    cases hs
    decide
  obtain ⟨⟨text, t, hrender, hread, hholds⟩, hcaseless⟩ :=
    text_tests_exact "name" hslash (by decide)
  obtain ⟨text', t', hrender', hread', hholds'⟩ := hcaseless (by decide)
  refine ⟨⟨text, t, hrender, hread, ?_⟩, text', t', hrender', hread', ?_⟩
  · exact (hholds _ "café".toList rfl).2 (by decide)
  · exact (hholds' _ "CAFé".toList rfl).2 (by decide)

end Polyquery.Sql
