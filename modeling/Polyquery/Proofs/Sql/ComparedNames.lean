import Polyquery.Proofs.Sql.TextReading

/-!
# Names on the sides of comparisons

Every dialect writes a name so that its own lexical rules find the name again.  The generic dialect
leaves plain words bare, and the grammar takes some of them for constants, calls or the start of a form
that must follow.

* `Side`, `Side.text` - a name or an integer on one side of a comparison;
* `wordTree` - the tree that a lone word is read as, if there is one;
* `operand_side`, `textExpression_comparison` - what the grammar makes of a side and of a comparison;
* `resolveCall_ne_field`, `keyTree_ne_field` - the other words never mean a field;
* `compared_sides_read_back_iff` - which comparisons are read back;
* `null_name_becomes_constant` - a name that is read as a constant.
-/

namespace Polyquery.Sql

/-! ### Sides -/

/-- A side of a comparison: a name or an integer. -/
inductive Side where
  | name (column : String)
  | integer (n : Int64)

namespace Side

/-- The operand that a side stands for. -/
def expr : Side → Expr
  | .name column => .field column
  | .integer n => .int n

/-- The text of a side: a name as the dialect quotes it, an integer by its digits. -/
def text (d : DialectName) : Side → String
  | .name column => d.dialect.quoteIdentifier column
  | .integer n => Integer.text64 n

/-- The token of a side. -/
def token : Side → Token
  | .name column => .ident column
  | .integer n => .int n

/-- The lexemes of a side. -/
def lexemes (d : DialectName) : Side → List Lexeme
  | .name column => [.word (identIn d column)]
  | .integer n => intLexemes n.toInt

theorem tokenText_token (d : DialectName) (s : Side) : d.dialect.tokenText s.token = s.text d := by
  cases s <;> rfl

theorem spelled (d : DialectName) (s : Side) : SpelledIn d [s.token] (s.lexemes d) := by
  cases s with
  | name column => exact .ident d column
  | integer n => exact .int d n

end Side

/-- The text of a comparison of two sides. -/
def comparedText (d : DialectName) (op : ComparisonOp) (left right : Side) : String :=
  left.text d ++ " " ++ comparisonText op ++ " " ++ right.text d

/-- The tokens of a comparison of two sides. -/
def comparedTokens (op : ComparisonOp) (left right : Side) : List Token :=
  Token.infixed [left.token] (.symbol (comparisonText op)) [right.token]

theorem text_comparedTokens (d : DialectName) (op : ComparisonOp) (left right : Side) :
    d.dialect.text (comparedTokens op left right) = comparedText d op left right := by
  have htokens : d.dialect.text (comparedTokens op left right)
      = String.join [left.text d, " ", comparisonText op, " ", right.text d] := by
    rw [Dialect.text, ← left.tokenText_token, ← right.tokenText_token]
    rfl
  rw [htokens, comparedText]
  simp only [String.join_cons, String.join_nil, String.append_empty, String.append_assoc]

theorem spelled_comparedTokens (d : DialectName) (op : ComparisonOp) (left right : Side) :
    SpelledIn d (comparedTokens op left right)
      (left.lexemes d ++ .symbol (comparisonText op) :: right.lexemes d) := by
  have hop : SpelledIn d [.symbol (comparisonText op)] [.symbol (comparisonText op)] := by
    refine .operator ?_
    cases op <;> decide
  exact .infixed (left.spelled d) hop (right.spelled d)

/-! ### Behind a side -/

/-- What stands behind a side: nothing, or an operator with the other side. -/
inductive Behind (d : DialectName) : List Lexeme → Prop where
  | nothing : Behind d []
  | operator (op : ComparisonOp) (s : Side) :
      Behind d (.symbol (comparisonText op) :: s.lexemes d)

theorem symbol_not_mem_side {d : DialectName} {text : String} (h : text ≠ "-") (s : Side) :
    Lexeme.symbol text ∉ s.lexemes d := by
  cases s with
  | name column => simp [Side.lexemes]
  | integer n =>
    rw [Side.lexemes, intLexemes, signedLexemes]
    split <;> simp [h]

theorem symbolAhead_side {d : DialectName} {text : String} (h : text ≠ "-") {s : Side}
    {ls : List Lexeme} (hls : ls <:+ s.lexemes d) : symbolAhead text ls = false := by
  rw [symbolAhead, decide_eq_false_iff_not]
  intro hhead
  exact symbol_not_mem_side h s (hls.mem (List.mem_of_mem_head? hhead))

/-- No operand starts behind a side. -/
theorem operandWithin_behind {d : DialectName} {rest : List Lexeme} (h : Behind d rest)
    (r : Deeper) (n : Nat) : operandWithin d r n rest = .error .mismatch := by
  cases n with
  | zero => rfl
  | succ n =>
    cases h with
    | nothing => rfl
    | operator op s => cases op <;> cases d <;> rfl

theorem subexpression_behind {d : DialectName} {rest : List Lexeme} (h : Behind d rest) (n : Nat)
    (strength : Nat) :
    subexpression d (readings d (readers d false n)) strength rest = .error .mismatch :=
  bind_of_error (operandWithin_behind h _ _)

namespace Behind

variable {rest : List Lexeme}

theorem follows (h : Behind .generic rest) : Follows rest := by
  cases h with
  | nothing => exact .nil
  | operator op s =>
    refine ⟨headIn_cons (IsOperator.comparison op).follows _, ?_⟩
    have hside := @symbol_not_mem_side .generic "[" (by decide) s
    exact Unbracketed.append (IsOperator.comparison op).unbracketed hside

theorem nameFollows (h : Behind .generic rest) : NameFollows rest := h.follows.nameFollows

theorem keyword? {d : DialectName} (h : Behind d rest) (word : String) :
    Sql.keyword? word rest = .ok (false, rest) := by
  cases h with
  | nothing => rfl
  | operator op s => cases op <;> rfl

end Behind

/-! #### Types of other types -/

theorem composedAlone_nothing (inner : Parse TypeText) (word : String) :
    ComposedAlone inner word [] := by
  by_cases harray : word = "ARRAY"
  · subst harray
    exact .inl rfl
  by_cases hstruct : word = "STRUCT"
  · subst hstruct
    exact .inr (.inr ⟨"STRUCT", rfl⟩)
  exact (Follows.nil.nameFollows.compositeType inner harray hstruct).imp_right .inl

/-- A side alone is no type, or one behind which nothing is closed. -/
theorem typeWithin_side (n : Nat) (s : Side) :
    typeWithin .generic n (s.lexemes .generic) = .error .mismatch ∨
      ∃ type ls, typeWithin .generic n (s.lexemes .generic) = .ok (type, ls) ∧
        type.closesOuter = false ∧ ls <:+ s.lexemes .generic := by
  cases n with
  | zero => exact .inl rfl
  | succ n =>
    cases s with
    | integer m =>
      left
      rw [Side.lexemes, intLexemes, signedLexemes]
      split <;> rfl
    | name column =>
      by_cases hinterval : ((Lexeme.word (identIn .generic column)).keyword?).getD "" = "INTERVAL"
      · refine .inr ⟨⟨"INTERVAL", .interval, false⟩, [], ?_, rfl, List.nil_suffix⟩
        show typeWith .generic (typeWithin .generic n) [.word (identIn .generic column)] = _
        rw [typeWith, bind_get]
        simp only [hinterval, if_true]
        rfl
      · have hcomposite := composedAlone_nothing (typeWithin .generic n)
          (((Lexeme.word (identIn .generic column)).keyword?).getD "")
        rcases typeWith_word Follows.nil.nameFollows hinterval hcomposite with
          h | ⟨text, h⟩ | ⟨text, ls, h, hls⟩
        · exact .inl h
        · exact .inr ⟨_, [], h, rfl, List.nil_suffix⟩
        · exact .inr ⟨_, ls, h, rfl, hls⟩

theorem closingAngle_side {s : Side} {ls : List Lexeme} (h : ls <:+ s.lexemes .generic) :
    closingAngle false ls = .error .mismatch := by
  rw [closingAngle, if_neg (by decide),
    bind_of_ok (symbol?_of_not_ahead (symbolAhead_side (by decide) h))]
  exact bind_of_error (expectSymbol_of_not_ahead (symbolAhead_side (by decide) h))

/-- The fields of a record type do not end. -/
theorem structRest_side (n m : Nat) (s : Side) :
    structRest (typeWithin .generic n) m (s.lexemes .generic) = .error .mismatch := by
  cases m with
  | zero => rfl
  | succ m =>
    have hfield : structField (typeWithin .generic n) (s.lexemes .generic)
        = typeWithin .generic n (s.lexemes .generic) := by
      cases s with
      | name column => rfl
      | integer k =>
        rw [Side.lexemes, intLexemes, signedLexemes]
        split <;> rfl
    rcases typeWithin_side n s with h | ⟨type, ls, h, hcloses, hls⟩
    · rw [structRest, bind_of_error (hfield.trans h)]
    · rw [structRest, bind_of_ok (hfield.trans h),
        bind_of_ok (symbol?_of_not_ahead (symbolAhead_side (by decide) hls)), hcloses]
      exact bind_of_error (closingAngle_side hls)

/-- The types of a record do not fit behind a side, or there are none. -/
theorem structFields_behind {rest : List Lexeme} (h : Behind .generic rest) (n : Nat) :
    structFields (typeWithin .generic n) rest = .error .mismatch ∨
      structFields (typeWithin .generic n) rest = .ok (([], false), rest) := by
  cases h with
  | nothing => exact .inr rfl
  | operator op s =>
    cases op with
    | lt =>
      left
      show structFields (typeWithin .generic n) (.symbol "<" :: s.lexemes .generic) = _
      rw [structFields, bind_of_ok (symbol?_self "<" _)]
      exact structRest_side n _ s
    | _ => exact .inr rfl

theorem composedAlone_behind {rest : List Lexeme} (h : Behind .generic rest) (n : Nat)
    (word : String) : ComposedAlone (typeWithin .generic n) word rest := by
  by_cases harray : word = "ARRAY"
  · subst harray
    left
    cases h with
    | nothing => rfl
    | operator op s =>
      cases op with
      | lt =>
        show compositeType .generic (typeWithin .generic n) "ARRAY"
          (.symbol "<" :: s.lexemes .generic) = _
        refine (bind_of_ok (expectSymbol_self "<" _)).trans ?_
        rcases typeWithin_side n s with h | ⟨type, ls, h, hcloses, hls⟩
        · exact bind_of_error h
        · refine (bind_of_ok h).trans ?_
          simp only [hcloses]
          exact bind_of_error (closingAngle_side hls)
      | _ => rfl
  by_cases hstruct : word = "STRUCT"
  · subst hstruct
    rcases structFields_behind h n with hfields | hfields
    · exact .inl (bind_of_error hfields)
    · exact .inr (.inr ⟨"STRUCT", bind_of_ok hfields⟩)
  exact (h.nameFollows.compositeType _ harray hstruct).imp_right .inl

/-! ### Words -/

/-- Words that are constants. -/
def constantWords : List String := ["TRUE", "FALSE", "NULL"]

/-- Words that call a function without parentheses. -/
def bareCallWords : List String :=
  ["CURRENT_CATALOG", "CURRENT_USER", "SESSION_USER", "USER", "CURRENT_TIMESTAMP", "CURRENT_TIME",
    "CURRENT_DATE", "LOCALTIME", "LOCALTIMESTAMP"]

/-- Words that name nothing beside an operator. -/
def namelessWords : List String := constantWords ++ bareCallWords ++ reservedWords

/-- Words that announce several values behind an operator. -/
def quantifierWords : List String := ["ANY", "ALL", "SOME"]

/-- The tree that a word without quotes is read as beside an operator, by the word in upper case. -/
def keyTree (name : Ident) (key : String) : Option Tree :=
  if key = "TRUE" then some (.constant (.bool true))
  else if key = "FALSE" then some (.constant (.bool false))
  else if key = "NULL" then some (.constant .null)
  else if key ∈ bareCallWords then some (.call (.of [name] .bare) [])
  else if key ∈ reservedWords then none
  else some (.name name)

/-- The tree that a word is read as beside an operator, if there is one. -/
def wordTree (name : Ident) : Option Tree := keyTree name (((Lexeme.word name).keyword?).getD "")

/-- A reading that takes one tree and leaves the rest, or does not fit. -/
def readAs (t : Option Tree) (rest : List Lexeme) : Except Refusal (Tree × List Lexeme) :=
  t.elim (.error .mismatch) fun t => .ok (t, rest)

theorem keyTree_of_not_nameless (name : Ident) {key : String} (h : key ∉ namelessWords) :
    keyTree name key = some (.name name) := by
  simp only [namelessWords, List.mem_append, not_or] at h
  obtain ⟨⟨hconstant, hcall⟩, hreserved⟩ := h
  simp only [constantWords, List.mem_cons, List.not_mem_nil, or_false, not_or] at hconstant
  rw [keyTree, if_neg hconstant.1, if_neg hconstant.2.1, if_neg hconstant.2.2, if_neg hcall,
    if_neg hreserved]

section Words

variable {n : Nat} {name : Ident} {rest : List Lexeme}

theorem intervalBody_behind (h : Behind .generic rest) (n : Nat) :
    intervalBody .generic (levelFor n rest) rest = .error .mismatch :=
  bind_of_error (operandWithin_behind h _ _)

theorem typedConstant_behind (h : Behind .generic rest) :
    typedConstant .generic (levelFor n rest) (.word name :: rest) = .error .mismatch := by
  by_cases hinterval : ((Lexeme.word name).keyword?).getD "" = "INTERVAL"
  · have htype : typeName .generic (.word name :: rest) = .ok (("INTERVAL", .interval), rest) := by
      rw [typeName_cons]
      have hwith : ∀ inner, typeWith .generic inner (.word name :: rest)
          = .ok (⟨"INTERVAL", .interval, false⟩, rest) := by
        intro inner
        rw [typeWith, bind_get]
        simp only [hinterval, if_true]
        rw [bind_set, bind_pure, bind_remaining,
          bind_of_ok (repeated_arraySuffix h.follows.unbracketed.symbolAhead _)]
        rfl
      rw [bind_of_ok (hwith _)]
      rfl
    rw [typedConstant, bind_of_ok htype]
    exact intervalBody_behind h n
  · exact typedConstant_word h.nameFollows hinterval (composedAlone_behind h _ _) _

/-- A form that does not fit and must. -/
theorem wordOperand_of_reserved {r : Readings}
    (hform : wordForm .generic r name rest = .error .mismatch)
    (hreserved : (Lexeme.word name).isOneOf reservedWords = true) :
    wordOperand .generic r name rest = .error .mismatch := by
  unfold wordOperand
  rw [hform]
  simp only [hreserved, if_true]

/-- A call whose parentheses may be left out, and are. -/
theorem timeFunction_behind (h : Behind .generic rest) (r : Readings) :
    timeFunction .generic r name rest = .ok (.call (.of [name] .bare) [], rest) := by
  rw [timeFunction, bind_of_ok (symbol?_of_not_ahead h.nameFollows.leftParen)]
  rfl

/-- The forms of words that are constants or calls. -/
theorem wordForm_constant (r : Readings) {key : String} (h : Behind .generic rest)
    (hkey : ((Lexeme.word name).keyword?).getD "" = key) (hword : key ∈ constantWords ++ bareCallWords) :
    ∃ t, wordForm .generic r name rest = .ok (some t, rest) ∧ wordTree name = some t := by
  have hcall : timeFunction .generic r name rest = .ok (.call (.of [name] .bare) [], rest) :=
    timeFunction_behind h r
  rw [wordTree, hkey]
  unfold wordForm
  simp only [constantWords, bareCallWords, List.cons_append, List.nil_append, List.mem_cons,
    List.not_mem_nil, or_false] at hword
  rcases hword with rfl | rfl | rfl | rfl | rfl | rfl | rfl | rfl | rfl | rfl | rfl | rfl <;>
    rw [hkey] <;>
    first
    | exact ⟨_, rfl, rfl⟩
    | exact ⟨_, bind_of_ok hcall, rfl⟩

/-- The forms of reserved words do not fit. -/
theorem wordForm_reserved {key : String} (h : Behind .generic rest)
    (hkey : ((Lexeme.word name).keyword?).getD "" = key) (hword : key ∈ reservedWords) :
    wordForm .generic (levelFor n rest) name rest = .error .mismatch := by
  have parens : ∀ {α β : Type} (p : Parse α) (f : α → Parse β),
      (inParens p >>= f) rest = .error .mismatch :=
    fun p f => bind_of_error (inParens_of_not_ahead p h.nameFollows.leftParen)
  have hrecord : recordBody .generic (levelFor n rest) rest = .error .mismatch := by
    rw [recordBody, bind_remaining]
    rcases structFields_behind h rest.length with hfields | hfields
    · exact bind_of_error hfields
    · rw [bind_of_ok hfields]
      exact parens _ _
  unfold wordForm
  simp only [reservedWords, List.mem_cons, List.not_mem_nil, or_false] at hword
  rcases hword with rfl | rfl | rfl | rfl <;> rw [hkey]
  · exact parens (do return Tree.other (negation false ++ "EXISTS (" ++
      (← (levelFor n rest).query).text ++ ")")) _
  · exact bind_of_error (intervalBody_behind h n)
  · exact bind_of_error hrecord
  · exact bind_of_error (inParens_of_not_ahead _ h.nameFollows.leftParen)

/-- Some words start a form where a name would do. -/
theorem wordForm_loose {key : String} (h : Behind .generic rest)
    (hkey : ((Lexeme.word name).keyword?).getD "" = key) (hword : key ∈ ["CASE", "ARRAY", "NOT"]) :
    wordForm .generic (levelFor (n + 1) rest) name rest = .error .mismatch ∨
      wordForm .generic (levelFor (n + 1) rest) name rest = .ok (none, rest) := by
  have hdeeper : ∀ strength, (levelFor (n + 1) rest).subexpression strength rest
      = .error .mismatch := fun strength => subexpression_behind h n strength
  unfold wordForm
  simp only [List.mem_cons, List.not_mem_nil, or_false] at hword
  rcases hword with rfl | rfl | rfl <;> rw [hkey]
  · left
    refine bind_of_error ?_
    rw [caseBody, bind_if_false (h.keyword? "WHEN")]
    exact bind_of_error (hdeeper 0)
  · right
    refine (bind_if_false (symbol?_of_not_ahead h.follows.unbracketed.symbolAhead)).trans ?_
    exact bind_if_false (symbol?_of_not_ahead h.nameFollows.leftParen)
  · left
    refine bind_of_error ?_
    rw [negationBody, bind_if_false (h.keyword? "EXISTS")]
    exact bind_of_error (hdeeper _)

/-- What a word is read as in front of an operator or of nothing. -/
theorem operand_word (h : Behind .generic rest) :
    operand .generic (readers .generic false (n + 1)) (.word name :: rest)
      = readAs (wordTree name) rest := by
  have hname : nameForm .generic (levelFor (n + 1) rest) name rest = .ok (.name name, rest) :=
    nameForm_of_endsName h.follows.endsName
  rw [operand_of_levelFor (typedConstant_behind h), plainOperand_word]
  generalize hkey : ((Lexeme.word name).keyword?).getD "" = key
  by_cases hconstant : key ∈ constantWords ++ bareCallWords
  · obtain ⟨t, hform, htree⟩ := wordForm_constant (levelFor (n + 1) rest) h hkey hconstant
    rw [wordOperand_of_form hform h.follows, htree]
    rfl
  by_cases hreserved : key ∈ reservedWords
  · have htree : wordTree name = none := by
      have hall : ∀ word ∈ reservedWords, keyTree name word = none := by
        simp [reservedWords, keyTree, bareCallWords]
      rw [wordTree, hkey, hall key hreserved]
    have hword : (Lexeme.word name).isOneOf reservedWords = true := by
      rw [isOneOf_iff (by decide), hkey]
      exact hreserved
    rw [wordOperand_of_reserved (wordForm_reserved h hkey hreserved) hword, htree]
    rfl
  have hnameless : key ∉ namelessWords := by
    rw [namelessWords, List.mem_append, not_or]
    exact ⟨hconstant, hreserved⟩
  have htree : wordTree name = some (.name name) := by
    rw [wordTree, hkey, keyTree_of_not_nameless name hnameless]
  have hunformed : wordForm .generic (levelFor (n + 1) rest) name rest = .error .mismatch ∨
      wordForm .generic (levelFor (n + 1) rest) name rest = .ok (none, rest) := by
    by_cases hloose : key ∈ ["CASE", "ARRAY", "NOT"]
    · exact wordForm_loose h hkey hloose
    · refine wordForm_name (prior_levelWith _ _) ?_ h.nameFollows
      have hall : ∀ word ∈ formWords, word ∈ namelessWords ++ ["CASE", "ARRAY", "NOT"] := by decide
      rw [hkey]
      intro hmem
      exact (List.mem_append.1 (hall key hmem)).elim hnameless hloose
  rw [htree]
  exact wordOperand_of_nameForm hunformed (by rw [hkey]; exact hreserved) hname h.follows

end Words

/-! ### Comparisons -/

namespace Side

/-- The tree that a side is read as, if there is one. -/
def tree? (d : DialectName) : Side → Option Tree
  | .name column => wordTree (identIn d column)
  | .integer n => some (intTree n.toInt)

/-- Whether a side is taken for a word that announces several values. -/
def quantifies (d : DialectName) : Side → Bool
  | .name column => (Lexeme.word (identIn d column)).isOneOf quantifierWords
  | .integer _ => false

/-- The tree that a side is read as behind an operator, if there is one. -/
def rightTree? (d : DialectName) (s : Side) : Option Tree :=
  if s.quantifies d then none else s.tree? d

end Side

/-- The tree that a comparison of two sides is read as, if there is one. -/
def comparisonTree? (d : DialectName) (op : ComparisonOp) (left right : Side) : Option Tree :=
  (left.tree? d).bind fun l => (right.rightTree? d).map fun r => .binary (.compare op) l r

section Reading

variable {d : DialectName} {rest : List Lexeme}

/-- A name in quotes is a name, whatever stands in the quotes. -/
theorem operand_quoted (h : Behind d rest) (r : Deeper) (value : String) (quote : Char) :
    operand d r (.word ⟨value, some quote⟩ :: rest) = .ok (.name ⟨value, some quote⟩, rest) := by
  cases h with
  | nothing => cases d <;> rfl
  | operator op s => cases d <;> cases op <;> rfl

theorem operand_integer (h : Behind d rest) (n : Nat) (m : Int64) :
    operand d (readers d false (n + 1)) (intLexemes m.toInt ++ rest)
      = .ok (intTree m.toInt, rest) := by
  rw [intLexemes, intTree, signedLexemes, signedTree]
  cases h with
  | nothing => split <;> cases d <;> rfl
  | operator op s => split <;> cases d <;> cases op <;> rfl

theorem operand_side (h : Behind d rest) (n : Nat) (s : Side) :
    operand d (readers d false (n + 1)) (s.lexemes d ++ rest) = readAs (s.tree? d) rest := by
  cases s with
  | integer m => exact operand_integer h n m
  | name column =>
    cases d with
    | generic => exact operand_word h
    | _ => exact operand_quoted h _ _ _

theorem precedence_nil (d : DialectName) (strength : Nat) : precedence d [] ≤ strength :=
  Nat.zero_le strength

theorem subexpression_side (n strength : Nat) (s : Side) :
    subexpression d (readings d (readers d false (n + 1))) strength (s.lexemes d)
      = readAs (s.tree? d) [] := by
  have hoperand := operand_side (.nothing : Behind d []) n s
  rw [List.append_nil] at hoperand
  cases htree : s.tree? d with
  | none =>
    rw [htree] at hoperand
    exact bind_of_error hoperand
  | some t =>
    rw [htree] at hoperand
    refine (bind_of_ok hoperand).trans ?_
    exact operatorChain_stop (precedence_nil d strength) _ _

/-- The right side of a comparison. -/
theorem rightSide_side (op : ComparisonOp) (n strength : Nat) (left : Tree) (s : Side) :
    rightSide (readings d (readers d false (n + 2))) strength left (.inl (.compare op))
        (s.lexemes d)
      = readAs ((s.rightTree? d).map fun r => .binary (.compare op) left r) [] := by
  rw [Side.rightTree?]
  cases hquantifies : s.quantifies d with
  | true =>
    cases s with
    | integer m => cases hquantifies
    | name column =>
      have hword : (Lexeme.word (identIn d column)).isOneOf quantifierWords = true := hquantifies
      have hkey : ∃ word, (Lexeme.word (identIn d column)).keyword? = some word := by
        unfold Lexeme.isOneOf at hword
        cases hkey : (Lexeme.word (identIn d column)).keyword? with
        | none =>
          rw [hkey] at hword
          cases hword
        | some word => exact ⟨word, rfl⟩
      obtain ⟨word, hkey⟩ := hkey
      have hone : oneOf? quantifierWords [.word (identIn d column)] = .ok (some word, []) := by
        rw [oneOf?, bind_get]
        simp only [hword, hkey, if_true]
        rfl
      refine (bind_of_ok hone).trans ?_
      rfl
  | false =>
    have hone : oneOf? quantifierWords (s.lexemes d) = .ok (none, s.lexemes d) := by
      cases s with
      | integer m =>
        rw [Side.lexemes, intLexemes, signedLexemes]
        split <;> rfl
      | name column =>
        have hword : (Lexeme.word (identIn d column)).isOneOf quantifierWords = false := hquantifies
        rw [Side.lexemes, oneOf?, bind_get]
        simp only [hword]
        rfl
    have hright := subexpression_side (d := d) n strength s
    refine (bind_of_ok hone).trans ?_
    cases htree : s.tree? d with
    | none =>
      rw [htree] at hright
      exact bind_of_error hright
    | some t =>
      rw [htree] at hright
      exact bind_of_ok hright

/-- The operator of a comparison with its right side, behind the left one. -/
theorem operatorStep_side (op : ComparisonOp) (n strength : Nat) (left : Tree) (s : Side) :
    operatorStep d (readings d (readers d false (n + 2))) strength left
        (.symbol (comparisonText op) :: s.lexemes d)
      = readAs ((s.rightTree? d).map fun r => .binary (.compare op) left r) [] := by
  have hop : binaryOperator? d (.symbol (comparisonText op) :: s.lexemes d)
      = .ok (some (.inl (.compare op)), s.lexemes d) := by
    cases op <;> cases d <;> rfl
  rw [operatorStep, bind_get, bind_of_ok hop]
  exact rightSide_side op n strength left s

/-- What a comparison of two sides is read as. -/
theorem textExpression_comparison (op : ComparisonOp) (left right : Side) :
    textExpression d (left.lexemes d ++ .symbol (comparisonText op) :: right.lexemes d)
      = readAs (comparisonTree? d op left right) [] := by
  rw [comparisonTree?]
  have hoperand := operand_side (.operator op right : Behind d _) 48 left
  have hstrength : ∃ k, precedence d (.symbol (comparisonText op) :: right.lexemes d) = k + 1 := by
    cases op <;> cases d <;> exact ⟨_, rfl⟩
  obtain ⟨strength, hstrength⟩ := hstrength
  cases htree : left.tree? d with
  | none =>
    rw [htree] at hoperand
    exact bind_of_error hoperand
  | some l =>
    rw [htree] at hoperand
    refine (bind_of_ok (f := fun t => remaining >>= fun n =>
      operatorChain d (readings d (readers d false 49)) 0 n t) hoperand).trans ?_
    have hstep := operatorStep_side (d := d) op 47 (strength + 1) l right
    rw [bind_remaining, List.length_cons, operatorChain, bind_get]
    simp only [hstrength]
    rw [if_neg (by omega)]
    rw [Option.bind_some]
    cases hright : right.rightTree? d with
    | none =>
      rw [hright] at hstep
      exact bind_of_error hstep
    | some t =>
      rw [hright] at hstep
      refine (bind_of_ok hstep).trans ?_
      exact operatorChain_stop (precedence_nil d 0) _ _

end Reading

/-! ### What the trees mean -/

/-- A call without arguments means no field. -/
theorem resolveCall_ne_field (name path : String) :
    resolveCall .empty name [] ≠ .ok (.field path) := by
  have hclaim : ∀ (func : Func) (least most : Nat) (e : MethodEvent),
      (⟨name, [], false, none⟩ : MethodEvent).claimCall func least most = .ok e →
        e.resolved ≠ some (.field path) := by
    intro func least most e h hfield
    unfold MethodEvent.claimCall at h
    obtain ⟨-, -, rfl⟩ := map_eq_ok.1 h
    cases hfield
  intro h
  obtain ⟨e, htable, hfield⟩ := Resolvers.resolveMethod_empty_claimed h
  unfold functions at htable
  split at htable
  · exact hclaim _ _ _ e htable hfield
  · split at htable
    · exact hclaim _ _ _ e htable hfield
    · exact hclaim _ _ _ e htable hfield
    · exact hclaim _ _ _ e htable hfield
    · cases htable
    · cases htable
    · cases htable
    · cases htable
      cases hfield

/-- A name that stays bare and is one of some words. -/
def BareWord (d : DialectName) (words : List String) (name : String) : Prop :=
  d = .generic ∧ isBareName name = true ∧ Text.upper name ∈ words

theorem key_mem_iff {d : DialectName} {words : List String} (hempty : "" ∉ words) (name : String) :
    ((Lexeme.word (identIn d name)).keyword?).getD "" ∈ words ↔ BareWord d words name := by
  cases d with
  | generic =>
    by_cases hbare : isBareName name = true
    · have hkey : ((Lexeme.word (identIn .generic name)).keyword?).getD "" = Text.upper name := by
        rw [identIn, identOf, if_pos hbare]
        rfl
      simp [hkey, BareWord, hbare]
    · have hkey : ((Lexeme.word (identIn .generic name)).keyword?).getD "" = "" := by
        rw [identIn, identOf, if_neg hbare]
        rfl
      simp [hkey, BareWord, hbare, hempty]
  | _ =>
    refine ⟨fun h => absurd h hempty, ?_⟩
    rintro ⟨hgeneric, -, -⟩
    cases hgeneric

/-- A word that is a constant, a call or the start of a form means no field. -/
theorem keyTree_ne_field {name : Ident} {key : String} {t : Tree} (hword : key ∈ namelessWords)
    (htree : keyTree name key = some t) (path : String) : t.toExpr .empty ≠ .ok (.field path) := by
  intro hmeans
  unfold keyTree at htree
  split_ifs at htree with htrue hfalse hnull hcall hreserved
  · cases htree
    cases hmeans
  · cases htree
    cases hmeans
  · cases htree
    cases hmeans
  · cases htree
    exact resolveCall_ne_field _ _ hmeans
  · simp [namelessWords, constantWords, htrue, hfalse, hnull, hcall, hreserved] at hword

namespace Side

/-- A side that is read back: a name is none of some words, an integer is not the least one. -/
def Keeps (d : DialectName) (words : List String) : Side → Prop
  | .name column => ¬ BareWord d words column
  | .integer n => n ≠ Int64.minValue

/-- The tree of a side means the side if the side is one that is read back. -/
theorem tree?_means_iff (d : DialectName) (s : Side) :
    (∃ t, s.tree? d = some t ∧ t.toExpr .empty = .ok s.expr) ↔ s.Keeps d namelessWords := by
  cases s with
  | integer n =>
    constructor
    · rintro ⟨t, htree, hmeans⟩
      cases htree
      rw [toExpr_integer, Except.ok.injEq] at hmeans
      exact (readInteger_eq_iff n).1 hmeans
    · intro h
      exact ⟨_, rfl, toExpr_intTree h⟩
  | name column =>
    rw [Keeps, ← key_mem_iff (by decide) column]
    constructor
    · rintro ⟨t, htree, hmeans⟩ hword
      exact keyTree_ne_field hword htree column hmeans
    · intro hword
      refine ⟨_, keyTree_of_not_nameless _ hword, ?_⟩
      cases d <;> rfl

/-- Behind an operator some more words do not come back. -/
theorem keeps_append_quantifierWords (d : DialectName) (s : Side) :
    s.Keeps d (namelessWords ++ quantifierWords) ↔
      s.Keeps d namelessWords ∧ s.quantifies d = false := by
  cases s with
  | integer n => exact (and_iff_left rfl).symm
  | name column =>
    rw [Keeps, Keeps, quantifies, ← Bool.not_eq_true, isOneOf_iff (by decide),
      ← key_mem_iff (by decide), ← key_mem_iff (by decide), List.mem_append, not_or]

end Side

theorem toExpr_comparison_iff {op : ComparisonOp} {l r : Tree} {x y : Expr} :
    (Tree.binary (.compare op) l r).toExpr .empty = .ok (.compare op x y) ↔
      l.toExpr .empty = .ok x ∧ r.toExpr .empty = .ok y := by
  rw [Tree.toExpr]
  constructor
  · intro h
    obtain ⟨x', hx, h⟩ := bind_eq_ok.1 h
    obtain ⟨y', hy, h⟩ := bind_eq_ok.1 h
    cases h
    exact ⟨hx, hy⟩
  · rintro ⟨hx, hy⟩
    exact bind_eq_ok.2 ⟨x, hx, bind_eq_ok.2 ⟨y, hy, rfl⟩⟩

/-- A comparison of names and integers is read back if each side is.  Names in quotes are, whatever
they consist of. -/
theorem compared_sides_read_back_iff (d : DialectName) (op : ComparisonOp) (left right : Side) :
    parseExpr d .empty (comparedText d op left right) = .ok (.compare op left.expr right.expr) ↔
      left.Keeps d namelessWords ∧ right.Keeps d (namelessWords ++ quantifierWords) := by
  have hspelled := spelled_comparedTokens d op left right
  have hread := textExpression_comparison (d := d) op left right
  rw [right.keeps_append_quantifierWords, ← left.tree?_means_iff, ← right.tree?_means_iff,
    ← text_comparedTokens]
  constructor
  · intro h
    cases htree : comparisonTree? d op left right with
    | none =>
      rw [htree] at hread
      rw [parseExpr_of_error hspelled hread] at h
      cases h
    | some t =>
      rw [htree] at hread
      rw [parseExpr_of_ok hspelled hread] at h
      obtain ⟨l, hl, htree⟩ := Option.bind_eq_some_iff.1 htree
      obtain ⟨r, hr, rfl⟩ := Option.map_eq_some_iff.1 htree
      obtain ⟨hleft, hright⟩ := toExpr_comparison_iff.1 h
      rw [Side.rightTree?, Option.ite_none_left_eq_some] at hr
      exact ⟨⟨l, hl, hleft⟩, ⟨r, hr.2, hright⟩, Bool.not_eq_true _ ▸ hr.1⟩
  · rintro ⟨⟨l, hl, hleft⟩, ⟨r, hr, hright⟩, hquantifies⟩
    rw [comparisonTree?, Side.rightTree?, hl, hr, hquantifies] at hread
    rw [parseExpr_of_ok hspelled hread]
    exact toExpr_comparison_iff.2 ⟨hleft, hright⟩

/-- The generic text of a name that is the word of no value. -/
theorem null_name_becomes_constant :
    comparedText .generic .eq (.name "null") (.integer 1) = "null = 1" ∧
    parseExpr .generic .empty "null = 1" = .ok (.compare .eq Expr.null (.int 1)) ∧
    parseExpr .generic .empty "null = 1" ≠ .ok (.compare .eq (.field "null") (.int 1)) := by
  have htext : comparedText .generic .eq (.name "null") (.integer 1) = "null = 1" := by decide
  have hread : parseExpr .generic .empty "null = 1" = .ok (.compare .eq Expr.null (.int 1)) := by
    rw [← htext, ← text_comparedTokens,
      parseExpr_of_ok (spelled_comparedTokens _ _ _ _) (textExpression_comparison _ _ _)]
    rfl
  refine ⟨htext, hread, ?_⟩
  rw [hread]
  intro h
  cases h

end Polyquery.Sql
