import Mathlib.Data.List.Forall2
import Polyquery.Proofs.Sql.Spelling
import Polyquery.Sql.QueryGrammar

/-!
# What follows an operand in printed text

The grammar looks at the lexeme behind an operand for its arguments, a collation, the fields of a
path and more.  In printed text only a few lexemes stand there, and none of them goes on with the
operand.

* `bind_of_ok`, `bind_of_error`, `repeated_chunks` - readings one after the other;
* `followers`, `Follows`, `NameFollows` - the lexemes behind an operand, and behind a name;
* `Shallow` - readings that never fail for their nesting;
* `takenWords` - words that are read as something else than a name;
* `typeWith_word`, `typedConstant_form`, `typedConstant_name` - no word in front is taken for a type
  that starts a constant.
-/

namespace Polyquery.Sql

/-! ### Readings one after the other -/

section Bind

variable {α β : Type} {p : Parse α} {f : α → Parse β} {ls rest : List Lexeme} {a : α}

theorem bind_of_ok (h : p ls = .ok (a, rest)) : (p >>= f) ls = f a rest := by
  show (p ls >>= fun x => f x.1 x.2) = _
  rw [h]
  rfl

theorem bind_of_error {refusal : Refusal} (h : p ls = .error refusal) :
    (p >>= f) ls = .error refusal := by
  show (p ls >>= fun x => f x.1 x.2) = _
  rw [h]
  rfl

theorem bind_get (f : List Lexeme → Parse β) (ls : List Lexeme) :
    ((get : Parse (List Lexeme)) >>= f) ls = f ls ls := rfl

theorem bind_set (f : PUnit → Parse β) (ls rest : List Lexeme) :
    ((set ls : Parse PUnit) >>= f) rest = f () ls := rfl

theorem bind_pure (a : α) (f : α → Parse β) (ls : List Lexeme) :
    ((pure a : Parse α) >>= f) ls = f a ls := rfl

theorem bind_remaining (f : Nat → Parse β) (ls : List Lexeme) :
    (remaining >>= f) ls = f ls.length ls := rfl

theorem bind_take (f : Lexeme → Parse β) (l : Lexeme) (ls : List Lexeme) :
    (take >>= f) (l :: ls) = f l ls := rfl

/-- A choice that falls on its first branch. -/
theorem bind_if_true {p : Parse Bool} {yes no : Parse β} (h : p ls = .ok (true, rest)) :
    (p >>= fun b => if b then yes else no) ls = yes rest := bind_of_ok h

/-- A choice that falls on its second branch. -/
theorem bind_if_false {p : Parse Bool} {yes no : Parse β} (h : p ls = .ok (false, rest)) :
    (p >>= fun b => if b then yes else no) ls = no rest := bind_of_ok h

end Bind

theorem symbol?_self (text : String) (ls : List Lexeme) :
    symbol? text (.symbol text :: ls) = .ok (true, ls) := by
  rw [symbol?, bind_get, if_pos (by simp [symbolAhead])]
  rfl

theorem symbol?_of_not_ahead {text : String} {ls : List Lexeme} (h : symbolAhead text ls = false) :
    symbol? text ls = .ok (false, ls) := by
  rw [symbol?, bind_get, if_neg (by simp [h])]
  rfl

theorem expectSymbol_self (text : String) (ls : List Lexeme) :
    expectSymbol text (.symbol text :: ls) = .ok ((), ls) := by
  rw [expectSymbol, bind_of_ok (symbol?_self text ls)]
  rfl

theorem expectSymbol_of_not_ahead {text : String} {ls : List Lexeme}
    (h : symbolAhead text ls = false) : expectSymbol text ls = .error .mismatch := by
  rw [expectSymbol, bind_of_ok (symbol?_of_not_ahead h)]
  rfl

theorem inParens_of_not_ahead {α : Type} (p : Parse α) {ls : List Lexeme}
    (h : symbolAhead "(" ls = false) : inParens p ls = .error .mismatch := by
  rw [inParens, bind_of_error (expectSymbol_of_not_ahead h)]

/-- A reading between parentheses. -/
theorem inParens_of_ok {α : Type} {p : Parse α} {a : α} {ls rest : List Lexeme}
    (h : p ls = .ok (a, .symbol ")" :: rest)) :
    inParens p (.symbol "(" :: ls) = .ok (a, rest) := by
  rw [inParens, bind_of_ok (expectSymbol_self "(" ls), bind_of_ok h,
    bind_of_ok (expectSymbol_self ")" rest)]
  rfl

theorem keywords?_of_ahead {words : List String} {ls : List Lexeme}
    (h : keywordsAhead words ls = true) :
    keywords? words ls = .ok (true, ls.drop words.length) := by
  rw [keywords?, bind_get, if_pos h]
  rfl

theorem keywords?_of_not_ahead {words : List String} {ls : List Lexeme}
    (h : keywordsAhead words ls = false) : keywords? words ls = .ok (false, ls) := by
  rw [keywords?, bind_get, if_neg (by simp [h])]
  rfl

theorem keyword?_of_eq {l : Lexeme} {word : String} (h : l.keyword? = some word)
    (ls : List Lexeme) : keyword? word (l :: ls) = .ok (true, ls) := by
  rw [keyword?, keywords?_of_ahead (by simp [keywordsAhead, Lexeme.isKeyword, h])]
  rfl

theorem expectKeyword_of_eq {l : Lexeme} {word : String} (h : l.keyword? = some word)
    (ls : List Lexeme) : expectKeyword word (l :: ls) = .ok ((), ls) := by
  rw [expectKeyword, bind_of_ok (keyword?_of_eq h ls)]
  rfl

theorem commaRest_of_not_ahead {α : Type} (item : Parse α) {ls : List Lexeme}
    (h : symbolAhead "," ls = false) (n : Nat) : commaRest item n ls = .ok ([], ls) := by
  cases n with
  | zero => rfl
  | succ n =>
    rw [commaRest, bind_of_ok (symbol?_of_not_ahead h)]
    rfl

/-- Items that are there are taken one by one, up to something that is none.  What is behind an item
has the property that the items need. -/
theorem repeated_chunks {α : Type} {item : Parse (Option α)} {P : List Lexeme → Prop}
    {chunks : List (List Lexeme)} {values : List α}
    (h : List.Forall₂ (fun ls a => ∀ rest, P rest →
      item (ls ++ rest) = .ok (some a, rest) ∧ P (ls ++ rest)) chunks values)
    {rest : List Lexeme} (hrest : item rest = .ok (none, rest)) (hP : P rest) {n : Nat}
    (hn : chunks.length ≤ n) :
    repeated item n (chunks.flatten ++ rest) = .ok (values, rest) ∧ P (chunks.flatten ++ rest) := by
  induction h generalizing n with
  | nil =>
    refine ⟨?_, hP⟩
    cases n with
    | zero => rfl
    | succ n =>
      show repeated item (n + 1) rest = _
      rw [repeated, bind_of_ok hrest]
      rfl
  | @cons ls a chunks values hfirst _ ih =>
    cases n with
    | zero => exact absurd hn (by simp)
    | succ n =>
      obtain ⟨hmore, htail⟩ := ih (Nat.le_of_succ_le_succ hn)
      obtain ⟨hitem, hwhole⟩ := hfirst _ htail
      rw [List.flatten_cons, List.append_assoc]
      refine ⟨?_, hwhole⟩
      rw [repeated, bind_of_ok hitem]
      show (repeated item n >>= fun more => pure (a :: more)) (chunks.flatten ++ rest) = _
      rw [bind_of_ok hmore]
      rfl

theorem length_le_flatten {chunks : List (List Lexeme)} (h : ∀ ls ∈ chunks, ls ≠ [])
    (rest : List Lexeme) : chunks.length ≤ (chunks.flatten ++ rest).length := by
  induction chunks with
  | nil => exact Nat.zero_le _
  | cons ls chunks ih =>
    have hfirst := List.length_pos_iff.2 (h ls (by simp))
    have hmore := ih fun ls hls => h ls (List.mem_cons_of_mem _ hls)
    simp only [List.length_cons, List.flatten_cons, List.length_append] at hmore ⊢
    omega

/-! ### Lexemes behind an operand -/

/-- Whether the lexeme in front, if there is one, is one of those given. -/
def HeadIn (heads ls : List Lexeme) : Prop := ∀ l ∈ ls.head?, l ∈ heads

/-- No bracket stands anywhere: none could make an array of what is read for a type. -/
def Unbracketed (ls : List Lexeme) : Prop := .symbol "[" ∉ ls

/-- The words that stand behind operands in printed text. -/
def followingWords : List String := ["AND", "OR", "IS", "WHEN", "THEN", "ELSE", "END"]

/-- Words in front of operands and behind them, in order. -/
def operandWords : List String :=
  ["ALL", "AND", "ANY", "ARRAY", "BOTH", "CASE", "CURRENT_CATALOG", "CURRENT_DATE", "CURRENT_TIME",
    "CURRENT_TIMESTAMP", "CURRENT_USER", "DISTINCT", "ELSE", "END", "EXISTS", "FALSE", "INTERVAL",
    "IS", "LEADING", "LOCALTIME", "LOCALTIMESTAMP", "NOT", "NULL", "OR", "SELECT", "SESSION_USER",
    "SOME", "STRUCT", "THEN", "TRAILING", "TRIM", "TRUE", "USER", "WHEN", "WITH"]

/-- They are words of the vocabulary, which is in order, too. -/
theorem operandWords_vocabulary {word : String} (h : word ∈ operandWords) : word ∈ vocabulary := by
  have hpart : operandWords.isSublist vocabulary = true := by decide +kernel
  exact (List.isSublist_iff_sublist.1 hpart).subset h

/-- The lexemes that stand behind operands in printed text. -/
def followers : List Lexeme :=
  [.symbol ")", .symbol ","] ++ printedOperators.map .symbol ++ followingWords.map wordLexeme

/-- Nothing follows that goes on with an operand. -/
structure Follows (rest : List Lexeme) : Prop where
  head : HeadIn followers rest
  unbracketed : Unbracketed rest

/-- Nothing follows that goes on with a name, but a point may. -/
structure NameFollows (rest : List Lexeme) : Prop where
  head : HeadIn (.symbol "." :: followers) rest
  unbracketed : Unbracketed rest

theorem headIn_nil (heads : List Lexeme) : HeadIn heads [] := by
  intro l hl
  cases hl

theorem headIn_cons {heads : List Lexeme} {l : Lexeme} (h : l ∈ heads) (ls : List Lexeme) :
    HeadIn heads (l :: ls) := by
  intro m hm
  obtain rfl : l = m := by simpa using hm
  exact h

theorem Unbracketed.append {ls ms : List Lexeme} (hl : Unbracketed ls) (hm : Unbracketed ms) :
    Unbracketed (ls ++ ms) := by
  rw [Unbracketed, List.mem_append, not_or]
  exact ⟨hl, hm⟩

theorem Follows.nil : Follows [] := ⟨headIn_nil _, List.not_mem_nil⟩

theorem Follows.nameFollows {rest : List Lexeme} (h : Follows rest) : NameFollows rest :=
  ⟨fun l hl => List.mem_cons_of_mem _ (h.head l hl), h.unbracketed⟩

/-- Punctuation, operators and a few words follow operands and names. -/
theorem follower_cases {l : Lexeme} (h : l ∈ Lexeme.symbol "." :: followers) :
    (∃ text, l = .symbol text) ∨ ∃ word ∈ followingWords, l = wordLexeme word := by
  simp only [followers, List.mem_cons, List.mem_append, List.mem_map, List.not_mem_nil,
    or_false] at h
  rcases h with rfl | ((rfl | rfl) | ⟨text, -, rfl⟩) | ⟨word, hword, rfl⟩
  · exact .inl ⟨_, rfl⟩
  · exact .inl ⟨_, rfl⟩
  · exact .inl ⟨_, rfl⟩
  · exact .inl ⟨_, rfl⟩
  · exact .inr ⟨word, hword, rfl⟩

theorem symbolAhead_of_headIn {heads ls : List Lexeme} (h : HeadIn heads ls) {text : String}
    (hs : Lexeme.symbol text ∉ heads) : symbolAhead text ls = false := by
  rw [symbolAhead, decide_eq_false_iff_not]
  intro heq
  exact hs (h _ heq)

theorem keywordsAhead_of_headIn {heads ls : List Lexeme} (h : HeadIn heads ls) {word : String}
    (hw : ∀ l ∈ heads, l.isKeyword word = false) (words : List String) :
    keywordsAhead (word :: words) ls = false := by
  cases ls with
  | nil => rfl
  | cons l ls => rw [keywordsAhead, hw l (h l rfl), Bool.false_and]

/-! ### Readings that do not nest -/

/-- A reading that fails for its lexemes only, and otherwise leaves some of them. -/
def Shallow {α : Type} (p : Parse α) : Prop :=
  ∀ ls, p ls = .error .mismatch ∨ ∃ a rest, p ls = .ok (a, rest) ∧ rest <:+ ls

namespace Shallow

variable {α β : Type}

theorem pure (a : α) : Shallow (pure a : Parse α) :=
  fun ls => .inr ⟨a, ls, rfl, List.suffix_refl ls⟩

theorem refuse : Shallow (Sql.refuse : Parse α) := fun _ => .inl rfl

theorem bind {p : Parse α} {f : α → Parse β} (hp : Shallow p) (hf : ∀ a, Shallow (f a)) :
    Shallow (p >>= f) := by
  intro ls
  rcases hp ls with h | ⟨a, rest, h, hsuffix⟩
  · rw [bind_of_error h]
    exact .inl rfl
  · rw [bind_of_ok h]
    rcases hf a rest with h' | ⟨b, rest', h', hsuffix'⟩
    · exact .inl h'
    · exact .inr ⟨b, rest', h', hsuffix'.trans hsuffix⟩

theorem ite {c : Prop} [Decidable c] {p q : Parse α} (hp : Shallow p) (hq : Shallow q) :
    Shallow (if c then p else q) := by
  split
  · exact hp
  · exact hq

theorem remaining : Shallow Sql.remaining := fun ls => .inr ⟨ls.length, ls, rfl, List.suffix_refl ls⟩

theorem attempt {p : Parse α} (h : Shallow p) : Shallow (Sql.attempt p) := by
  intro ls
  rcases h ls with hp | ⟨a, rest, hp, hsuffix⟩
  · exact .inr ⟨none, ls, by rw [Sql.attempt, hp], List.suffix_refl ls⟩
  · exact .inr ⟨some a, rest, by rw [Sql.attempt, hp], hsuffix⟩

theorem take : Shallow Sql.take := by
  intro ls
  cases ls with
  | nil => exact .inl rfl
  | cons l ls => exact .inr ⟨l, ls, rfl, List.suffix_cons l ls⟩

theorem symbol? (text : String) : Shallow (Sql.symbol? text) := by
  intro ls
  rw [Sql.symbol?, bind_get]
  split
  · exact .inr ⟨true, ls.drop 1, rfl, List.drop_suffix 1 ls⟩
  · exact .inr ⟨false, ls, rfl, List.suffix_refl ls⟩

theorem expectSymbol (text : String) : Shallow (Sql.expectSymbol text) :=
  bind (symbol? text) fun _ => ite (pure _) refuse

theorem repeated {item : Parse (Option α)} (h : Shallow item) (n : Nat) :
    Shallow (Sql.repeated item n) := by
  induction n with
  | zero => exact pure _
  | succ n ih =>
    refine bind h fun found => ?_
    cases found with
    | none => exact pure _
    | some a => exact bind ih fun _ => pure _

theorem identifier : Shallow Sql.identifier := by
  refine bind take fun l => ?_
  cases l.ident? with
  | none => exact refuse
  | some name => exact pure _

theorem objectName : Shallow Sql.objectName :=
  bind identifier fun _ => bind remaining fun _ =>
    bind (repeated (bind (symbol? ".") fun _ =>
      ite (bind identifier fun _ => pure _) (pure _)) _) fun _ => pure _

theorem wholeNumber : Shallow Sql.wholeNumber := by
  refine bind take fun l => ?_
  cases l with
  | number digits long => exact ite (pure _) refuse
  | _ => exact refuse

theorem typeModifiers (n : Nat) : Shallow (Sql.typeModifiers n) := by
  induction n with
  | zero => exact refuse
  | succ n ih =>
    refine bind take fun l => ?_
    split
    · exact bind ih fun _ => pure _
    · exact bind ih fun _ => pure _
    · exact bind ih fun _ => pure _
    · exact ih
    · exact pure _
    · exact refuse

theorem customType : Shallow Sql.customType :=
  bind objectName fun _ => bind (symbol? "(") fun _ =>
    ite (bind remaining fun _ => bind (typeModifiers _) fun _ => pure _)
      (bind (pure _) fun _ => pure _)

end Shallow

/-- Without brackets no suffix makes an array. -/
theorem repeated_arraySuffix {d : DialectName} {ls : List Lexeme} (h : symbolAhead "[" ls = false)
    (n : Nat) : repeated (arraySuffix d) n ls = .ok ([], ls) := by
  cases n with
  | zero => rfl
  | succ n =>
    have hnone : arraySuffix d ls = .ok (none, ls) := by
      rw [arraySuffix, bind_of_ok (symbol?_of_not_ahead h)]
      rfl
    rw [repeated, bind_of_ok hnone]
    rfl

theorem Unbracketed.symbolAhead {ls : List Lexeme} (h : Unbracketed ls) :
    symbolAhead "[" ls = false := by
  rw [Sql.symbolAhead, decide_eq_false_iff_not]
  intro heq
  exact h (List.mem_of_mem_head? heq)

/-! ### Types in front -/

/-- The words that built-in types start with. -/
def typeWords : List String :=
  plainTypes ++ mixedTypes.map Text.upper ++ sizedTypes ++ integerTypes ++ exactTypes ++
    ["DOUBLE", "VARCHAR", "NVARCHAR", "CHARACTER", "CHAR", "BIT", "TIMESTAMP", "TIME",
      "DATETIME64", "FIXEDSTRING", "ENUM", "ENUM8", "ENUM16", "SET", "ARRAY", "STRUCT", "UNION",
      "NULLABLE", "LOWCARDINALITY", "MAP", "NESTED", "TUPLE", "INTERVAL"]

theorem simpleType_of_not_mem {d : DialectName} {word : String} (h : word ∉ typeWords)
    (ls : List Lexeme) : simpleType d word ls = .ok (none, ls) := by
  simp only [typeWords, List.mem_append, not_or] at h
  obtain ⟨⟨⟨⟨⟨hplain, hmixed⟩, hsized⟩, hinteger⟩, hexact⟩, hother⟩ := h
  have hfind : (mixedTypes.find? fun t => decide (Text.upper t = word)) = none := by
    rw [List.find?_eq_none]
    intro t ht heq
    exact hmixed (List.mem_map.2 ⟨t, ht, by simpa using heq⟩)
  unfold simpleType
  simp only [List.contains_iff_mem, hplain, hsized, hinteger, hexact, if_false, hfind]
  split <;> first | rfl | exact absurd (by simp) hother

theorem compositeType_of_not_mem {d : DialectName} {inner : Parse TypeText} {word : String}
    (h : word ∉ typeWords) (ls : List Lexeme) : compositeType d inner word ls = .ok (none, ls) := by
  simp only [typeWords, List.mem_append, not_or] at h
  have hother := h.2
  unfold compositeType
  generalize decide (d = .generic) = isGeneric
  split <;> first | rfl | exact absurd (by simp) hother

/-- A type that is not built in, where no bracket follows it. -/
theorem typeWith_custom {d : DialectName} {inner : Parse TypeText} {name : Ident} {rest : List Lexeme}
    (hinterval : ((Lexeme.word name).keyword?).getD "" ≠ "INTERVAL")
    (hsimple : simpleType d (((Lexeme.word name).keyword?).getD "") rest = .ok (none, rest))
    (hcomposite : compositeType d inner (((Lexeme.word name).keyword?).getD "") rest
      = .ok (none, rest)) (hrest : Unbracketed rest) :
    typeWith d inner (.word name :: rest) = .error .mismatch ∨
      ∃ text ls, typeWith d inner (.word name :: rest)
        = .ok (⟨text, .custom, false⟩, ls) ∧ ls <:+ .word name :: rest := by
  rw [typeWith, bind_get]
  simp only [bind_set, if_neg hinterval]
  rw [bind_of_ok hsimple]
  simp only []
  rw [bind_of_ok hcomposite]
  simp only [bind_set]
  rcases Shallow.customType (.word name :: rest) with h | ⟨text, ls, h, hsuffix⟩
  · rw [bind_of_error h]
    exact .inl rfl
  · have hls : Unbracketed ls := fun hmem => by
      rcases List.mem_cons.1 (hsuffix.mem hmem) with heq | hmem
      · cases heq
      · exact hrest hmem
    rw [bind_of_ok h]
    simp only [bind_pure, bind_remaining]
    rw [bind_of_ok (repeated_arraySuffix hls.symbolAhead _)]
    exact .inr ⟨text, ls, rfl, hsuffix⟩

theorem typeName_cons (d : DialectName) (l : Lexeme) (ls : List Lexeme) :
    typeName d (l :: ls)
      = (typeWith d (typeWithin d ls.length) >>= fun type =>
          if type.closesOuter then refuse else pure (type.text, type.kind)) (l :: ls) := rfl

/-- A type that is not built in starts no constant, whatever follows it. -/
theorem typedConstant_custom {d : DialectName} {r : Readings} {name : Ident} {rest : List Lexeme}
    (hinterval : ((Lexeme.word name).keyword?).getD "" ≠ "INTERVAL")
    (hsimple : simpleType d (((Lexeme.word name).keyword?).getD "") rest = .ok (none, rest))
    (hcomposite : ∀ inner, compositeType d inner (((Lexeme.word name).keyword?).getD "") rest
      = .ok (none, rest)) (hrest : Unbracketed rest) :
    typedConstant d r (.word name :: rest) = .error .mismatch := by
  have htype : typeName d (.word name :: rest) = .error .mismatch ∨
      ∃ text ls, typeName d (.word name :: rest) = .ok ((text, .custom), ls) := by
    rw [typeName_cons]
    rcases typeWith_custom hinterval hsimple (hcomposite _) hrest with h | ⟨text, ls, h, -⟩
    · rw [bind_of_error h]
      exact .inl rfl
    · rw [bind_of_ok h]
      exact .inr ⟨text, ls, rfl⟩
  rcases htype with htype | ⟨text, ls, htype⟩
  · rw [typedConstant, bind_of_error htype]
  · rw [typedConstant, bind_of_ok htype]
    rfl

/-- A word that starts no type starts no constant, whatever follows it. -/
theorem typedConstant_form {d : DialectName} {name : Ident}
    (h : ((Lexeme.word name).keyword?).getD "" ∉ typeWords) (r : Readings) {rest : List Lexeme}
    (hrest : Unbracketed rest) :
    typedConstant d r (.word name :: rest) = .error .mismatch := by
  refine typedConstant_custom ?_ (simpleType_of_not_mem h rest)
    (fun _ => compositeType_of_not_mem h rest) hrest
  intro heq
  rw [heq] at h
  exact h (by decide)

/-! ### Readings that take nothing -/

/-- A reading that does not fit here or takes nothing. -/
def Idle {α : Type} (p : Parse α) (ls : List Lexeme) : Prop :=
  p ls = .error .mismatch ∨ ∃ a, p ls = .ok (a, ls)

namespace Idle

variable {α β : Type} {ls : List Lexeme}

theorem pure (a : α) : Idle (pure a : Parse α) ls := .inr ⟨a, rfl⟩

theorem bind {p : Parse α} {f : α → Parse β} (hp : Idle p ls) (hf : ∀ a, Idle (f a) ls) :
    Idle (p >>= f) ls := by
  rcases hp with h | ⟨a, h⟩
  · exact .inl (bind_of_error h)
  · rw [Idle, bind_of_ok h]
    exact hf a

theorem bind_of_mismatch {p : Parse α} {f : α → Parse β} (h : p ls = .error .mismatch) :
    Idle (p >>= f) ls := .inl (bind_of_error h)

theorem ite {c : Prop} [Decidable c] {p q : Parse α} (hp : Idle p ls) (hq : Idle q ls) :
    Idle (if c then p else q) ls := by
  split
  · exact hp
  · exact hq

theorem inParens {p : Parse α} (h : symbolAhead "(" ls = false) : Idle (Sql.inParens p) ls :=
  .inl (inParens_of_not_ahead p h)

end Idle

/-! ### Names of types -/

namespace NameFollows

variable {rest : List Lexeme}

theorem symbolAhead (h : NameFollows rest) {text : String}
    (hs : Lexeme.symbol text ∉ Lexeme.symbol "." :: followers) : symbolAhead text rest = false :=
  symbolAhead_of_headIn h.head hs

theorem leftParen (h : NameFollows rest) : Sql.symbolAhead "(" rest = false :=
  h.symbolAhead (by decide)

theorem keywords? (h : NameFollows rest) {word : String}
    (hw : ∀ l ∈ Lexeme.symbol "." :: followers, l.isKeyword word = false) (words : List String) :
    Idle (Sql.keywords? (word :: words)) rest :=
  .inr ⟨false, keywords?_of_not_ahead (keywordsAhead_of_headIn h.head hw words)⟩

theorem oneOf? (h : NameFollows rest) {words : List String}
    (hw : ∀ l ∈ Lexeme.symbol "." :: followers, l.isOneOf words = false) :
    Sql.oneOf? words rest = .ok (none, rest) := by
  cases rest with
  | nil => rfl
  | cons l ls =>
    rw [Sql.oneOf?, bind_get]
    simp only [hw l (h.head l rfl)]
    rfl

theorem optionalSize (h : NameFollows rest) : Idle Sql.optionalSize rest := by
  rw [Idle, Sql.optionalSize, bind_get, if_neg (by simp [h.leftParen])]
  exact .inr ⟨"", rfl⟩

theorem optionalLength (h : NameFollows rest) : Idle Sql.optionalLength rest := by
  rw [Idle, Sql.optionalLength, bind_get, if_neg (by simp [h.leftParen])]
  exact .inr ⟨"", rfl⟩

theorem optionalPrecision (h : NameFollows rest) (comma : String) :
    Idle (Sql.optionalPrecision comma) rest := by
  rw [Idle, Sql.optionalPrecision, bind_of_ok (symbol?_of_not_ahead h.leftParen)]
  exact .inr ⟨"", rfl⟩

theorem optionalZone (h : NameFollows rest) : Idle Sql.optionalZone rest := by
  rw [Idle, Sql.optionalZone, bind_of_ok (h.oneOf? (by decide))]
  exact .inr ⟨"", rfl⟩

/-- A simple type has nothing behind its word. -/
theorem simpleType (h : NameFollows rest) (word : String) :
    Idle (Sql.simpleType .generic word) rest := by
  have keyword : ∀ word, (∀ l ∈ Lexeme.symbol "." :: followers, l.isKeyword word = false) →
      Idle (keyword? word) rest := fun _ hw => h.keywords? hw []
  unfold Sql.simpleType
  refine .ite (.pure _) ?_
  split
  · exact .pure _
  refine .ite (.bind h.optionalSize fun _ => .pure _) <| .ite
    (.bind h.optionalSize fun _ => .bind (keyword "UNSIGNED" (by decide)) fun _ => .pure _) <|
    .ite (.bind (h.optionalPrecision ",") fun _ => .pure _) ?_
  split
  · exact .bind (keyword "PRECISION" (by decide)) fun _ => .pure _
  · exact .bind h.optionalLength fun _ => .pure _
  · exact .bind h.optionalLength fun _ => .pure _
  · exact .bind (keyword "VARYING" (by decide)) fun _ =>
      .ite (.bind h.optionalLength fun _ => .pure _) <|
        .bind (h.keywords? (by decide) ["OBJECT"]) fun _ =>
          .ite (.bind h.optionalSize fun _ => .pure _) (.bind h.optionalLength fun _ => .pure _)
  · exact .bind (keyword "VARYING" (by decide)) fun _ =>
      .ite (.bind h.optionalLength fun _ => .pure _) <|
        .bind (h.keywords? (by decide) ["OBJECT"]) fun _ =>
          .ite (.bind h.optionalSize fun _ => .pure _) (.bind h.optionalLength fun _ => .pure _)
  · exact .bind (keyword "VARYING" (by decide)) fun _ =>
      .ite (.bind (.pure _) fun _ => .bind h.optionalSize fun _ => .pure _)
        (.bind (.pure _) fun _ => .bind h.optionalSize fun _ => .pure _)
  · exact .bind h.optionalSize fun _ => .bind h.optionalZone fun _ => .pure _
  · exact .bind h.optionalSize fun _ => .bind h.optionalZone fun _ => .pure _
  · exact .bind_of_mismatch (expectSymbol_of_not_ahead h.leftParen)
  · exact .bind (.inParens h.leftParen) fun _ => .pure _
  · exact .bind (.inParens h.leftParen) fun _ => .pure _
  · exact .bind (.inParens h.leftParen) fun _ => .pure _
  · exact .bind (.inParens h.leftParen) fun _ => .pure _
  · exact .bind (.inParens h.leftParen) fun _ => .pure _
  · exact .pure _

/-- A type made of others needs them behind its word. -/
theorem compositeType (h : NameFollows rest) (inner : Parse TypeText) {word : String}
    (harray : word ≠ "ARRAY") (hstruct : word ≠ "STRUCT") :
    Sql.compositeType .generic inner word rest = .error .mismatch ∨
      Sql.compositeType .generic inner word rest = .ok (none, rest) := by
  have parens : ∀ {α β : Type} (p : Parse α) (f : α → Parse β),
      (Sql.inParens p >>= f) rest = .error .mismatch :=
    fun p f => bind_of_error (inParens_of_not_ahead p h.leftParen)
  unfold Sql.compositeType
  generalize decide (DialectName.generic = DialectName.generic) = isGeneric
  split
  · exact absurd rfl harray
  · exact absurd rfl hstruct
  · exact .inl (parens _ _)
  · exact .inl (parens _ _)
  · exact .inl (parens _ _)
  · exact .inl (bind_of_error (expectSymbol_of_not_ahead h.leftParen))
  · exact .inl (parens _ _)
  · exact .inl (parens _ _)
  · exact .inr rfl

/-- No text follows. -/
theorem literalString (h : NameFollows rest) :
    Sql.literalString .generic rest = .error .mismatch := by
  cases rest with
  | nil => rfl
  | cons l ls =>
    rcases follower_cases (h.head l rfl) with ⟨text, rfl⟩ | ⟨word, hword, rfl⟩
    · rfl
    · have hknown : ∀ word ∈ followingWords, word ∈ operandWords ∧ Text.upper word = word := by
        decide
      obtain ⟨hmem, hupper⟩ := hknown word hword
      have hvocabulary : (wordLexeme word).isVocabulary = true := by
        show vocabulary.contains (Text.upper word) = true
        rw [hupper, List.contains_iff_mem]
        exact operandWords_vocabulary hmem
      rw [Sql.literalString, bind_take]
      show (if (wordLexeme word).isVocabulary = true then refuse else pure word : Parse String) ls = _
      rw [if_pos hvocabulary]
      rfl

end NameFollows

/-- What a type made of others is read as where the word of the type stands alone, or does not fit. -/
def ComposedAlone (inner : Parse TypeText) (word : String) (rest : List Lexeme) : Prop :=
  Sql.compositeType .generic inner word rest = .error .mismatch ∨
    Sql.compositeType .generic inner word rest = .ok (none, rest) ∨
    ∃ text, Sql.compositeType .generic inner word rest = .ok (some ⟨text, .builtIn, false⟩, rest)

/-- A word is a built-in type that takes nothing behind it, or some other type that is closed. -/
theorem typeWith_word {name : Ident} {rest : List Lexeme} {inner : Parse TypeText}
    (h : NameFollows rest) (hinterval : ((Lexeme.word name).keyword?).getD "" ≠ "INTERVAL")
    (hcomposite : ComposedAlone inner (((Lexeme.word name).keyword?).getD "") rest) :
    typeWith .generic inner (.word name :: rest) = .error .mismatch ∨
      (∃ text, typeWith .generic inner (.word name :: rest)
        = .ok (⟨text, .builtIn, false⟩, rest)) ∨
      ∃ text ls, typeWith .generic inner (.word name :: rest)
        = .ok (⟨text, .custom, false⟩, ls) ∧ ls <:+ .word name :: rest := by
  have hsuffix := repeated_arraySuffix (d := .generic) h.unbracketed.symbolAhead
  rcases h.simpleType (((Lexeme.word name).keyword?).getD "") with hsimple | ⟨type, hsimple⟩
  · left
    rw [typeWith, bind_get]
    simp only [bind_set, if_neg hinterval]
    rw [bind_of_error hsimple]
  cases type with
  | some text =>
    right; left
    rw [typeWith, bind_get]
    simp only [bind_set, if_neg hinterval]
    rw [bind_of_ok hsimple]
    simp only [bind_pure, bind_remaining]
    rw [bind_of_ok (hsuffix _)]
    exact ⟨text, rfl⟩
  | none =>
    rcases hcomposite with hcomposite | hcomposite | ⟨text, hcomposite⟩
    · left
      rw [typeWith, bind_get]
      simp only [bind_set, if_neg hinterval]
      rw [bind_of_ok hsimple]
      simp only []
      rw [bind_of_error hcomposite]
    · rcases typeWith_custom hinterval hsimple hcomposite h.unbracketed with hcustom | hcustom
      · exact .inl hcustom
      · exact .inr (.inr hcustom)
    · right; left
      rw [typeWith, bind_get]
      simp only [bind_set, if_neg hinterval]
      rw [bind_of_ok hsimple]
      simp only []
      rw [bind_of_ok hcomposite]
      simp only [bind_pure, bind_remaining]
      rw [bind_of_ok (hsuffix _)]
      exact ⟨text, rfl⟩

/-- A built-in type in front of no text starts no constant, and neither does any other word. -/
theorem typedConstant_word {name : Ident} {rest : List Lexeme} (h : NameFollows rest)
    (hinterval : ((Lexeme.word name).keyword?).getD "" ≠ "INTERVAL")
    (hcomposite : ComposedAlone (typeWithin .generic rest.length)
      (((Lexeme.word name).keyword?).getD "") rest) (r : Readings) :
    typedConstant .generic r (.word name :: rest) = .error .mismatch := by
  rcases typeWith_word h hinterval hcomposite with hread | ⟨text, hread⟩ | ⟨text, ls, hread, -⟩
  · have hname : typeName .generic (.word name :: rest) = .error .mismatch := by
      rw [typeName_cons, bind_of_error hread]
    rw [typedConstant, bind_of_error hname]
  · have hname : typeName .generic (.word name :: rest) = .ok ((text, .builtIn), rest) := by
      rw [typeName_cons, bind_of_ok hread]
      rfl
    rw [typedConstant, bind_of_ok hname]
    exact bind_of_error h.literalString
  · have hname : typeName .generic (.word name :: rest) = .ok ((text, .custom), ls) := by
      rw [typeName_cons, bind_of_ok hread]
      rfl
    rw [typedConstant, bind_of_ok hname]
    rfl

/-- A name in front of no text starts no constant. -/
theorem typedConstant_name {name : Ident} {rest : List Lexeme} (h : NameFollows rest)
    (hword : ((Lexeme.word name).keyword?).getD "" ∉ ["INTERVAL", "ARRAY", "STRUCT"])
    (r : Readings) : typedConstant .generic r (.word name :: rest) = .error .mismatch := by
  simp only [List.mem_cons, List.not_mem_nil, or_false, not_or] at hword
  refine typedConstant_word h hword.1 ?_ r
  exact (h.compositeType _ hword.2.1 hword.2.2).imp_right .inl

end Polyquery.Sql
