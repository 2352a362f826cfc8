import Polyquery.Proofs.Sql.Following

/-!
# Operands that are names and constants

* `level` - the readings of expressions that nest a number of levels further;
* `ReadsOperand n hi ls t` - at `n` levels the lexemes `ls` are one operand, the tree `t`, in front of
  operators of strength at most `hi`;
* `wordOperand_of_form`, `wordOperand_of_no_form` - words that start a form of their own or a name;
* `takenWords`, `formWords`, `IsName` - names that no form of the grammar takes;
* `ReadsOperand.name`, `ReadsOperand.path`, `ReadsOperand.constant` - names and constants.
-/

namespace Polyquery.Sql

/-! ### Levels -/

/-- The readings of expressions that nest at most the given number of levels. -/
def level (n : Nat) : Readings := readings .generic (readers .generic false n)

/-- The readings of a level with another reading of operands. -/
def levelWith (n : Nat) (op : Parse Tree) : Readings := ⟨readers .generic false n, op⟩

theorem prior_levelWith (n : Nat) (op : Parse Tree) : (levelWith n op).prior = false := by
  cases n <;> rfl

theorem subexpression_levelWith (n : Nat) (op : Parse Tree) (strength : Nat) :
    (levelWith (n + 1) op).subexpression strength
      = subexpression .generic (level n) strength := rfl

/-- At a number of levels the lexemes are one operand in front of operators of limited strength. -/
def ReadsOperand (n hi : Nat) (ls : List Lexeme) (t : Tree) : Prop :=
  ∀ rest, Follows rest → precedence .generic rest ≤ hi →
    operand .generic (readers .generic false n) (ls ++ rest) = .ok (t, rest)

/-- The readings of a level with the reading of operands that has a number of lexemes left. -/
def levelFor (n : Nat) (ls : List Lexeme) : Readings :=
  levelWith n (operandWithin .generic (readers .generic false n) ls.length)

/-- An operand that starts no constant of a type. -/
theorem operand_of_untyped {d : DialectName} {r : Deeper} {l : Lexeme} {ls : List Lexeme}
    (h : typedConstant d ⟨r, operandWithin d r ls.length⟩ (l :: ls) = .error .mismatch) :
    operand d r (l :: ls) = plainOperand d ⟨r, operandWithin d r ls.length⟩ (l :: ls) := by
  have hattempt : attempt (typedConstant d ⟨r, operandWithin d r ls.length⟩) (l :: ls)
      = .ok (none, l :: ls) := by
    rw [attempt, h]
  rw [operand, bind_remaining, List.length_cons, operandWithin]
  exact bind_of_ok hattempt

theorem operand_of_levelFor {n : Nat} {l : Lexeme} {ls : List Lexeme}
    (h : typedConstant .generic (levelFor n ls) (l :: ls) = .error .mismatch) :
    operand .generic (readers .generic false n) (l :: ls)
      = plainOperand .generic (levelFor n ls) (l :: ls) := operand_of_untyped h

theorem operand_of_plain {n : Nat} {l : Lexeme} {ls : List Lexeme}
    {result : Except Refusal (Tree × List Lexeme)}
    (htyped : ∀ r, typedConstant .generic r (l :: ls) = .error .mismatch)
    (hplain : ∀ op, plainOperand .generic (levelWith n op) (l :: ls) = result) :
    operand .generic (readers .generic false n) (l :: ls) = result :=
  (operand_of_levelFor (htyped _)).trans (hplain _)

/-! ### Words -/

theorem keyword?_collate {rest : List Lexeme} (h : Follows rest) :
    keyword? "COLLATE" rest = .ok (false, rest) :=
  keywords?_of_not_ahead (keywordsAhead_of_headIn h.head (by decide) [])

theorem collated_of_follows {rest : List Lexeme} (h : Follows rest) (t : Tree) :
    collated t rest = .ok (t, rest) := by
  rw [collated, bind_of_ok (keyword?_collate h)]
  rfl

theorem plainOperand_word (d : DialectName) (r : Readings) (name : Ident) (ls : List Lexeme) :
    plainOperand d r (.word name :: ls) = wordOperand d r name ls := rfl

/-- A form that a word starts, in front of what goes on with no collation. -/
theorem wordOperand_of_form {d : DialectName} {r : Readings} {name : Ident} {ls rest : List Lexeme}
    {t : Tree} (h : wordForm d r name ls = .ok (some t, rest)) (hrest : Follows rest) :
    wordOperand d r name ls = .ok (t, rest) := by
  unfold wordOperand
  rw [h]
  exact collated_of_follows hrest t

/-- A word that starts no form starts a name. -/
theorem wordOperand_of_no_form {d : DialectName} {r : Readings} {name : Ident} {ls : List Lexeme}
    (h : wordForm d r name ls = .ok (none, ls)) :
    wordOperand d r name ls = (nameForm d r name >>= collated) ls := by
  unfold wordOperand
  rw [h]

/-! ### Names -/

/-- Words that the grammar takes for something else than a name in some place of an operand. -/
def takenWords : List String :=
  ["TRUE", "FALSE", "NULL", "CURRENT_CATALOG", "CURRENT_USER", "SESSION_USER", "USER",
    "CURRENT_TIMESTAMP", "CURRENT_TIME", "CURRENT_DATE", "LOCALTIME", "LOCALTIMESTAMP", "CASE",
    "EXISTS", "TRIM", "INTERVAL", "ARRAY", "NOT", "STRUCT", "SELECT", "WITH", "ANY", "ALL", "SOME",
    "DISTINCT", "BOTH", "LEADING", "TRAILING"]

/-- The words among them that start a form of their own, though no parenthesis follows. -/
def formWords : List String :=
  ["TRUE", "FALSE", "NULL", "CURRENT_CATALOG", "CURRENT_USER", "SESSION_USER", "USER",
    "CURRENT_TIMESTAMP", "CURRENT_TIME", "CURRENT_DATE", "LOCALTIME", "LOCALTIMESTAMP", "CASE",
    "EXISTS", "TRIM", "INTERVAL", "ARRAY", "NOT", "STRUCT"]

theorem takenWords_of_formWords : ∀ word ∈ formWords, word ∈ takenWords := by decide

/-- A name that stays one when the generic dialect writes it. -/
def IsName (name : String) : Prop := (Lexeme.word (identOf name)).isOneOf takenWords = false

instance (name : String) : Decidable (IsName name) := inferInstanceAs (Decidable (_ = _))

theorem isOneOf_iff {l : Lexeme} {words : List String} (hempty : "" ∉ words) :
    l.isOneOf words = true ↔ (l.keyword?).getD "" ∈ words := by
  unfold Lexeme.isOneOf
  cases l.keyword? with
  | none => simpa using hempty
  | some word => simp

theorem isOneOf_eq_false {l : Lexeme} {words : List String} (h : l.isOneOf words = false)
    (hempty : "" ∉ words) : (l.keyword?).getD "" ∉ words := by
  rw [← isOneOf_iff hempty, h]
  exact Bool.false_ne_true

/-- A plain name starts no form. -/
theorem IsName.not_form {name : String} (h : IsName name) :
    ((Lexeme.word (identOf name)).keyword?).getD "" ∉ formWords :=
  fun hmem => isOneOf_eq_false h (by decide) (takenWords_of_formWords _ hmem)

/-- A word without such a form starts none where a name ends. -/
theorem wordForm_name {r : Readings} {name : Ident} {rest : List Lexeme} (hprior : r.prior = false)
    (hword : ((Lexeme.word name).keyword?).getD "" ∉ formWords) (h : NameFollows rest) :
    wordForm .generic r name rest = .error .mismatch ∨
      wordForm .generic r name rest = .ok (none, rest) := by
  have hnot : ∀ word ∈ formWords, ((Lexeme.word name).keyword?).getD "" ≠ word := by
    rintro word hmem rfl
    exact hword hmem
  have parens : ∀ {p : Parse Tree} {q : Parse Tree} (f : Tree → Parse (Option Tree)),
      p = inParens q → (p >>= f) rest = .error .mismatch := by
    rintro p q f rfl
    exact bind_of_error (inParens_of_not_ahead q h.leftParen)
  generalize hread : wordForm .generic r name rest = read
  unfold wordForm at hread
  simp only [] at hread
  generalize (Lexeme.word name).keyword?.getD "" = key at hread hnot
  split at hread
  -- most forms need a parenthesis behind their word, the others are taken or ask for more
  case h_23 =>
    rw [bind_get, if_neg (by simp [h.leftParen])] at hread
    exact .inr hread.symm
  case h_28 =>
    rw [if_neg (by simp [hprior])] at hread
    exact .inr hread.symm
  case h_31 =>
    have hmatch : matchBody rest = .error .mismatch :=
      bind_of_error (inParens_of_not_ahead _ h.leftParen)
    rw [if_pos (by decide), bind_of_error hmatch] at hread
    exact .inl hread.symm
  case h_33 =>
    have hbrace : symbolAhead "\x7b" rest = false := h.symbolAhead (by decide)
    rw [bind_get, if_neg (by simp [hbrace])] at hread
    exact .inr hread.symm
  all_goals
    first
    | exact absurd rfl (hnot _ (by decide))
    | exact .inl (hread.symm.trans (parens _ rfl))
    | exact .inr hread.symm

/-- Behind a word whose form does not fit or that has none, and that is not reserved, the rest of a
name is read. -/
theorem wordOperand_of_nameForm {r : Readings} {name : Ident} {rest rest' : List Lexeme} {t : Tree}
    (hunformed : wordForm .generic r name rest = .error .mismatch ∨
      wordForm .generic r name rest = .ok (none, rest))
    (hreserved : ((Lexeme.word name).keyword?).getD "" ∉ reservedWords)
    (hform : nameForm .generic r name rest = .ok (t, rest')) (hrest' : Follows rest') :
    wordOperand .generic r name rest = .ok (t, rest') := by
  have hfree : (Lexeme.word name).isOneOf reservedWords = false := by
    rw [← Bool.not_eq_true, isOneOf_iff (by decide)]
    exact hreserved
  rcases hunformed with h | h
  · unfold wordOperand
    rw [h]
    simp only [hfree, hform]
    rfl
  · rw [wordOperand_of_no_form h, bind_of_ok hform, collated_of_follows hrest']

/-- What follows a word that is a name decides what it names. -/
theorem wordOperand_name {r : Readings} {name : Ident} {rest rest' : List Lexeme} {t : Tree}
    (hprior : r.prior = false) (hword : ((Lexeme.word name).keyword?).getD "" ∉ formWords)
    (hrest : NameFollows rest) (hform : nameForm .generic r name rest = .ok (t, rest'))
    (hrest' : Follows rest') : wordOperand .generic r name rest = .ok (t, rest') := by
  have hall : ∀ word ∈ reservedWords, word ∈ formWords := by decide
  exact wordOperand_of_nameForm (wordForm_name hprior hword hrest)
    (fun hmem => hword (hall _ hmem)) hform hrest'

theorem typedConstant_of_no_form {name : Ident} {rest : List Lexeme}
    (hword : ((Lexeme.word name).keyword?).getD "" ∉ formWords) (h : NameFollows rest)
    (r : Readings) : typedConstant .generic r (.word name :: rest) = .error .mismatch := by
  refine typedConstant_name h ?_ r
  have hall : ∀ word ∈ ["INTERVAL", "ARRAY", "STRUCT"], word ∈ formWords := by decide
  exact fun hmem => hword (hall _ hmem)

/-- Nothing goes on with a name: nothing follows, or a symbol that is no part of one, or a word. -/
def EndsName (rest : List Lexeme) : Prop :=
  rest = [] ∨ (∃ text ls, rest = .symbol text :: ls ∧ text ≠ "(" ∧ text ≠ ".") ∨
    ∃ word ls, rest = wordLexeme word :: ls

theorem Follows.endsName {rest : List Lexeme} (h : Follows rest) : EndsName rest := by
  cases rest with
  | nil => exact .inl rfl
  | cons l ls =>
    rcases follower_cases (h.nameFollows.head l rfl) with ⟨text, rfl⟩ | ⟨word, -, rfl⟩
    · refine .inr (.inl ⟨text, ls, rfl, ?_, ?_⟩)
      · rintro rfl
        exact absurd (h.head _ rfl) (by decide)
      · rintro rfl
        exact absurd (h.head _ rfl) (by decide)
    · exact .inr (.inr ⟨word, ls, rfl⟩)

theorem nameForm_of_endsName {d : DialectName} {r : Readings} {name : Ident} {rest : List Lexeme}
    (h : EndsName rest) : nameForm d r name rest = .ok (.name name, rest) := by
  rw [nameForm, bind_get]
  rcases h with rfl | ⟨text, ls, rfl, hparen, hpoint⟩ | ⟨word, ls, rfl⟩
  · rfl
  · simp [hparen, hpoint]
    rfl
  · rfl

/-! ### Paths -/

/-- The lexemes of names behind others, each with its point. -/
def pointed (names : List Ident) : List Lexeme :=
  names.flatMap fun name => [.symbol ".", .word name]

theorem pointed_cons (name : Ident) (names : List Ident) (rest : List Lexeme) :
    pointed (name :: names) ++ rest = .symbol "." :: .word name :: (pointed names ++ rest) := rfl

theorem unbracketed_pointed (names : List Ident) : Unbracketed (pointed names) := by
  simp [Unbracketed, pointed]

theorem unbracketed_path (name : Ident) (names : List Ident) :
    Unbracketed (.word name :: pointed names) := by
  simpa [Unbracketed] using unbracketed_pointed names

/-- Names with points between them. -/
theorem SpelledIn.path (d : DialectName) (name : String) (names : List String) :
    SpelledIn d (Token.separated [.symbol "."] ((name :: names).map fun name => [.ident name]))
      (.word (identIn d name) :: pointed (names.map (identIn d))) := by
  induction names generalizing name with
  | nil => exact .ident d name
  | cons next names ih =>
    obtain ⟨ts, heq⟩ := Spelled.separated_ident_cons next names
    have hmore := ih next
    rw [heq] at hmore
    rw [List.map_cons, Token.separated.eq_3 _ _ _ (by simp), heq]
    exact .ident_point (.point_ident hmore)

theorem value_identIn (d : DialectName) (names : List String) :
    (names.map (identIn d)).map Ident.value = names := by
  rw [List.map_map]
  refine List.map_id'' (fun name => ?_) names
  cases d <;> rfl

/-- Names behind points are taken one by one. -/
theorem repeated_pointed {item : Parse (Option Ident)} {rest : List Lexeme}
    (hname : ∀ name ls, item (.symbol "." :: .word name :: ls) = .ok (some name, ls))
    (hrest : item rest = .ok (none, rest)) (names : List Ident) :
    repeated item (pointed names ++ rest).length (pointed names ++ rest) = .ok (names, rest) := by
  have hchunks : List.Forall₂ (fun ls name => ∀ rest, True →
      item (ls ++ rest) = .ok (some name, rest) ∧ True)
      (names.map fun name => [.symbol ".", .word name]) names := by
    rw [List.forall₂_map_left_iff, List.forall₂_same]
    exact fun name _ rest _ => ⟨hname name rest, trivial⟩
  have hlength := @length_le_flatten (names.map fun name => [.symbol ".", .word name]) (by simp) rest
  exact (repeated_chunks hchunks hrest trivial hlength).1

/-- A name with further ones behind points is a path. -/
theorem nameForm_path {d : DialectName} {r : Readings} {name : Ident} {names : List Ident}
    (hne : names ≠ []) {rest : List Lexeme} (h : EndsName rest) :
    nameForm d r name (pointed names ++ rest) = .ok (.path (name :: names), rest) := by
  cases names with
  | nil => exact absurd rfl hne
  | cons next names =>
    rw [pointed_cons, nameForm, bind_get]
    simp only []
    rw [bind_remaining, ← pointed_cons, bind_of_ok (repeated_pointed _ _ _), bind_get]
    · rcases h with rfl | ⟨text, ls, rfl, hparen, hpoint⟩ | ⟨word, ls, rfl⟩
      · rfl
      · simp [hparen, hpoint]
        rfl
      · rfl
    · exact fun _ _ => rfl
    · rcases h with rfl | ⟨text, ls, rfl, -, hpoint⟩ | ⟨word, ls, rfl⟩
      · rfl
      · rw [bind_get]
        simp [hpoint]
        rfl
      · rfl

/-! ### Operands -/

/-- A constant that is a lexeme of its own. -/
theorem operand_constant {d : DialectName} {l : Lexeme} {c : Constant}
    (htyped : ∀ r ls, typedConstant d r (l :: ls) = .error .mismatch)
    (hplain : ∀ r ls, plainOperand d r (l :: ls) = collated (.constant c) ls)
    {rest : List Lexeme} (hrest : Follows rest) (r : Deeper) :
    operand d r (l :: rest) = .ok (.constant c, rest) := by
  rw [operand_of_untyped (htyped _ _), hplain]
  exact collated_of_follows hrest _

namespace ReadsOperand

variable {n hi : Nat}

/-- A word without a form of its own is a name. -/
theorem word {name : Ident} (hword : ((Lexeme.word name).keyword?).getD "" ∉ formWords) :
    ReadsOperand n hi [.word name] (.name name) := by
  intro rest hrest _
  refine operand_of_plain (typedConstant_of_no_form hword hrest.nameFollows) fun op => ?_
  exact wordOperand_name (prior_levelWith n op) hword hrest.nameFollows (nameForm_of_endsName hrest.endsName) hrest

theorem name {name : String} (h : IsName name) :
    ReadsOperand n hi [.word (identOf name)] (.name (identOf name)) := word h.not_form

theorem path {name : String} (h : IsName name) {names : List Ident} (hne : names ≠ []) :
    ReadsOperand n hi (.word (identOf name) :: pointed names)
      (.path (identOf name :: names)) := by
  intro rest hrest _
  have hword := h.not_form
  have hpoint : NameFollows (pointed names ++ rest) := by
    refine ⟨?_, ?_⟩
    · cases names with
      | nil => exact absurd rfl hne
      | cons next names =>
        rw [pointed_cons]
        exact headIn_cons (by simp) _
    · exact (unbracketed_pointed names).append hrest.unbracketed
  rw [List.cons_append]
  refine operand_of_plain (typedConstant_of_no_form hword hpoint) fun op => ?_
  exact wordOperand_name (prior_levelWith n op) hword hpoint (nameForm_path hne hrest.endsName) hrest

theorem constant {l : Lexeme} {c : Constant}
    (htyped : ∀ r ls, typedConstant .generic r (l :: ls) = .error .mismatch)
    (hplain : ∀ r ls, plainOperand .generic r (l :: ls) = collated (.constant c) ls) :
    ReadsOperand n hi [l] (.constant c) :=
  fun _ hrest _ => operand_constant htyped hplain hrest _

theorem number (digits : String) :
    ReadsOperand n hi [.number digits false] (.constant (.number digits false)) :=
  constant (fun _ _ => rfl) fun _ _ => rfl

theorem text (s : String) :
    ReadsOperand n hi [.text .single s] (.constant (.text .single s)) :=
  constant (fun _ _ => rfl) fun _ _ => rfl

end ReadsOperand

end Polyquery.Sql
