import Polyquery.Proofs.Sql.Climbing

/-!
# Operands with a word of their own

* `ReadsOperand.wordConstant` - truth values and null;
* `IsArgument`, `ReadsItem.argument` - arguments that name nothing and are no star;
* `ReadsOperand.call` - calls of functions, with `ReadsOperand.countAll` for the count of all rows;
* `ReadsOperand.substring`, `ReadsOperand.trim`, `ReadsOperand.rounding` - functions that the grammar
  knows by their words;
* `ReadsOperand.case` - conditionals.
-/

namespace Polyquery.Sql

/-! ### Forms -/

/-- An operand that a word of its own starts. -/
theorem readsOperand_form {n hi : Nat} {word : String} {ls : List Lexeme} {t : Tree}
    (hword : Text.upper word ∉ typeWords) (hls : Unbracketed ls)
    (h : ∀ op rest, Follows rest →
      wordForm .generic (levelWith n op) ⟨word, none⟩ (ls ++ rest) = .ok (some t, rest)) :
    ReadsOperand n hi (wordLexeme word :: ls) t := by
  intro rest hrest _
  have htyped : ∀ r, typedConstant .generic r (wordLexeme word :: (ls ++ rest))
      = .error .mismatch := fun r =>
    @typedConstant_form .generic ⟨word, none⟩ hword r _ (hls.append hrest.unbracketed)
  refine operand_of_plain htyped fun op => ?_
  exact (plainOperand_word _ _ _ _).trans (wordOperand_of_form (h op rest hrest) hrest)

/-- A constant that is a word. -/
theorem ReadsOperand.wordConstant {n hi : Nat} {word : String} {c : Constant}
    (hword : Text.upper word ∉ typeWords)
    (h : ∀ r ls, wordForm .generic r ⟨word, none⟩ ls = .ok (some (.constant c), ls)) :
    ReadsOperand n hi [wordLexeme word] (.constant c) :=
  readsOperand_form hword List.not_mem_nil fun _ rest _ => h _ rest

/-! ### Arguments -/

/-- The lexemes name no argument in any dialect, are no star and start no clause on nulls. -/
structure IsArgument (ls : List Lexeme) : Prop where
  unnamed : ∀ rest, Follows rest → ∀ d r,
    (identifier >>= fun name => namedArgument d r name.text) (ls ++ rest) = .error .mismatch
  noStar : ∀ rest, Follows rest → wildcard? (ls ++ rest) = .ok (none, ls ++ rest)
  noClause : ∀ rest, Follows rest → nullClause (ls ++ rest) = .ok ([], ls ++ rest)

theorem wildcard?_of_not_path {l : Lexeme} {ls : List Lexeme} (hstar : l ≠ .symbol "*")
    (h : symbolAhead "." ls = false) : wildcard? (l :: ls) = .ok (none, l :: ls) := by
  rw [wildcard?, bind_get]
  generalize hstate : l :: ls = state
  split
  · exact absurd (List.cons.inj hstate).1 hstar
  · obtain ⟨-, rfl⟩ := List.cons.inj hstate
    exact absurd h (by simp [symbolAhead])
  · rfl

theorem wildcard?_of_not_name {l : Lexeme} {ls : List Lexeme} (hstar : l ≠ .symbol "*")
    (h : l.ident? = none) : wildcard? (l :: ls) = .ok (none, l :: ls) := by
  rw [wildcard?, bind_get]
  generalize hstate : l :: ls = state
  split
  · exact absurd (List.cons.inj hstate).1 hstar
  · obtain ⟨rfl, rfl⟩ := List.cons.inj hstate
    split
    · cases h
    · cases h
    · rfl
  · rfl

theorem nullClause_of_not_ahead {ls : List Lexeme}
    (habsent : keywordsAhead ["ABSENT", "ON", "NULL"] ls = false)
    (hnull : keywordsAhead ["NULL", "ON", "NULL"] ls = false) : nullClause ls = .ok ([], ls) := by
  rw [nullClause, bind_of_ok (keywords?_of_not_ahead habsent)]
  exact bind_of_ok (keywords?_of_not_ahead hnull)

/-- The lexemes behind the first one of an argument. -/
def secondLexemes : List Lexeme := .symbol "(" :: .symbol "." :: followers

theorem argumentMark_of_headIn {d : DialectName} {ls : List Lexeme} (h : HeadIn secondLexemes ls) :
    argumentMark d ls = .error .mismatch := by
  have hvalue : keyword? "VALUE" ls = .ok (false, ls) :=
    keywords?_of_not_ahead (keywordsAhead_of_headIn h (by decide) [])
  have hsymbol : ∀ {text : String}, Lexeme.symbol text ∉ secondLexemes →
      symbol? text ls = .ok (false, ls) :=
    fun hs => symbol?_of_not_ahead (symbolAhead_of_headIn h hs)
  rw [argumentMark, bind_of_ok hvalue]
  simp only [Bool.false_eq_true, if_false]
  rw [bind_of_ok (hsymbol (by decide))]
  simp only [Bool.false_eq_true, if_false]
  rw [bind_of_ok (hsymbol (by decide))]
  simp only [Bool.false_eq_true, if_false]
  rw [bind_of_ok (hsymbol (by decide))]
  rfl

namespace IsArgument

/-- A lexeme that is no name starts an argument. -/
theorem of_not_ident {l : Lexeme} (h : l.ident? = none) (hstar : l ≠ .symbol "*")
    (ls : List Lexeme) : IsArgument (l :: ls) := by
  have hkey : ∀ word words rest, keywordsAhead (word :: words) (l :: rest) = false := by
    intro word words rest
    have hnone : l.keyword? = none := by
      cases l with
      | word name => cases h
      | _ => rfl
    rw [keywordsAhead, Lexeme.isKeyword, hnone]
    rfl
  refine ⟨fun rest _ d r => ?_, fun rest _ => wildcard?_of_not_name hstar h,
    fun rest _ => nullClause_of_not_ahead (hkey _ _ _) (hkey _ _ _)⟩
  have hname : identifier (l :: (ls ++ rest)) = .error .mismatch := by
    rw [identifier, bind_take]
    simp only [h]
    rfl
  exact bind_of_error hname

theorem noClause_of_headIn {l : Lexeme} {ls : List Lexeme} (h : HeadIn secondLexemes ls) :
    nullClause (l :: ls) = .ok ([], l :: ls) := by
  have hon : ∀ word, keywordsAhead [word, "ON", "NULL"] (l :: ls) = false := by
    intro word
    rw [keywordsAhead, keywordsAhead_of_headIn h (by decide), Bool.and_false]
  exact nullClause_of_not_ahead (hon _) (hon _)

/-- A lexeme that may be a name, with nothing behind it that makes it the name of an argument. -/
theorem of_headIn {l : Lexeme} {ls : List Lexeme} (hstar : l ≠ .symbol "*")
    (hls : ∀ rest, Follows rest → HeadIn secondLexemes (ls ++ rest))
    (hpoint : ∀ rest, Follows rest → symbolAhead "." (ls ++ rest) = false) :
    IsArgument (l :: ls) := by
  refine ⟨fun rest hrest d r => ?_, fun rest hrest => wildcard?_of_not_path hstar (hpoint rest hrest),
    fun rest hrest => noClause_of_headIn (hls rest hrest)⟩
  cases hname : l.ident? with
  | none =>
    have hrefused : identifier (l :: (ls ++ rest)) = .error .mismatch := by
      rw [identifier, bind_take]
      simp only [hname]
      rfl
    exact bind_of_error hrefused
  | some name =>
    have hread : identifier (l :: (ls ++ rest)) = .ok (name, ls ++ rest) := by
      rw [identifier, bind_take]
      simp only [hname]
      rfl
    show (identifier >>= fun name => namedArgument d r name.text) (l :: (ls ++ rest)) = _
    rw [bind_of_ok hread, namedArgument, bind_of_error (argumentMark_of_headIn (hls rest hrest))]

theorem headIn_secondLexemes {rest : List Lexeme} (h : Follows rest) :
    HeadIn secondLexemes rest :=
  fun l hl => List.mem_cons_of_mem _ (List.mem_cons_of_mem _ (h.head l hl))

/-- A single lexeme is an argument. -/
theorem single {l : Lexeme} (hstar : l ≠ .symbol "*") : IsArgument [l] :=
  of_headIn hstar (fun _ hrest => headIn_secondLexemes hrest)
    fun _ hrest => symbolAhead_of_headIn hrest.head (by decide)

/-- A word in front of a parenthesis or of one of the words behind operands. -/
theorem cons {l m : Lexeme} (hstar : l ≠ .symbol "*") (hm : m ∈ .symbol "(" :: followers)
    (ls : List Lexeme) : IsArgument (l :: m :: ls) := by
  have hsecond : ∀ m ∈ .symbol "(" :: followers, m ∈ secondLexemes ∧ m ≠ .symbol "." := by decide
  refine of_headIn hstar (fun _ _ => headIn_cons (hsecond m hm).1 _) fun _ _ => ?_
  rw [List.cons_append, symbolAhead, decide_eq_false_iff_not, List.head?_cons, Option.some.injEq]
  exact (hsecond m hm).2

/-- A path ends in no star. -/
theorem starPath_pointed (names : List Ident) {rest : List Lexeme} (h : Follows rest) (n : Nat)
    (seen : List Ident) :
    ∃ ls, starPath n seen (pointed names ++ rest) = .ok (none, ls) := by
  induction names generalizing n seen with
  | nil =>
    have hpoint : symbolAhead "." rest = false := symbolAhead_of_headIn h.head (by decide)
    cases n with
    | zero => exact ⟨_, rfl⟩
    | succ n =>
      refine ⟨rest, ?_⟩
      show starPath (n + 1) seen rest = _
      rw [starPath, bind_of_ok (symbol?_of_not_ahead hpoint)]
      rfl
  | cons name names ih =>
    cases n with
    | zero => exact ⟨_, rfl⟩
    | succ n =>
      obtain ⟨ls, hls⟩ := ih n (name :: seen)
      refine ⟨ls, ?_⟩
      rw [pointed_cons, starPath, bind_of_ok (symbol?_self "." _)]
      exact hls

theorem path (name : Ident) {names : List Ident} (hne : names ≠ []) :
    IsArgument (.word name :: pointed names) := by
  have hls : ∀ rest, HeadIn secondLexemes (pointed names ++ rest) := by
    intro rest
    cases names with
    | nil => exact absurd rfl hne
    | cons next names => exact headIn_cons (by decide) _
  refine ⟨fun rest _ d r => ?_, fun rest hrest => ?_, fun rest _ => noClause_of_headIn (hls rest)⟩
  · have hread : identifier (.word name :: (pointed names ++ rest)) = .ok (name, pointed names ++ rest) :=
      rfl
    show (identifier >>= fun name => namedArgument d r name.text)
      (.word name :: (pointed names ++ rest)) = _
    rw [bind_of_ok hread, namedArgument, bind_of_error (argumentMark_of_headIn (hls rest))]
  · cases names with
    | nil => exact absurd rfl hne
    | cons next names =>
      obtain ⟨ls, hstar⟩ := starPath_pointed (next :: names) hrest
        (pointed (next :: names) ++ rest).length [name]
      show wildcard? (.word name :: (pointed (next :: names) ++ rest)) = _
      have hread : identifier (.word name :: (pointed (next :: names) ++ rest))
          = .ok (name, pointed (next :: names) ++ rest) := rfl
      rw [wildcard?, bind_get]
      show (identifier >>= _) (.word name :: (pointed (next :: names) ++ rest)) = _
      rw [bind_of_ok hread, bind_remaining, bind_of_ok hstar]
      rfl

end IsArgument

/-- An expression is an argument, where no expression may be the name of one. -/
theorem ReadsItem.argument {d : DialectName} (hd : d ≠ .postgres) {r : Readings} {ls : List Lexeme}
    {t : Tree} (h : ReadsItem r.expression ls t) (harg : IsArgument ls) :
    ReadsItem (Sql.argument d r) ls (.value t) := by
  refine ⟨h.1, fun rest hrest hp => ?_⟩
  have hunnamed : attempt (identifier >>= fun name => namedArgument d r name.text) (ls ++ rest)
      = .ok (none, ls ++ rest) := by
    rw [attempt, harg.unnamed rest hrest]
  have hwhole : wildcardOrExpression r (ls ++ rest) = .ok (.value t, rest) := by
    rw [wildcardOrExpression, bind_of_ok (harg.noStar rest hrest)]
    exact bind_of_ok (h.2 rest hrest hp)
  rw [Sql.argument, bind_get, if_neg hd, bind_of_ok hunnamed]
  exact hwhole

/-! ### Calls -/

/-- The lexemes of items with commas between them. -/
def commaLexemes : List (List Lexeme) → List Lexeme
  | [] => []
  | ls :: items => ls ++ commaTail items

/-- The functions that the grammar reads like any others. -/
def functionWords : List String :=
  ["YEAR", "MONTH", "DAY", "HOUR", "MINUTE", "SECOND", "LOWER", "UPPER", "LENGTH", "ROUND", "MIN",
    "MAX", "COUNT", "SUM", "AVG", "REGEXP_LIKE"]

theorem functionWords_forms {word : String} (h : word ∈ functionWords) :
    Text.upper word ∉ typeWords ∧
      ∀ r ls, wordForm .generic r ⟨word, none⟩ ls = .ok (none, ls) := by
  simp only [functionWords, List.mem_cons, List.not_mem_nil, or_false] at h
  rcases h with rfl | rfl | rfl | rfl | rfl | rfl | rfl | rfl | rfl | rfl | rfl | rfl | rfl | rfl |
    rfl | rfl <;> exact ⟨by decide, fun _ _ => rfl⟩

/-- Arguments up to the closing parenthesis, which nothing behind it goes on with. -/
theorem functionCall_of_items {d : DialectName} {r : Readings} {name : Ident} {ls : List Lexeme}
    {a : Argument} {items : List (List Lexeme)} {args : List Argument} (hstarts : Starts ls)
    (hclause : ∀ rest, Follows rest → nullClause (ls ++ rest) = .ok ([], ls ++ rest))
    (hfirst : ReadsItem (argument d r) ls a)
    (hmore : List.Forall₂ (ReadsItem (argument d r)) items args) {rest : List Lexeme}
    (hrest : Follows rest) :
    functionCall d r [name] (enclosed (commaLexemes (ls :: items)) ++ rest)
      = .ok (.call (.of [name] (.arguments none [])) (a :: args), rest) := by
  have hclose := follows_rightParen hrest.unbracketed
  obtain ⟨hfollows, -⟩ := follows_commaTail (unbracketed_items hmore) hclose rfl
  have hitems := commaSeparated_items hfirst hmore hclose rfl rfl
  have hlist : argumentList d r (ls ++ (commaTail items ++ .symbol ")" :: rest))
      = .ok (⟨.arguments none [], a :: args, false⟩, rest) := by
    rw [argumentList, bind_of_ok (hclause _ hfollows),
      bind_of_ok (symbol?_of_not_ahead hstarts.rightParen)]
    simp only [Bool.false_eq_true, if_false]
    rw [keyword?, bind_of_ok (keywords?_of_not_ahead (hstarts.isKeyword (by decide) [])), keyword?,
      bind_of_ok (keywords?_of_not_ahead (hstarts.isKeyword (by decide) []))]
    simp only [Bool.and_self, Bool.false_eq_true, if_false]
    rw [bind_of_ok hitems]
    cases d <;> rfl
  have hparen : symbol? "(" rest = .ok (false, rest) :=
    symbol?_of_not_ahead hrest.nameFollows.leftParen
  have hwithin : keywords? ["WITHIN", "GROUP"] rest = .ok (false, rest) :=
    keywords?_of_not_ahead (keywordsAhead_of_headIn hrest.head (by decide) _)
  have hfilter : aggregateFilter d r rest = .ok ("", rest) := by
    have hword : keyword? "FILTER" rest = .ok (false, rest) :=
      keywords?_of_not_ahead (keywordsAhead_of_headIn hrest.head (by decide) _)
    cases d with
    | sqlite | postgres => exact bind_if_false hword
    | generic | mySql => rfl
  have hnulls : nullTreatment rest = .ok (none, rest) := by
    rw [nullTreatment, bind_of_ok (hrest.nameFollows.oneOf? (by decide))]
    rfl
  have hover : overClause d r rest = .ok (none, rest) := by
    have hword : keyword? "OVER" rest = .ok (false, rest) :=
      keywords?_of_not_ahead (keywordsAhead_of_headIn hrest.head (by decide) _)
    rw [overClause, bind_of_ok hword]
    rfl
  have hparts : callParts d r [name]
      (.symbol "(" :: (ls ++ (commaTail items ++ .symbol ")" :: rest)))
      = .ok ((.of [name] (.arguments none []), a :: args), rest) := by
    rw [callParts, bind_of_ok (expectSymbol_self "(" _), bind_of_ok hlist]
    -- in the generic dialect a second list of arguments may stand behind the first
    rcases eq_or_ne d .generic with hgeneric | hgeneric
    on_goal 1 => rw [if_pos hgeneric, bind_of_ok hparen]
    on_goal 2 => rw [if_neg hgeneric]
    all_goals
      simp only [Bool.false_eq_true, if_false, bind_pure]
      rw [bind_of_ok hwithin]
      simp only [Bool.false_eq_true, if_false, bind_pure]
      rw [bind_of_ok hfilter, bind_of_ok hnulls, bind_of_ok hover]
      rfl
  rw [enclosed_append, commaLexemes, List.append_assoc, functionCall, bind_of_ok hparts]
  rfl

theorem unbracketed_enclosed {ls : List Lexeme} (h : Unbracketed ls) : Unbracketed (enclosed ls) := by
  intro hmem
  exact h (by simpa [enclosed] using hmem)

/-- A call of a function by its word. -/
theorem readsOperand_function {n hi : Nat} {word : String} (hword : word ∈ functionWords)
    {ls : List Lexeme} {t : Tree} (hls : Unbracketed ls)
    (h : ∀ op rest, Follows rest →
      functionCall .generic (levelWith n op) [⟨word, none⟩] (enclosed ls ++ rest) = .ok (t, rest)) :
    ReadsOperand n hi (wordLexeme word :: enclosed ls) t := by
  obtain ⟨htype, hform⟩ := functionWords_forms hword
  intro rest hrest _
  have htyped : ∀ r, typedConstant .generic r (wordLexeme word :: (enclosed ls ++ rest))
      = .error .mismatch := fun r =>
    @typedConstant_form .generic ⟨word, none⟩ htype r _ ((unbracketed_enclosed hls).append hrest.unbracketed)
  refine operand_of_plain htyped fun op => ?_
  have hname : nameForm .generic (levelWith n op) ⟨word, none⟩ (enclosed ls ++ rest)
      = .ok (t, rest) := h op rest hrest
  have hread : wordOperand .generic (levelWith n op) ⟨word, none⟩ (enclosed ls ++ rest)
      = .ok (t, rest) := by
    rw [wordOperand_of_no_form (hform _ _), bind_of_ok hname, collated_of_follows hrest]
  exact (plainOperand_word _ _ _ _).trans hread

namespace ReadsOperand

variable {n hi : Nat}

/-- A function of one or more arguments. -/
theorem call {word : String} (hword : word ∈ functionWords) {items : List (List Lexeme)}
    {ts : List Tree} (hne : items ≠ [])
    (h : List.Forall₂ (fun ls t => IsArgument ls ∧ ∃ lo hi', 0 < lo ∧ Reads n lo hi' ls t) items ts) :
    ReadsOperand (n + 1) hi (wordLexeme word :: enclosed (commaLexemes items))
      (.call (.of [⟨word, none⟩] (.arguments none [])) (ts.map .value)) := by
  cases h with
  | nil => exact absurd rfl hne
  | @cons ls t items ts hfirst hmore =>
    obtain ⟨harg, lo, hi', hlo, hread⟩ := hfirst
    have hitems : ∀ op, List.Forall₂ (ReadsItem (argument .generic (levelWith (n + 1) op)))
        items (ts.map .value) := by
      intro op
      rw [List.forall₂_map_right_iff]
      exact hmore.imp fun ls t ⟨harg, lo, hi', hlo, hread⟩ =>
        (hread.readsItem hlo op).argument (by decide) harg
    have hbracket : Unbracketed (commaLexemes (ls :: items)) :=
      hread.unbracketed.append (unbracketed_commaTail (unbracketed_items (hitems Sql.refuse)))
    refine readsOperand_function hword hbracket fun op rest hrest => ?_
    exact functionCall_of_items hread.starts harg.noClause
      ((hread.readsItem hlo op).argument (by decide) harg) (hitems op) hrest

/-- The count of all rows. -/
theorem countAll : ReadsOperand n hi (wordLexeme "COUNT" :: enclosed [.symbol "*"])
    (.call (.of [⟨"COUNT", none⟩] (.arguments none [])) [.everything]) := by
  have hstar : Starts [.symbol "*"] := .cons (by decide) (by decide) []
  refine readsOperand_function (by decide) (by simp [Unbracketed]) fun op rest hrest => ?_
  exact functionCall_of_items hstar (fun _ _ => rfl) ⟨by simp [Unbracketed], fun _ _ _ => rfl⟩ .nil
    hrest

/-! #### Functions of the grammar -/

/-- A part of a text, up to its end or of a given length. -/
theorem substring {lo hi₁ lo' hi₂ : Nat} {ls ms : List Lexeme} {t u : Tree}
    {items : List (List Lexeme)} {length : Option Tree} (ht : Reads n lo hi₁ ls t) (hlo : 0 < lo)
    (hu : Reads n lo' hi₂ ms u) (hlo' : 0 < lo')
    (h : List.Forall₂ (fun ls t => ∃ lo hi', 0 < lo ∧ Reads n lo hi' ls t) items length.toList) :
    ReadsOperand (n + 1) hi (wordLexeme "SUBSTRING" :: enclosed (commaLexemes (ls :: ms :: items)))
      (.substring true t (some u) length) := by
  have hitems : ∀ op, List.Forall₂ (ReadsItem (levelWith (n + 1) op).expression) items
      length.toList :=
    fun op => h.imp fun _ _ ⟨_, _, hlo, hread⟩ => hread.readsItem hlo op
  have htail := unbracketed_items (hitems Sql.refuse)
  have hbracket : Unbracketed (commaLexemes (ls :: ms :: items)) := by
    refine ht.unbracketed.append (unbracketed_commaTail fun ls hls => ?_)
    rcases List.mem_cons.1 hls with rfl | hls
    · exact hu.unbracketed
    · exact htail ls hls
  refine readsOperand_form (by decide) (unbracketed_enclosed hbracket) fun op rest hrest => ?_
  have hclose := follows_rightParen hrest.unbracketed
  obtain ⟨hfollows, hnone⟩ := follows_commaTail htail hclose rfl
  have hsecond : Follows (.symbol "," :: (ms ++ (commaTail items ++ .symbol ")" :: rest))) :=
    ⟨headIn_cons (by decide) _, by
      simpa [Unbracketed] using hu.unbracketed.append hfollows.unbracketed⟩
  have hread := (ht.readsItem hlo op).2 _ hsecond rfl
  have hread' := (hu.readsItem hlo' op).2 _ hfollows hnone
  have hlexemes : enclosed (commaLexemes (ls :: ms :: items)) ++ rest
      = .symbol "(" :: (ls ++ .symbol "," :: (ms ++ (commaTail items ++ .symbol ")" :: rest))) := by
    simp [enclosed, commaLexemes, commaTail]
  have hbody : substringBody (levelWith (n + 1) op)
      (enclosed (commaLexemes (ls :: ms :: items)) ++ rest)
      = .ok (.substring true t (some u) length, rest) := by
    rw [hlexemes, substringBody]
    refine inParens_of_ok ?_
    rw [bind_of_ok hread, bind_of_ok (symbol?_self "," _)]
    simp only [if_true]
    rw [bind_of_ok hread', bind_pure]
    cases length with
    | none =>
      cases h
      rfl
    | some v =>
      obtain ⟨vs, rfl, hread''⟩ : ∃ vs, items = [vs] ∧
          ReadsItem (levelWith (n + 1) op).expression vs v := by
        cases hitems op with
        | cons hv hnil =>
          cases hnil
          exact ⟨_, rfl, hv⟩
      have hlast : commaTail [vs] ++ .symbol ")" :: rest
          = .symbol "," :: (vs ++ .symbol ")" :: rest) := by
        simp [commaTail]
      have hfor : keyword? "FOR" (.symbol "," :: (vs ++ .symbol ")" :: rest))
          = .ok (false, .symbol "," :: (vs ++ .symbol ")" :: rest)) := rfl
      rw [hlast, bind_of_ok hfor]
      simp only [Bool.false_eq_true, if_false]
      rw [bind_of_ok (symbol?_self "," _)]
      simp only [if_true]
      rw [bind_of_ok (hread''.2 _ hclose rfl)]
      rfl
  exact bind_of_ok hbody

/-- A text without the blanks at its ends. -/
theorem trim {lo hi' : Nat} {ls : List Lexeme} {t : Tree} (h : Reads n lo hi' ls t)
    (hlo : 0 < lo) : ReadsOperand (n + 1) hi (wordLexeme "TRIM" :: enclosed ls) (.trim t []) := by
  refine readsOperand_form (by decide) (unbracketed_enclosed h.unbracketed) fun op rest hrest => ?_
  have hclose := follows_rightParen hrest.unbracketed
  have hread := (h.readsItem hlo op).2 _ hclose rfl
  have hbody : trimBody .generic (levelWith (n + 1) op) (enclosed ls ++ rest)
      = .ok (.trim t [], rest) := by
    rw [enclosed_append, trimBody]
    refine inParens_of_ok ?_
    rw [bind_of_ok (h.starts.oneOf? (by decide))]
    simp only []
    rw [bind_of_ok hread]
    rfl
  exact bind_of_ok hbody

/-- A number rounded up or down. -/
theorem rounding {lo hi' : Nat} {word : String} (hword : word ∈ ["CEIL", "FLOOR"])
    {ls : List Lexeme} {t : Tree} (h : Reads n lo hi' ls t) (hlo : 0 < lo) :
    ReadsOperand (n + 1) hi (wordLexeme word :: enclosed ls) (.rounding word t "") := by
  have hform : Text.upper word ∉ typeWords ∧ ∀ r ls, wordForm .generic r ⟨word, none⟩ ls
      = (roundingBody .generic r word >>= fun t => pure (some t)) ls := by
    simp only [List.mem_cons, List.not_mem_nil, or_false] at hword
    rcases hword with rfl | rfl <;> exact ⟨by decide, fun _ _ => rfl⟩
  refine readsOperand_form hform.1 (unbracketed_enclosed h.unbracketed) fun op rest hrest => ?_
  have hclose := follows_rightParen hrest.unbracketed
  have hread := (h.readsItem hlo op).2 _ hclose rfl
  have hbody : roundingBody .generic (levelWith (n + 1) op) word (enclosed ls ++ rest)
      = .ok (.rounding word t "", rest) := by
    rw [enclosed_append, roundingBody]
    refine inParens_of_ok ?_
    rw [bind_of_ok hread]
    rfl
  rw [hform.2]
  exact bind_of_ok hbody

end ReadsOperand

/-! ### Conditionals -/

/-- The lexemes of a branch. -/
def branchLexemes (condition value : List Lexeme) : List Lexeme :=
  wordLexeme "WHEN" :: (condition ++ wordLexeme "THEN" :: value)

/-- The lexemes behind the branches of a conditional. -/
def caseEnd (default : Option (List Lexeme)) (rest : List Lexeme) : List Lexeme :=
  ((default.map (wordLexeme "ELSE" :: ·)).getD []) ++ wordLexeme "END" :: rest

/-- Something that a conditional goes on with. -/
def GoesOn (rest : List Lexeme) : Prop := Follows rest ∧ precedence .generic rest = 0

theorem goesOn_word {word : String} (hword : word ∈ ["WHEN", "THEN", "ELSE", "END"])
    {rest : List Lexeme} (hrest : Unbracketed rest) : GoesOn (wordLexeme word :: rest) := by
  have hall : ∀ word ∈ ["WHEN", "THEN", "ELSE", "END"], wordLexeme word ∈ followers := by decide
  refine ⟨⟨headIn_cons (hall word hword) rest, ?_⟩, ?_⟩
  · intro hmem
    exact hrest (by simpa [wordLexeme] using hmem)
  · simp only [List.mem_cons, List.not_mem_nil, or_false] at hword
    rcases hword with rfl | rfl | rfl | rfl <;> rfl

/-- The lexemes are an expression of the level below, whatever its operators are. -/
def ReadsWhole (n : Nat) (ls : List Lexeme) (t : Tree) : Prop :=
  ∃ lo hi, 0 < lo ∧ Reads n lo hi ls t

theorem ReadsWhole.unbracketed {n : Nat} {ls : List Lexeme} {t : Tree} (h : ReadsWhole n ls t) :
    Unbracketed ls := by
  obtain ⟨_, _, -, h⟩ := h
  exact h.unbracketed

theorem ReadsWhole.expression {n : Nat} {ls : List Lexeme} {t : Tree} (h : ReadsWhole n ls t)
    (op : Parse Tree) {rest : List Lexeme} (hrest : GoesOn rest) :
    (levelWith (n + 1) op).expression (ls ++ rest) = .ok (t, rest) := by
  obtain ⟨_, _, hlo, h⟩ := h
  exact (h.readsItem hlo op).2 rest hrest.1 hrest.2

/-- The lexemes are a condition and a value. -/
structure ReadsBranch (n : Nat) (cs vs : List Lexeme) (branch : Tree × Tree) : Prop where
  condition : ReadsWhole n cs branch.1
  value : ReadsWhole n vs branch.2

/-- A condition and a value, as the grammar takes them behind the word of their branch. -/
def branchOf (r : Readings) : Parse (Tree × Tree) := do
  let condition ← r.expression
  expectKeyword "THEN"
  return (condition, ← r.expression)

/-- A further branch, as the grammar takes it. -/
def furtherBranch (r : Readings) : Parse (Option (Tree × Tree)) := do
  if ← keyword? "WHEN" then return some (← branchOf r) else return none

section Case

variable {n : Nat} {op : Parse Tree} {cs vs : List Lexeme} {branch : Tree × Tree}

theorem ReadsBranch.unbracketed (h : ReadsBranch n cs vs branch) :
    Unbracketed (branchLexemes cs vs) := by
  have hparts : Unbracketed (cs ++ vs) := h.condition.unbracketed.append h.value.unbracketed
  intro hmem
  exact hparts (by simpa [branchLexemes, wordLexeme] using hmem)

theorem ReadsBranch.goesOn (h : ReadsBranch n cs vs branch) {rest : List Lexeme}
    (hrest : GoesOn rest) : GoesOn (branchLexemes cs vs ++ rest) := by
  have hbracket := h.unbracketed.append hrest.1.unbracketed
  exact goesOn_word (by decide) fun hmem => hbracket (List.mem_cons_of_mem _ hmem)

theorem branchOf_of_readsBranch (h : ReadsBranch n cs vs branch) {rest : List Lexeme}
    (hrest : GoesOn rest) :
    branchOf (levelWith (n + 1) op) (cs ++ wordLexeme "THEN" :: (vs ++ rest))
      = .ok (branch, rest) := by
  have hthen : GoesOn (wordLexeme "THEN" :: (vs ++ rest)) :=
    goesOn_word (by decide) (h.value.unbracketed.append hrest.1.unbracketed)
  rw [branchOf, bind_of_ok (h.condition.expression op hthen),
    bind_of_ok (expectKeyword_of_eq rfl _), bind_of_ok (h.value.expression op hrest)]
  rfl

theorem furtherBranch_of_readsBranch (h : ReadsBranch n cs vs branch) {rest : List Lexeme}
    (hrest : GoesOn rest) :
    furtherBranch (levelWith (n + 1) op) (branchLexemes cs vs ++ rest)
      = .ok (some branch, rest) := by
  have hlexemes : branchLexemes cs vs ++ rest
      = wordLexeme "WHEN" :: (cs ++ wordLexeme "THEN" :: (vs ++ rest)) := by
    simp [branchLexemes]
  rw [hlexemes, furtherBranch, bind_of_ok (keyword?_of_eq rfl _)]
  simp only [if_true]
  exact bind_of_ok (branchOf_of_readsBranch h hrest)

/-- The default and the end of a conditional. -/
theorem goesOn_caseEnd {default : Option (List Lexeme)} {otherwise : Option Tree}
    (h : Option.Rel (ReadsWhole n) default otherwise) {rest : List Lexeme}
    (hrest : Unbracketed rest) : GoesOn (caseEnd default rest) := by
  have hend : GoesOn (wordLexeme "END" :: rest) := goesOn_word (by decide) hrest
  cases h with
  | none => exact hend
  | some h => exact goesOn_word (by decide) (h.unbracketed.append hend.1.unbracketed)

/-- The branches, the default and the end of a conditional behind its word. -/
theorem caseBody_of_branches {parts : List (List Lexeme × List Lexeme)}
    {branches : List (Tree × Tree)} {default : Option (List Lexeme)} {otherwise : Option Tree}
    (hfirst : ReadsBranch n cs vs branch)
    (hmore : List.Forall₂ (fun part branch => ReadsBranch n part.1 part.2 branch) parts branches)
    (hdefault : Option.Rel (ReadsWhole n) default otherwise) {rest : List Lexeme}
    (hrest : Unbracketed rest) :
    caseBody (levelWith (n + 1) op) (branchLexemes cs vs ++
      ((parts.map fun part => branchLexemes part.1 part.2).flatten ++ caseEnd default rest))
      = .ok (.case none (branch :: branches) otherwise, rest) := by
  have hend := goesOn_caseEnd hdefault hrest
  have hchunks : List.Forall₂ (fun ls branch => ∀ rest, GoesOn rest →
      furtherBranch (levelWith (n + 1) op) (ls ++ rest) = .ok (some branch, rest) ∧
        GoesOn (ls ++ rest)) (parts.map fun part => branchLexemes part.1 part.2) branches := by
    rw [List.forall₂_map_left_iff]
    exact hmore.imp fun _ _ h rest hrest => ⟨furtherBranch_of_readsBranch h hrest, h.goesOn hrest⟩
  have hnone : furtherBranch (levelWith (n + 1) op) (caseEnd default rest)
      = .ok (none, caseEnd default rest) := by
    cases default <;> rfl
  have hne : ∀ ls ∈ parts.map fun part => branchLexemes part.1 part.2, ls ≠ [] := by
    intro ls hls
    obtain ⟨part, -, rfl⟩ := List.mem_map.1 hls
    exact List.cons_ne_nil _ _
  obtain ⟨hrepeated, hgoesOn⟩ := repeated_chunks hchunks hnone hend
    (length_le_flatten hne (caseEnd default rest))
  have hlexemes : ∀ tail, branchLexemes cs vs ++ tail
      = wordLexeme "WHEN" :: (cs ++ wordLexeme "THEN" :: (vs ++ tail)) := by
    simp [branchLexemes]
  rw [hlexemes, caseBody, bind_of_ok (keyword?_of_eq rfl _)]
  simp only [if_true]
  rw [bind_pure]
  refine (bind_of_ok (branchOf_of_readsBranch hfirst hgoesOn)).trans ?_
  rw [bind_remaining]
  refine (bind_of_ok hrepeated).trans ?_
  cases hdefault with
  | none => rfl
  | some h =>
    have hword : GoesOn (wordLexeme "END" :: rest) := goesOn_word (by decide) hrest
    refine (bind_of_ok (keyword?_of_eq rfl _)).trans ?_
    simp only [if_true]
    refine (bind_of_ok (h.expression op hword)).trans ?_
    rfl

theorem unbracketed_branches {parts : List (List Lexeme × List Lexeme)}
    {branches : List (Tree × Tree)}
    (h : List.Forall₂ (fun part branch => ReadsBranch n part.1 part.2 branch) parts branches) :
    Unbracketed (parts.map fun part => branchLexemes part.1 part.2).flatten := by
  induction h with
  | nil => exact List.not_mem_nil
  | cons hbranch _ ih => exact hbranch.unbracketed.append ih

end Case

/-- A conditional. -/
theorem ReadsOperand.case {n hi : Nat} {parts : List (List Lexeme × List Lexeme)}
    {branches : List (Tree × Tree)} {default : Option (List Lexeme)} {otherwise : Option Tree}
    (hne : parts ≠ [])
    (hbranches : List.Forall₂ (fun part branch => ReadsBranch n part.1 part.2 branch) parts branches)
    (hdefault : Option.Rel (ReadsWhole n) default otherwise) :
    ReadsOperand (n + 1) hi (wordLexeme "CASE" ::
      ((parts.map fun part => branchLexemes part.1 part.2).flatten ++ caseEnd default []))
      (.case none branches otherwise) := by
  obtain ⟨part, parts, rfl⟩ := List.exists_cons_of_ne_nil hne
  obtain ⟨branch, branches, hfirst, hmore, rfl⟩ := List.forall₂_cons_left_iff.1 hbranches
  have htail : ∀ rest, caseEnd default [] ++ rest = caseEnd default rest := by
    intro rest
    simp [caseEnd]
  have hlexemes : ∀ rest, (((part :: parts).map fun part => branchLexemes part.1 part.2).flatten
      ++ caseEnd default []) ++ rest = branchLexemes part.1 part.2 ++
        ((parts.map fun part => branchLexemes part.1 part.2).flatten ++ caseEnd default rest) := by
    intro rest
    rw [List.append_assoc, htail, List.map_cons, List.flatten_cons, List.append_assoc]
  have hbracket : Unbracketed (((part :: parts).map fun part =>
      branchLexemes part.1 part.2).flatten ++ caseEnd default []) := by
    refine (unbracketed_branches hbranches).append ?_
    exact (goesOn_caseEnd hdefault List.not_mem_nil).1.unbracketed
  refine readsOperand_form (by decide) hbracket fun op rest hrest => ?_
  have hbody := @caseBody_of_branches _ op _ _ _ _ _ _ _ hfirst hmore hdefault _ hrest.unbracketed
  rw [hlexemes]
  exact bind_of_ok hbody

end Polyquery.Sql
