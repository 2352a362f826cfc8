import Mathlib.Data.List.Forall2
import Polyquery.Proofs.Sql.Naming

/-!
# Operators around operands

An expression is read from its first operand on, one operator after the other, for as long as the
operators bind more tightly than what stands in front.  So what can be put together without
parentheses depends on two numbers: the strength of the loosest operator that is open to what stands
in front (`lo`), and of the loosest operator that still takes operators behind it (`hi`).

* `Reads n lo hi ls t` - at `n` levels the lexemes `ls` are the tree `t`, behind operators weaker than
  `lo` and in front of operators of strength at most `hi`;
* `Reads.subexpression` - such lexemes are read as a whole;
* `Reads.binary`, `Reads.chain`, `Reads.isNull` - operators behind an operand;
* `ReadsOperand.not`, `ReadsOperand.minus`, `ReadsOperand.nested` - operators in front of one, and
  parentheses.
-/

namespace Polyquery.Sql

/-! ### Lexemes in front -/

/-- Words that the grammar looks for in front of some operands. -/
def leadingWords : List String :=
  ["SELECT", "WITH", "ANY", "ALL", "SOME", "EXISTS", "DISTINCT", "BOTH", "LEADING", "TRAILING"]

/-- The lexeme in front starts an operand and nothing else. -/
structure Starts (ls : List Lexeme) : Prop where
  ne_nil : ls ≠ []
  noWord : ∀ l ∈ ls.head?, l.isOneOf leadingWords = false
  noParen : ∀ l ∈ ls.head?, l ≠ .symbol ")"

namespace Starts

variable {ls rest : List Lexeme}

theorem cons {l : Lexeme} (hword : l.isOneOf leadingWords = false) (hclose : l ≠ .symbol ")")
    (ls : List Lexeme) : Starts (l :: ls) := by
  refine ⟨List.cons_ne_nil _ _, ?_, ?_⟩
  · intro m hm
    obtain rfl : l = m := by simpa using hm
    exact hword
  · intro m hm
    obtain rfl : l = m := by simpa using hm
    exact hclose

theorem append (h : Starts ls) (rest : List Lexeme) : Starts (ls ++ rest) := by
  obtain ⟨hne, hword, hclose⟩ := h
  cases ls with
  | nil => exact absurd rfl hne
  | cons l ls => exact cons (hword l rfl) (hclose l rfl) _

theorem isKeyword (h : Starts ls) {word : String} (hword : word ∈ leadingWords) (words : List String) :
    keywordsAhead (word :: words) (ls ++ rest) = false := by
  obtain ⟨hne, hwords, -⟩ := h
  cases ls with
  | nil => exact absurd rfl hne
  | cons l ls =>
    have hl := hwords l rfl
    have hnot : l.isKeyword word = false := by
      unfold Lexeme.isKeyword
      unfold Lexeme.isOneOf at hl
      cases hkey : l.keyword? with
      | none => simp
      | some key =>
        rw [hkey] at hl
        simp only [Option.some.injEq, decide_eq_false_iff_not]
        rintro rfl
        simp [hword] at hl
    rw [List.cons_append, keywordsAhead, hnot, Bool.false_and]

theorem rightParen (h : Starts ls) : symbolAhead ")" (ls ++ rest) = false := by
  obtain ⟨hne, -, hparen⟩ := h
  cases ls with
  | nil => exact absurd rfl hne
  | cons l ls =>
    rw [List.cons_append, symbolAhead, decide_eq_false_iff_not, List.head?_cons, Option.some.injEq]
    exact hparen l rfl

theorem oneOf? (h : Starts ls) {words : List String} (hwords : ∀ word ∈ words, word ∈ leadingWords) :
    Sql.oneOf? words (ls ++ rest) = .ok (none, ls ++ rest) := by
  obtain ⟨hne, hlead, -⟩ := h
  cases ls with
  | nil => exact absurd rfl hne
  | cons l ls =>
    have hl := hlead l rfl
    have hnot : l.isOneOf words = false := by
      unfold Lexeme.isOneOf at hl ⊢
      cases hkey : l.keyword? with
      | none => rfl
      | some key =>
        rw [hkey] at hl
        have hkey' : key ∉ leadingWords := by simpa using hl
        simpa using fun hmem => hkey' (hwords key hmem)
    rw [List.cons_append, Sql.oneOf?, bind_get]
    simp only [hnot]
    rfl

end Starts

/-! ### Reading from the first operand on -/

/-- At a number of levels the lexemes are a tree, behind operators weaker than `lo` and in front of
operators of strength at most `hi`: the reading comes to the operators behind the tree. -/
structure Reads (n lo hi : Nat) (ls : List Lexeme) (t : Tree) : Prop where
  opens : ∀ s < lo, ∀ rest, Follows rest → precedence .generic rest ≤ hi →
    ∃ fuel, rest.length ≤ fuel ∧ subexpression .generic (level n) s (ls ++ rest)
      = operatorChain .generic (level n) s fuel t rest
  starts : Starts ls
  unbracketed : Unbracketed ls

theorem operatorChain_stop {d : DialectName} {r : Readings} {strength : Nat} {rest : List Lexeme}
    (h : precedence d rest ≤ strength) (fuel : Nat) (t : Tree) :
    operatorChain d r strength fuel t rest = .ok (t, rest) := by
  cases fuel with
  | zero => rfl
  | succ fuel =>
    rw [operatorChain, bind_get]
    simp only [if_pos h]
    rfl

theorem operatorChain_step {r : Readings} {strength : Nat} {ls rest : List Lexeme} {t t' : Tree}
    (h : strength < precedence .generic ls)
    (hstep : operatorStep .generic r (precedence .generic ls) t ls = .ok (t', rest)) (fuel : Nat) :
    operatorChain .generic r strength (fuel + 1) t ls
      = operatorChain .generic r strength fuel t' rest := by
  rw [operatorChain, bind_get]
  simp only [if_neg (Nat.not_le.2 h)]
  rw [bind_of_ok hstep]

namespace Reads

variable {n lo hi : Nat} {ls : List Lexeme} {t : Tree}

/-- A single operand is open to no operator in front of it. -/
theorem of_operand (h : ReadsOperand n hi ls t) (hstarts : Starts ls) (hbracket : Unbracketed ls)
    (lo : Nat) : Reads n lo hi ls t := by
  refine ⟨fun s _ rest hrest hp => ⟨rest.length, Nat.le_refl _, ?_⟩, hstarts, hbracket⟩
  have hoperand : (level n).operand (ls ++ rest) = .ok (t, rest) := h rest hrest hp
  rw [subexpression, bind_of_ok hoperand, bind_remaining]

/-- What is open to less reads where what is open to more does. -/
theorem weaken (h : Reads n lo hi ls t) {lo' hi' : Nat} (hlo : lo' ≤ lo) (hhi : hi' ≤ hi) :
    Reads n lo' hi' ls t :=
  ⟨fun s hs rest hrest hp => h.opens s (Nat.lt_of_lt_of_le hs hlo) rest hrest (Nat.le_trans hp hhi),
    h.starts, h.unbracketed⟩

/-- The lexemes are read as a whole where the operator behind them binds no more tightly than what
stands in front. -/
theorem subexpression (h : Reads n lo hi ls t) {strength : Nat} (hs : strength < lo)
    {rest : List Lexeme} (hrest : Follows rest) (hp : precedence .generic rest ≤ strength)
    (hhi : precedence .generic rest ≤ hi) :
    Sql.subexpression .generic (level n) strength (ls ++ rest) = .ok (t, rest) := by
  obtain ⟨fuel, -, hread⟩ := h.opens strength hs rest hrest hhi
  rw [hread, operatorChain_stop hp]

/-- In front of no operator the lexemes are an expression. -/
theorem expression (h : Reads n lo hi ls t) (hlo : 0 < lo) {rest : List Lexeme}
    (hrest : Follows rest) (hp : precedence .generic rest = 0) :
    (level (n + 1)).expression (ls ++ rest) = .ok (t, rest) :=
  h.subexpression hlo hrest (Nat.le_of_eq hp) (by omega)

end Reads

/-! ### Operators between two operands -/

/-- The tree of an operator between two operands. -/
def operatorTree (op : BinaryOp ⊕ ChainOp) (left right : Tree) : Tree :=
  match op with
  | .inl op => .binary op left right
  | .inr op => .joined op left right

/-- A lexeme that is an operator of the given strength. -/
structure IsOperator (l : Lexeme) (op : BinaryOp ⊕ ChainOp) (strength : Nat) : Prop where
  reads : ∀ ls, binaryOperator? .generic (l :: ls) = .ok (some op, ls)
  strength : ∀ ls, precedence .generic (l :: ls) = strength
  follows : l ∈ followers

/-- The strength of an arithmetic operator. -/
def arithmeticRank : ArithmeticOp → Nat
  | .add | .subtract => 30
  | .multiply | .divide | .modulo => 40

/-- The strength of a connective. -/
def connectiveRank : LogicalOp → Nat
  | .and => 10
  | .or => 5

namespace IsOperator

theorem comparison (op : ComparisonOp) :
    IsOperator (.symbol (comparisonText op)) (.inl (.compare op)) 20 := by
  cases op <;> exact ⟨fun _ => rfl, fun _ => rfl, by decide⟩

theorem arithmetic (op : ArithmeticOp) :
    IsOperator (.symbol (arithmeticText op)) (.inl (.arithmetic op)) (arithmeticRank op) := by
  cases op <;> exact ⟨fun _ => rfl, fun _ => rfl, by decide⟩

theorem concat : IsOperator (.symbol "||") (.inr .concat) 40 :=
  ⟨fun _ => rfl, fun _ => rfl, by decide⟩

theorem connective (op : LogicalOp) :
    IsOperator (wordLexeme (ChainOp.logical op).text) (.inr (.logical op)) (connectiveRank op) := by
  cases op <;> exact ⟨fun _ => rfl, fun _ => rfl, by decide⟩

variable {l : Lexeme} {op : BinaryOp ⊕ ChainOp} {k : Nat}

theorem unbracketed (h : IsOperator l op k) : Unbracketed [l] := by
  have hall : ∀ l ∈ followers, Lexeme.symbol "[" ≠ l := by decide
  simpa [Unbracketed] using hall l h.follows

/-- An operator in front of its right operand follows the left one. -/
theorem follows_cons (h : IsOperator l op k) {ls rest : List Lexeme} (hls : Unbracketed ls)
    (hrest : Follows rest) : Follows (l :: (ls ++ rest)) :=
  ⟨headIn_cons h.follows _, h.unbracketed.append (hls.append hrest.unbracketed)⟩

end IsOperator

/-- An operator with its right operand behind its left one. -/
theorem operatorStep_of_operator {n k lo hi : Nat} {l : Lexeme} {op : BinaryOp ⊕ ChainOp}
    {ls rest : List Lexeme} {t : Tree} (hop : IsOperator l op k) (h : Reads n lo hi ls t)
    (hlo : k < lo) (hrest : Follows rest) (hp : precedence .generic rest ≤ k)
    (hhi : precedence .generic rest ≤ hi) (left : Tree) :
    operatorStep .generic (level (n + 1)) k left (l :: (ls ++ rest))
      = .ok (operatorTree op left t, rest) := by
  have hright : (level (n + 1)).subexpression k (ls ++ rest) = .ok (t, rest) :=
    h.subexpression hlo hrest hp hhi
  have hside : rightSide (level (n + 1)) k left op (ls ++ rest)
      = .ok (operatorTree op left t, rest) := by
    rw [rightSide, bind_of_ok (h.starts.oneOf? (by decide))]
    simp only []
    rw [bind_of_ok hright]
    cases op <;> rfl
  rw [operatorStep, bind_get, bind_of_ok (hop.reads _)]
  exact hside

namespace Reads

variable {n lo hi lo' hi' k : Nat} {l : Lexeme} {op : BinaryOp ⊕ ChainOp} {ls ms : List Lexeme}
  {t u : Tree}

/-- An operator between two operands, the left one open to it from behind and the right one not open
to it from in front. -/
theorem binary (hop : IsOperator l op k) (hl : Reads (n + 1) lo hi ls t) (hhi : k ≤ hi)
    (hr : Reads n lo' hi' ms u) (hlo : k < lo') :
    Reads (n + 1) (min lo k) (min hi' k) (ls ++ l :: ms) (operatorTree op t u) := by
  refine ⟨fun s hs rest hrest hp => ?_, hl.starts.append _,
    hl.unbracketed.append (hop.unbracketed.append hr.unbracketed)⟩
  have hp' : precedence .generic (l :: (ms ++ rest)) = k := hop.strength _
  obtain ⟨fuel, hfuel, hread⟩ := hl.opens s (by omega) (l :: (ms ++ rest))
    (hop.follows_cons hr.unbracketed hrest) (by omega)
  obtain ⟨fuel, rfl⟩ : ∃ m, fuel = m + 1 := by
    rw [List.length_cons] at hfuel
    exact ⟨fuel - 1, by omega⟩
  have hstep := operatorStep_of_operator hop hr hlo hrest (by omega) (by omega) t
  refine ⟨fuel, ?_, ?_⟩
  · rw [List.length_cons, List.length_append] at hfuel
    omega
  · rw [List.append_assoc, List.cons_append, hread]
    rw [← hp'] at hstep
    exact operatorChain_step (by omega) hstep fuel

/-- A test for null behind its operand. -/
theorem isNull (h : Reads n lo hi ls t) (hhi : 17 ≤ hi) (hi' : Nat) :
    Reads n (min lo 17) hi' (ls ++ [wordLexeme "IS", wordLexeme "NULL"]) (.isNull false t) := by
  have htail : Unbracketed [wordLexeme "IS", wordLexeme "NULL"] := by
    simp [Unbracketed, wordLexeme]
  refine ⟨fun s hs rest hrest hp => ?_, h.starts.append _, h.unbracketed.append htail⟩
  have hp' : precedence .generic (wordLexeme "IS" :: wordLexeme "NULL" :: rest) = 17 := rfl
  obtain ⟨fuel, hfuel, hread⟩ := h.opens s (by omega)
    (wordLexeme "IS" :: wordLexeme "NULL" :: rest)
    ⟨headIn_cons (by decide) _, htail.append hrest.unbracketed⟩ (by omega)
  obtain ⟨fuel, rfl⟩ : ∃ m, fuel = m + 1 := by
    rw [List.length_cons] at hfuel
    exact ⟨fuel - 1, by omega⟩
  refine ⟨fuel, ?_, ?_⟩
  · simp only [List.length_cons] at hfuel
    omega
  · rw [List.append_assoc]
    exact hread.trans (operatorChain_step (by omega) rfl fuel)

/-- A chain of one operator between several operands, from the first one on. -/
theorem chain {op : ChainOp} (hop : IsOperator l (.inr op) k) {mss : List (List Lexeme)}
    {us : List Tree} (hl : Reads (n + 1) lo hi ls t) (hhi : k ≤ hi)
    (hr : List.Forall₂ (fun ms u => ∃ lo' hi', k < lo' ∧ k ≤ hi' ∧ Reads n lo' hi' ms u) mss us) :
    Reads (n + 1) (min lo k) k (ls ++ mss.flatMap (l :: ·)) (us.foldl (Tree.joined op) t) := by
  induction hr generalizing lo hi ls t with
  | nil =>
    rw [List.flatMap_nil, List.append_nil]
    exact hl.weaken (Nat.min_le_left _ _) hhi
  | @cons ms u mss us hfirst _ ih =>
    obtain ⟨lo', hi', hlo', hhi', hu⟩ := hfirst
    have hstep := binary hop hl hhi hu hlo'
    have hmore := ih hstep (Nat.le_min.2 ⟨hhi', Nat.le_refl k⟩)
    rw [List.append_assoc] at hmore
    rw [List.flatMap_cons]
    exact hmore.weaken (by omega) (Nat.le_refl k)

end Reads

/-! ### Operators in front of an operand -/

theorem typedConstant_symbol (r : Readings) (text : String) (ls : List Lexeme) :
    typedConstant .generic r (.symbol text :: ls) = .error .mismatch := rfl

namespace ReadsOperand

variable {n lo hi : Nat} {ls : List Lexeme} {t : Tree}

/-- A negation takes all operators that bind more tightly than it does. -/
theorem not (h : Reads n lo hi ls t) (hlo : 15 < lo) :
    ReadsOperand (n + 1) (min hi 15) (wordLexeme "NOT" :: ls) (.unary .not t) := by
  intro rest hrest hp
  refine operand_of_plain (fun op => typedConstant_form (by decide) _
    (h.unbracketed.append hrest.unbracketed)) fun op => ?_
  have hexists : keyword? "EXISTS" (ls ++ rest) = .ok (false, ls ++ rest) :=
    keywords?_of_not_ahead (h.starts.isKeyword (by decide) [])
  have hoperand : (levelWith (n + 1) op).subexpression 15 (ls ++ rest)
      = .ok (t, rest) := by
    rw [subexpression_levelWith]
    exact h.subexpression hlo hrest (by omega) (by omega)
  have hbody : negationBody .generic (levelWith (n + 1) op) (ls ++ rest)
      = .ok (.unary .not t, rest) := by
    rw [negationBody, bind_of_ok hexists]
    exact bind_of_ok hoperand
  have hform : wordForm .generic (levelWith (n + 1) op) ⟨"NOT", none⟩ (ls ++ rest)
      = .ok (some (.unary .not t), rest) := bind_of_ok hbody
  exact (plainOperand_word _ _ _ _).trans (wordOperand_of_form hform hrest)

/-- A minus sign takes all operators that bind more tightly than a product. -/
theorem minus (h : Reads n lo hi ls t) (hlo : 40 < lo) :
    ReadsOperand (n + 1) (min hi 40) (.symbol "-" :: ls) (.unary .minus t) := by
  intro rest hrest hp
  refine operand_of_plain (fun op => typedConstant_symbol _ _ _) fun op => ?_
  have hoperand : (levelWith (n + 1) op).subexpression 40 (ls ++ rest)
      = .ok (t, rest) := by
    rw [subexpression_levelWith]
    exact h.subexpression hlo hrest (by omega) (by omega)
  have hsign : symbolOperand .generic (levelWith (n + 1) op) "-" (ls ++ rest)
      = .ok (.unary .minus t, rest) := bind_of_ok hoperand
  show (symbolOperand .generic (levelWith (n + 1) op) "-" >>= collated) (ls ++ rest) = _
  rw [bind_of_ok hsign, collated_of_follows hrest]

end ReadsOperand

/-! ### Items with commas between them -/

section Commas

variable {α : Type} {item : Parse α}

/-- The lexemes are an item in front of no operator. -/
def ReadsItem (item : Parse α) (ls : List Lexeme) (a : α) : Prop :=
  Unbracketed ls ∧ ∀ rest, Follows rest → precedence .generic rest = 0 →
    item (ls ++ rest) = .ok (a, rest)

/-- Items behind others, each with its comma. -/
def commaTail (items : List (List Lexeme)) : List Lexeme := items.flatMap (.symbol "," :: ·)

theorem unbracketed_commaTail {items : List (List Lexeme)} (h : ∀ ls ∈ items, Unbracketed ls) :
    Unbracketed (commaTail items) := by
  intro hmem
  obtain ⟨ls, hls, hin⟩ := List.mem_flatMap.1 hmem
  exact h ls hls (by simpa using hin)

theorem follows_commaTail {items : List (List Lexeme)} {rest : List Lexeme}
    (h : ∀ ls ∈ items, Unbracketed ls) (hrest : Follows rest)
    (hp : precedence .generic rest = 0) :
    Follows (commaTail items ++ rest) ∧ precedence .generic (commaTail items ++ rest) = 0 := by
  cases items with
  | nil => exact ⟨hrest, hp⟩
  | cons ls items =>
    exact ⟨⟨headIn_cons (by decide) _, (unbracketed_commaTail h).append hrest.unbracketed⟩, rfl⟩

theorem unbracketed_items {items : List (List Lexeme)} {values : List α}
    (h : List.Forall₂ (ReadsItem item) items values) : ∀ ls ∈ items, Unbracketed ls := by
  induction h with
  | nil => exact fun _ hls => absurd hls List.not_mem_nil
  | cons hfirst _ ih =>
    intro ls hls
    rcases List.mem_cons.1 hls with rfl | hls
    · exact hfirst.1
    · exact ih ls hls

/-- Further items after commas, up to something that is none. -/
theorem commaRest_items {items : List (List Lexeme)} {values : List α}
    (h : List.Forall₂ (ReadsItem item) items values) {rest : List Lexeme} (hrest : Follows rest)
    (hp : precedence .generic rest = 0) (hcomma : symbolAhead "," rest = false) {n : Nat}
    (hn : items.length ≤ n) :
    commaRest item n (commaTail items ++ rest) = .ok (values, rest) := by
  induction h generalizing n with
  | nil => exact commaRest_of_not_ahead item hcomma n
  | @cons ls a items values hfirst hmore ih =>
    cases n with
    | zero => exact absurd hn (by simp)
    | succ n =>
      obtain ⟨hfollows, hnone⟩ := follows_commaTail (unbracketed_items hmore) hrest hp
      have hitem := hfirst.2 _ hfollows hnone
      have htail : commaTail (ls :: items) ++ rest
          = .symbol "," :: (ls ++ (commaTail items ++ rest)) := by
        simp [commaTail]
      rw [htail, commaRest, bind_of_ok (symbol?_self "," _)]
      show (item >>= _) (ls ++ (commaTail items ++ rest)) = _
      rw [bind_of_ok hitem, bind_of_ok (ih (Nat.le_of_succ_le_succ hn))]
      rfl

theorem length_le_commaTail (items : List (List Lexeme)) (rest : List Lexeme) :
    items.length ≤ (commaTail items ++ rest).length := by
  induction items with
  | nil => exact Nat.zero_le _
  | cons ls items ih =>
    simp only [commaTail, List.flatMap_cons, List.length_append, List.length_cons] at ih ⊢
    omega

/-- One item or several. -/
theorem commaSeparated_items {ls : List Lexeme} {a : α} (hfirst : ReadsItem item ls a)
    {items : List (List Lexeme)} {values : List α}
    (h : List.Forall₂ (ReadsItem item) items values) {rest : List Lexeme} (hrest : Follows rest)
    (hp : precedence .generic rest = 0) (hcomma : symbolAhead "," rest = false) :
    commaSeparated item (ls ++ (commaTail items ++ rest)) = .ok (a :: values, rest) := by
  obtain ⟨hfollows, hnone⟩ := follows_commaTail (unbracketed_items h) hrest hp
  have hlength : items.length ≤ (ls ++ (commaTail items ++ rest)).length := by
    have := length_le_commaTail items rest
    rw [List.length_append]
    omega
  rw [commaSeparated, bind_remaining, bind_of_ok (hfirst.2 _ hfollows hnone),
    bind_of_ok (commaRest_items h hrest hp hcomma hlength)]
  rfl

end Commas

/-! ### Parentheses -/

/-- Lexemes between parentheses. -/
def enclosed (ls : List Lexeme) : List Lexeme := .symbol "(" :: (ls ++ [.symbol ")"])

theorem enclosed_append (ls rest : List Lexeme) :
    enclosed ls ++ rest = .symbol "(" :: (ls ++ .symbol ")" :: rest) := by
  simp [enclosed]

theorem follows_rightParen {rest : List Lexeme} (h : Unbracketed rest) :
    Follows (.symbol ")" :: rest) := by
  refine ⟨headIn_cons (by decide) rest, ?_⟩
  intro hmem
  exact h (by simpa using hmem)

/-- An expression of the level below is an item. -/
theorem Reads.readsItem {n lo hi : Nat} {ls : List Lexeme} {t : Tree} (h : Reads n lo hi ls t)
    (hlo : 0 < lo) (op : Parse Tree) :
    ReadsItem (levelWith (n + 1) op).expression ls t :=
  ⟨h.unbracketed, fun _ hrest hp => h.expression hlo hrest hp⟩

/-- An expression in parentheses is an operand. -/
theorem ReadsOperand.nested {n lo hi : Nat} {ls : List Lexeme} {t : Tree} (h : Reads n lo hi ls t)
    (hlo : 0 < lo) (hi' : Nat) : ReadsOperand (n + 1) hi' (enclosed ls) (.nested t) := by
  intro rest hrest _
  have hclose := follows_rightParen hrest.unbracketed
  rw [enclosed_append]
  refine operand_of_plain (fun r => typedConstant_symbol r _ _) fun op => ?_
  have hquery : queryAhead (ls ++ .symbol ")" :: rest) = false := by
    rw [queryAhead, h.starts.isKeyword (by decide), h.starts.isKeyword (by decide)]
    rfl
  have hitems : commaSeparated (levelWith (n + 1) op).expression (ls ++ .symbol ")" :: rest)
      = .ok ([t], .symbol ")" :: rest) :=
    commaSeparated_items (h.readsItem hlo op) .nil hclose rfl rfl
  have hpoint : symbolAhead "." rest = false := symbolAhead_of_headIn hrest.head (by decide)
  have hinner : parenthesized (levelWith (n + 1) op) (ls ++ .symbol ")" :: rest)
      = .ok (.nested t, rest) := by
    rw [parenthesized, bind_get]
    simp only [hquery, Bool.false_eq_true, if_false]
    rw [bind_of_ok hitems]
    simp only []
    rw [bind_pure, bind_of_ok (expectSymbol_self ")" rest),
      bind_of_ok (symbol?_of_not_ahead hpoint)]
    rfl
  show (symbolOperand .generic (levelWith (n + 1) op) "(" >>= collated) _ = _
  rw [bind_of_ok (show symbolOperand .generic (levelWith (n + 1) op) "(" _ = _ from hinner),
    collated_of_follows hrest]

end Polyquery.Sql
