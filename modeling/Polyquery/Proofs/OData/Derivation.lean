import Polyquery.OData.Grammar
import Polyquery.OData.Printer

/-!
# Derivations of the expression grammar

The grammar of query options as an inductive relation between phrases and kinds of tokens, with no
bound on nesting and no places of tokens in it.

* `Level` - the levels of the grammar; `Level.Stops` - what ends a phrase of a level;
* `connectiveLevel`, `Chain` - the levels of connectives, and of the two chains of arithmetic;
* `Phrase` - an expression of a level, or one of the lists inside calls, chains and conditionals;
* `Derives` - the rules;
* `Phrase.ReadsKinds` - tokens of given kinds are read as a phrase, and what follows is left alone,
  as long as it does not continue the phrase; each rule keeps it;
* `Derives.reads` - tokens that derive a phrase are read as that phrase;
* `expression_of_derives` - the same for the reader of an expression.

The bound that the readers count down is ten for every token and one for every level.
-/

namespace Polyquery.OData

/-! ### Readers of one token -/

section Tokens

variable {t : Token} {ts : List Token}

theorem eat?_of_eq {k : TokenKind} (h : t.kind = k) : eat? k (t :: ts) = some ts := by
  rw [eat?, if_pos h]

theorem eat?_of_ne {k : TokenKind} (h : t.kind ≠ k) : eat? k (t :: ts) = none := by
  rw [eat?, if_neg h]

theorem name?_of_word {w : String} (h : t.kind = .identifier w) : t.name? = some w := by
  rw [Token.name?, h]

theorem eatKeyword?_of_word {w : String} (h : t.kind = .identifier w) (keyword : String) :
    eatKeyword? keyword (t :: ts) = if Text.asciiLower w = keyword then some ts else none := by
  simp only [eatKeyword?, Token.isKeyword, name?_of_word h, beq_iff_eq]

theorem operator?_of_word {α : Type} {w : String} (h : t.kind = .identifier w)
    (ofWord : String → Option α) :
    operator? ofWord (t :: ts) = (ofWord w).map fun op => (op, ts) := by
  simp only [operator?, name?_of_word h, Option.bind_some]

theorem name?_of_not_word (h : ∀ w, t.kind ≠ .identifier w) : t.name? = none := by
  unfold Token.name?
  split
  · rename_i w hw
    exact absurd hw (h w)
  · rfl

theorem eatKeyword?_of_not_word (h : ∀ w, t.kind ≠ .identifier w) (keyword : String) :
    eatKeyword? keyword (t :: ts) = none := by
  simp [eatKeyword?, Token.isKeyword, name?_of_not_word h]

theorem operator?_of_not_word {α : Type} (h : ∀ w, t.kind ≠ .identifier w)
    (ofWord : String → Option α) : operator? ofWord (t :: ts) = none := by
  simp [operator?, name?_of_not_word h]

theorem expect_of_eq (ctx : Context) {k : TokenKind} (h : t.kind = k) :
    ctx.expect k (t :: ts) = .ok ts := by
  rw [Context.expect, if_pos h]

theorem identifier_of_word (ctx : Context) {w : String} (h : t.kind = .identifier w) :
    ctx.identifier (t :: ts) = .ok (w, ts) := by
  simp only [Context.identifier, name?_of_word h]

end Tokens

/-! ### Levels -/

/-- The levels of the grammar, from loosest to tightest. -/
inductive Level where
  | disjunction | conjunction | negation | comparison | sum | product | primary
deriving DecidableEq

/-- How many levels lie below. -/
def Level.rank : Level → Nat
  | .disjunction => 6
  | .conjunction => 5
  | .negation => 4
  | .comparison => 3
  | .sum => 2
  | .product => 1
  | .primary => 0

/-- The level of a connective. -/
def connectiveLevel : LogicalOp → Level
  | .or => .disjunction
  | .and => .conjunction

/-- The level of the operands that a connective joins. -/
def operandLevel : LogicalOp → Level
  | .or => .conjunction
  | .and => .negation

/-- A connective joins operands of the next tighter level. -/
theorem operandLevel_rank (k : LogicalOp) :
    (connectiveLevel k).rank = (operandLevel k).rank + 1 ∧ 5 ≤ (connectiveLevel k).rank := by
  cases k <;> decide

/-- The chains of arithmetic, which group to the left: sums of products, and products. -/
inductive Chain where
  | sum | product

namespace Chain

/-- The level of a chain. -/
def level : Chain → Level
  | .sum => .sum
  | .product => .product

/-- The level of the operands in a chain. -/
def operand : Chain → Level
  | .sum => .product
  | .product => .primary

/-- The operator of a word in a chain. -/
def operatorOf? : Chain → String → Option ArithmeticOp
  | .sum => additiveOf?
  | .product => multiplicativeOf?

/-- The operands of a chain are of the next tighter level. -/
theorem operand_rank (c : Chain) : c.level.rank = c.operand.rank + 1 ∧ c.level.rank ≤ 2 := by
  cases c <;> decide

end Chain

/-- No token in front continues a phrase of a level. -/
structure Level.Stops (l : Level) (ts : List Token) : Prop where
  noCall : eat? .leftParen ts = none
  noSlash : eat? .slash ts = none
  noFactor : 1 ≤ l.rank → operator? multiplicativeOf? ts = none
  noSummand : 2 ≤ l.rank → operator? additiveOf? ts = none
  noComparison : 3 ≤ l.rank → operator? comparisonOf? ts = none
  noAnd : 5 ≤ l.rank → eatKeyword? "and" ts = none
  noOr : 6 ≤ l.rank → eatKeyword? "or" ts = none

namespace Level.Stops

variable {l m : Level} {t : Token} {ts : List Token}

/-- What ends a phrase ends every tighter one. -/
theorem tighter (h : l.Stops ts) (hm : m.rank ≤ l.rank) : m.Stops ts where
  noCall := h.noCall
  noSlash := h.noSlash
  noFactor hr := h.noFactor (by omega)
  noSummand hr := h.noSummand (by omega)
  noComparison hr := h.noComparison (by omega)
  noAnd hr := h.noAnd (by omega)
  noOr hr := h.noOr (by omega)

theorem nil (l : Level) : l.Stops [] where
  noCall := rfl
  noSlash := rfl
  noFactor _ := rfl
  noSummand _ := rfl
  noComparison _ := rfl
  noAnd _ := rfl
  noOr _ := rfl

/-- Punctuation other than an opening parenthesis and a slash ends every phrase. -/
theorem punctuation (l : Level) (hw : ∀ w, t.kind ≠ .identifier w) (hp : t.kind ≠ .leftParen)
    (hs : t.kind ≠ .slash) : l.Stops (t :: ts) where
  noCall := eat?_of_ne hp
  noSlash := eat?_of_ne hs
  noFactor _ := operator?_of_not_word hw _
  noSummand _ := operator?_of_not_word hw _
  noComparison _ := operator?_of_not_word hw _
  noAnd _ := eatKeyword?_of_not_word hw _
  noOr _ := eatKeyword?_of_not_word hw _

/-- No connective of a level or a tighter one goes on. -/
theorem noConnective (h : l.Stops ts) {k : LogicalOp} (hk : (connectiveLevel k).rank ≤ l.rank) :
    eatKeyword? (logicalWord k) ts = none := by
  cases k with
  | and => exact h.noAnd hk
  | or => exact h.noOr hk

/-- No chain of a level or a tighter one goes on. -/
theorem noOperator (h : l.Stops ts) {c : Chain} (hc : c.level.rank ≤ l.rank) :
    operator? c.operatorOf? ts = none := by
  cases c with
  | sum => exact h.noSummand hc
  | product => exact h.noFactor hc

theorem rightParen (l : Level) (h : t.kind = .rightParen) : l.Stops (t :: ts) :=
  .punctuation l (by simp [h]) (by simp [h]) (by simp [h])

theorem comma (l : Level) (h : t.kind = .comma) : l.Stops (t :: ts) :=
  .punctuation l (by simp [h]) (by simp [h]) (by simp [h])

theorem colon (l : Level) (h : t.kind = .colon) : l.Stops (t :: ts) :=
  .punctuation l (by simp [h]) (by simp [h]) (by simp [h])

/-- A word ends the phrases that know no operator of that word. -/
theorem word {w : String} (h : t.kind = .identifier w)
    (hfactor : 1 ≤ l.rank → multiplicativeOf? w = none)
    (hsummand : 2 ≤ l.rank → additiveOf? w = none)
    (hcomparison : 3 ≤ l.rank → comparisonOf? w = none)
    (hand : 5 ≤ l.rank → Text.asciiLower w ≠ "and")
    (hor : 6 ≤ l.rank → Text.asciiLower w ≠ "or") : l.Stops (t :: ts) where
  noCall := eat?_of_ne (by simp [h])
  noSlash := eat?_of_ne (by simp [h])
  noFactor hr := by simp [operator?_of_word h, hfactor hr]
  noSummand hr := by simp [operator?_of_word h, hsummand hr]
  noComparison hr := by simp [operator?_of_word h, hcomparison hr]
  noAnd hr := by simp [eatKeyword?_of_word h, hand hr]
  noOr hr := by simp [eatKeyword?_of_word h, hor hr]

end Level.Stops

/-! ### Words of operators -/

/-- The words of comparisons. -/
def comparisonWords : List String := ["eq", "ne", "gt", "ge", "lt", "le"]

/-- The words of sums and products. -/
def arithmeticWords : List String := ["add", "sub", "mul", "div", "mod"]

theorem mem_of_comparisonOf? {w : String} {op : ComparisonOp} (h : comparisonOf? w = some op) :
    w ∈ comparisonWords := by
  unfold comparisonOf? at h
  grind [comparisonWords]

theorem mem_of_additiveOf? {w : String} {op : ArithmeticOp} (h : additiveOf? w = some op) :
    w ∈ arithmeticWords := by
  unfold additiveOf? at h
  grind [arithmeticWords]

theorem mem_of_multiplicativeOf? {w : String} {op : ArithmeticOp}
    (h : multiplicativeOf? w = some op) : w ∈ arithmeticWords := by
  unfold multiplicativeOf? at h
  grind [arithmeticWords]

/-- A word that is no operator word in lower case is none as it stands, if all operator words are
in lower case. -/
theorem ofWord_eq_none {α : Type} {ofWord : String → Option α} {words : List String}
    {w lower : String} (hmem : ∀ {v a}, ofWord v = some a → v ∈ words)
    (hfix : ∀ v ∈ words, Text.asciiLower v = v) (h : Text.asciiLower w = lower)
    (hnone : ofWord lower = none) : ofWord w = none := by
  cases hw : ofWord w with
  | none => rfl
  | some a =>
    rw [hfix w (hmem hw)] at h
    rw [← h, hw] at hnone
    cases hnone

/-- A keyword that is no operator of a term ends every phrase but those of its own level. -/
theorem Level.Stops.keyword {l : Level} {t : Token} {ts : List Token} {w keyword : String}
    (h : t.kind = .identifier w) (hw : Text.asciiLower w = keyword)
    (hfactor : multiplicativeOf? keyword = none) (hsummand : additiveOf? keyword = none)
    (hcomparison : comparisonOf? keyword = none) (hand : 5 ≤ l.rank → keyword ≠ "and")
    (hor : 6 ≤ l.rank → keyword ≠ "or") : l.Stops (t :: ts) :=
  .word h (fun _ => ofWord_eq_none mem_of_multiplicativeOf? (by decide) hw hfactor)
    (fun _ => ofWord_eq_none mem_of_additiveOf? (by decide) hw hsummand)
    (fun _ => ofWord_eq_none mem_of_comparisonOf? (by decide) hw hcomparison)
    (fun hr => by rw [hw]; exact hand hr) (fun hr => by rw [hw]; exact hor hr)

/-- A comparison word is no word of a term. -/
theorem words_of_comparisonOf? {w : String} {op : ComparisonOp} (h : comparisonOf? w = some op) :
    multiplicativeOf? w = none ∧ additiveOf? w = none :=
  (show ∀ v ∈ comparisonWords, multiplicativeOf? v = none ∧ additiveOf? v = none by decide) w
    (mem_of_comparisonOf? h)

theorem multiplicativeOf?_of_additiveOf? {w : String} {op : ArithmeticOp}
    (h : additiveOf? w = some op) : multiplicativeOf? w = none := by
  unfold additiveOf? at h
  grind [multiplicativeOf?]

theorem Chain.mem_of_operatorOf? {c : Chain} {w : String} {op : ArithmeticOp}
    (h : c.operatorOf? w = some op) : w ∈ arithmeticWords := by
  cases c with
  | sum => exact mem_of_additiveOf? h
  | product => exact mem_of_multiplicativeOf? h

/-- The chain that an operator goes on. -/
def Chain.ofOperator : ArithmeticOp → Chain
  | .add | .subtract => .sum
  | .multiply | .divide | .modulo => .product

theorem Chain.operatorOf?_arithmeticWord (op : ArithmeticOp) :
    (Chain.ofOperator op).operatorOf? (arithmeticWord op) = some op := by
  cases op <;> decide

/-- The operator of a chain ends an operand of the chain. -/
theorem Chain.operand_stops {c : Chain} {t : Token} {ts : List Token} {w : String}
    {op : ArithmeticOp} (h : t.kind = .identifier w) (hw : c.operatorOf? w = some op) :
    c.operand.Stops (t :: ts) := by
  have hrank := c.operand_rank
  refine .word h (fun hr => ?_) (fun hr => absurd hr (by omega)) (fun hr => absurd hr (by omega))
    (fun hr => absurd hr (by omega)) (fun hr => absurd hr (by omega))
  cases c with
  | sum => exact multiplicativeOf?_of_additiveOf? hw
  | product => exact absurd hr (by decide)

/-- The word of a connective ends an operand of the connective. -/
theorem operandLevel_stops {k : LogicalOp} {t : Token} {ts : List Token} {w : String}
    (h : t.kind = .identifier w) (hw : Text.asciiLower w = logicalWord k) :
    (operandLevel k).Stops (t :: ts) := by
  cases k <;> exact .keyword h hw (by decide) (by decide) (by decide) (by decide) (by decide)

/-! ### Phrases and rules -/

/-- What a stretch of tokens can stand for. -/
inductive Phrase where
  | expr (level : Level) (e : Expr)
  /-- Further operands of a chain behind `left`, with the chain they make. -/
  | further (c : Chain) (left e : Expr)
  /-- Arguments with the closing parenthesis, possibly none. -/
  | arguments (args : List Expr)
  /-- One or more arguments with the closing parenthesis. -/
  | moreArguments (args : List Expr)
  /-- Branches behind others, with the closing parenthesis and the conditional they make. -/
  | branches (before : List (Expr × Expr)) (e : Expr)

/-- A word that starts an operand. -/
def StartsOperand (w : String) : Prop :=
  isOperatorWord w = false ∧ Text.asciiLower w ≠ "not"

/-- The kinds of the tokens of further segments of a path. -/
def segmentKinds (segments : List String) : List TokenKind :=
  segments.flatMap fun s => [.slash, .identifier s]

/-- A conditional whose last branch has the given condition and value. -/
def closeCase (before : List (Expr × Expr)) (condition value : Expr) : Expr :=
  caseOf (if isDefaultMark condition then before else before ++ [(condition, value)])
    (if isDefaultMark condition then some value else none)

/-- The rules of the grammar. -/
inductive Derives (rs : Resolvers) : Phrase → List TokenKind → Prop where
  | operand (k : LogicalOp) {e : Expr} {ks : List TokenKind} :
      Derives rs (.expr (operandLevel k) e) ks → Derives rs (.expr (connectiveLevel k) e) ks
  | connective {k : LogicalOp} {a b : Expr} {w : String} {ks ks' : List TokenKind} :
      Text.asciiLower w = logicalWord k → Derives rs (.expr (operandLevel k) a) ks →
      Derives rs (.expr (connectiveLevel k) b) ks' →
      Derives rs (.expr (connectiveLevel k) (.logical k [a, b])) (ks ++ .identifier w :: ks')
  | comparison {e : Expr} {ks : List TokenKind} :
      Derives rs (.expr .comparison e) ks → Derives rs (.expr .negation e) ks
  | not {e : Expr} {w : String} {ks : List TokenKind} :
      Text.asciiLower w = "not" → Derives rs (.expr .negation e) ks →
      Derives rs (.expr .negation (.not e)) (.identifier w :: ks)
  | sum {e : Expr} {ks : List TokenKind} :
      Derives rs (.expr .sum e) ks → Derives rs (.expr .comparison e) ks
  | compare {a b : Expr} {w : String} {op : ComparisonOp} {ks ks' : List TokenKind} :
      comparisonOf? w = some op → Derives rs (.expr .sum a) ks → Derives rs (.expr .sum b) ks' →
      Derives rs (.expr .comparison (comparisonOf op a b)) (ks ++ .identifier w :: ks')
  | chain {c : Chain} {a e : Expr} {ks ks' : List TokenKind} :
      Derives rs (.expr c.operand a) ks → Derives rs (.further c a e) ks' →
      Derives rs (.expr c.level e) (ks ++ ks')
  | noMore {c : Chain} {e : Expr} : Derives rs (.further c e e) []
  | more {c : Chain} {a b e : Expr} {w : String} {op : ArithmeticOp} {ks ks' : List TokenKind} :
      c.operatorOf? w = some op → Derives rs (.expr c.operand b) ks →
      Derives rs (.further c (.arithmetic op a b) e) ks' →
      Derives rs (.further c a e) (.identifier w :: (ks ++ ks'))
  | parenthesized {e : Expr} {ks : List TokenKind} :
      Derives rs (.expr .disjunction e) ks →
      Derives rs (.expr .primary e) (.leftParen :: (ks ++ [.rightParen]))
  | literal (value : Literal) : Derives rs (.expr .primary (.literal value)) [.literal value]
  | path {name : String} {segments : List String} :
      StartsOperand name →
      Derives rs (.expr .primary (memberField ⟨rs, 0⟩ (name :: segments)))
        (.identifier name :: segmentKinds segments)
  | call {name : String} {args : List Expr} {e : Expr} {ks : List TokenKind} :
      StartsOperand name → Text.asciiLower name ≠ "case" →
      Derives rs (.arguments args) ks →
      rs.resolveMethod builtin ⟨Text.asciiLower name, args, false, none⟩ = .ok e →
      Derives rs (.expr .primary e) (.identifier name :: .leftParen :: ks)
  | case {name : String} {e : Expr} {ks : List TokenKind} :
      StartsOperand name → Text.asciiLower name = "case" → Derives rs (.branches [] e) ks →
      Derives rs (.expr .primary e) (.identifier name :: .leftParen :: ks)
  | noArguments : Derives rs (.arguments []) [.rightParen]
  | someArguments {args : List Expr} {ks : List TokenKind} :
      Derives rs (.moreArguments args) ks → Derives rs (.arguments args) ks
  | lastArgument {a : Expr} {ks : List TokenKind} :
      Derives rs (.expr .disjunction a) ks →
      Derives rs (.moreArguments [a]) (ks ++ [.rightParen])
  | argument {a : Expr} {args : List Expr} {ks ks' : List TokenKind} :
      Derives rs (.expr .disjunction a) ks → Derives rs (.moreArguments args) ks' →
      Derives rs (.moreArguments (a :: args)) (ks ++ .comma :: ks')
  | lastBranch {before : List (Expr × Expr)} {c v : Expr} {ks ks' : List TokenKind} :
      Derives rs (.expr .disjunction c) ks → Derives rs (.expr .disjunction v) ks' →
      Derives rs (.branches before (closeCase before c v))
        (ks ++ .colon :: (ks' ++ [.rightParen]))
  | branch {before : List (Expr × Expr)} {c v e : Expr} {ks ks' ks'' : List TokenKind} :
      isDefaultMark c = false → Derives rs (.expr .disjunction c) ks →
      Derives rs (.expr .disjunction v) ks' →
      Derives rs (.branches (before ++ [(c, v)]) e) ks'' →
      Derives rs (.branches before e) (ks ++ .colon :: (ks' ++ .comma :: ks''))

/-! ### The first token of a phrase -/

/-- A kind of token that starts an operand. -/
def OpensOperand (k : TokenKind) : Prop :=
  k = .leftParen ∨ (∃ value, k = .literal value) ∨ ∃ w, k = .identifier w ∧ StartsOperand w

/-- How the tokens of a phrase start: an expression by an operand or, above comparisons, by `not`;
arguments and branches by an expression. -/
def Phrase.Starts (ks : List TokenKind) : Phrase → Prop
  | .expr l _ =>
    ∃ k ks', ks = k :: ks' ∧
      (OpensOperand k ∨ 4 ≤ l.rank ∧ ∃ w, k = .identifier w ∧ Text.asciiLower w = "not")
  | .moreArguments _ | .branches _ _ =>
    ∃ k ks', ks = k :: ks' ∧ (OpensOperand k ∨ ∃ w, k = .identifier w)
  | _ => True

theorem Phrase.Starts.looser {l m : Level} {e f : Expr} {ks ks' : List TokenKind}
    (h : (Phrase.expr l e).Starts ks) (hm : l.rank ≤ m.rank) :
    (Phrase.expr m f).Starts (ks ++ ks') := by
  obtain ⟨k, tail, rfl, hk⟩ := h
  refine ⟨k, tail ++ ks', rfl, ?_⟩
  rcases hk with hk | ⟨hr, hk⟩
  · exact .inl hk
  · exact .inr ⟨by omega, hk⟩

theorem Phrase.Starts.atLevel {l m : Level} {e f : Expr} {ks : List TokenKind}
    (h : (Phrase.expr l e).Starts ks) (hm : l.rank ≤ m.rank) : (Phrase.expr m f).Starts ks := by
  have hstarts : (Phrase.expr m f).Starts (ks ++ []) := h.looser hm
  rw [List.append_nil] at hstarts
  exact hstarts

theorem Phrase.Starts.inList {l : Level} {e : Expr} {ks : List TokenKind}
    (h : (Phrase.expr l e).Starts ks) (ks' : List TokenKind) :
    ∃ k tail, ks ++ ks' = k :: tail ∧ (OpensOperand k ∨ ∃ w, k = .identifier w) := by
  obtain ⟨k, tail, rfl, hk⟩ := h
  refine ⟨k, tail ++ ks', rfl, ?_⟩
  rcases hk with hk | ⟨-, w, hk, -⟩
  · exact .inl hk
  · exact .inr ⟨w, hk⟩

theorem Derives.starts {rs : Resolvers} {ph : Phrase} {ks : List TokenKind}
    (h : Derives rs ph ks) : ph.Starts ks := by
  induction h with
  | operand k _ ih => exact ih.atLevel (by have hrank := operandLevel_rank k; omega)
  | @connective k _ _ _ _ _ _ _ _ iha _ =>
    exact iha.looser (by have hrank := operandLevel_rank k; omega)
  | comparison _ ih => exact ih.atLevel (by decide)
  | sum _ ih => exact ih.atLevel (by decide)
  | compare _ _ _ iha _ => exact iha.looser (by decide)
  | @chain c _ _ _ _ _ _ iha _ => exact iha.looser (by have hrank := c.operand_rank; omega)
  | not hw _ _ => exact ⟨_, _, rfl, .inr ⟨by decide, _, rfl, hw⟩⟩
  | parenthesized _ _ => exact ⟨_, _, rfl, .inl (.inl rfl)⟩
  | literal value => exact ⟨_, _, rfl, .inl (.inr (.inl ⟨value, rfl⟩))⟩
  | path hn => exact ⟨_, _, rfl, .inl (.inr (.inr ⟨_, rfl, hn⟩))⟩
  | call hn _ _ _ _ => exact ⟨_, _, rfl, .inl (.inr (.inr ⟨_, rfl, hn⟩))⟩
  | case hn _ _ _ => exact ⟨_, _, rfl, .inl (.inr (.inr ⟨_, rfl, hn⟩))⟩
  | lastArgument _ ih => exact ih.inList _
  | argument _ _ ih _ => exact ih.inList _
  | lastBranch _ _ ih _ => exact ih.inList _
  | branch _ _ _ _ ih _ _ => exact ih.inList _
  | noMore => trivial
  | more => trivial
  | noArguments => trivial
  | someArguments => trivial

theorem Derives.expr_ne_nil {rs : Resolvers} {l : Level} {e : Expr} {ks : List TokenKind}
    (h : Derives rs (.expr l e) ks) : 1 ≤ ks.length := by
  obtain ⟨k, ks', rfl, -⟩ := h.starts
  simp

theorem OpensOperand.not_keyword {t : Token} (h : OpensOperand t.kind) (ts : List Token) :
    eatKeyword? "not" (t :: ts) = none := by
  rcases h with h | ⟨value, h⟩ | ⟨w, h, -, hw⟩
  · exact eatKeyword?_of_not_word (by simp [h]) _
  · exact eatKeyword?_of_not_word (by simp [h]) _
  · rw [eatKeyword?_of_word h, if_neg hw]

/-! ### Reading what is derived -/

/-- What the readers need beyond ten steps for every token. -/
def Phrase.slack : Phrase → Nat
  | .expr l _ => l.rank
  | .further .. | .moreArguments _ | .branches _ _ => 1
  | .arguments _ => 2

/-- The tokens behind a phrase do not continue it. -/
def Phrase.Stops (ts : List Token) : Phrase → Prop
  | .expr l _ => l.Stops ts
  | .further c _ _ => c.level.Stops ts
  | .arguments _ | .moreArguments _ | .branches _ _ => True

/-- The reader of a level. -/
def Level.reader (ctx : Context) (fuel : Nat) : Level → Parser Expr
  | .disjunction => orExpr ctx fuel
  | .conjunction => andExpr ctx fuel
  | .negation => notExpr ctx fuel
  | .comparison => OData.comparison ctx fuel
  | .sum => additive ctx fuel
  | .product => multiplicative ctx fuel
  | .primary => OData.primary ctx fuel

/-- The reader of the further operands of a chain. -/
def Chain.reader (ctx : Context) (fuel : Nat) : Chain → Expr → Parser Expr
  | .sum => additiveRest ctx fuel
  | .product => multiplicativeRest ctx fuel

/-- A phrase is read from the tokens in front, and `rest` is left. -/
def Phrase.Reads (ctx : Context) (fuel : Nat) (ts rest : List Token) : Phrase → Prop
  | .expr l e => l.reader ctx fuel ts = .ok (e, rest)
  | .further c a e => c.reader ctx fuel a ts = .ok (e, rest)
  | .arguments args => OData.arguments ctx fuel ts = .ok (args, rest)
  | .moreArguments args => OData.moreArguments ctx fuel ts = .ok (args, rest)
  | .branches before e => caseBranches ctx fuel before none ts = .ok (e, rest)

theorem pathSegments_kinds (ctx : Context) (segments : List String) :
    ∀ (before : List String) (fuel : Nat) (ts rest : List Token),
      ts.map Token.kind = segmentKinds segments → segments.length ≤ fuel →
      eat? .slash rest = none →
      pathSegments ctx before fuel (ts ++ rest) = .ok (before ++ segments, rest) := by
  induction segments with
  | nil =>
    intro before fuel ts rest hts _ hrest
    obtain rfl : ts = [] := by simpa [segmentKinds] using hts
    rw [List.append_nil, List.nil_append]
    cases fuel with
    | zero => rfl
    | succ fuel => simp only [pathSegments, hrest]
  | cons s segments ih =>
    intro before fuel ts rest hts hfuel hrest
    obtain ⟨t, us, rfl, ht, hus⟩ := List.map_eq_cons_iff.1 hts
    obtain ⟨u, vs, rfl, hu, hvs⟩ := List.map_eq_cons_iff.1 hus
    cases fuel with
    | zero => simp at hfuel
    | succ fuel =>
      have hread := ih (before ++ [s]) fuel vs rest hvs (by simpa using hfuel) hrest
      simp only [List.cons_append, pathSegments, eat?_of_eq ht, identifier_of_word ctx hu, hread,
        bind, Except.bind, List.append_assoc, List.nil_append]

theorem segmentKinds_length (segments : List String) :
    segments.length ≤ (segmentKinds segments).length := by
  induction segments with
  | nil => simp [segmentKinds]
  | cons s segments ih =>
    simp only [segmentKinds, List.flatMap_cons, List.length_append, List.length_cons] at ih ⊢
    omega

/-! ### One step of each reader -/

/-- Operands of a connective: one, or one and the others behind the word of the connective. -/
def joined (k : LogicalOp) (operand whole : Parser Expr) : Parser Expr := fun ts => do
  let (left, ts) ← operand ts
  match eatKeyword? (logicalWord k) ts with
  | none => .ok (left, ts)
  | some ts =>
    let (right, ts) ← whole ts
    .ok (.logical k [left, right], ts)

/-- The further operands of a chain, each behind an operator. -/
def further (ofWord : String → Option ArithmeticOp) (operand : Parser Expr)
    (more : Expr → Parser Expr) (left : Expr) : Parser Expr := fun ts =>
  match operator? ofWord ts with
  | none => .ok (left, ts)
  | some (op, ts) => do
    let (right, ts) ← operand ts
    more (.arithmetic op left right) ts

/-- Both connectives are read alike. -/
theorem reader_connectiveLevel (ctx : Context) (fuel : Nat) (k : LogicalOp) :
    (connectiveLevel k).reader ctx (fuel + 1)
      = joined k ((operandLevel k).reader ctx fuel) ((connectiveLevel k).reader ctx fuel) := by
  cases k <;> rfl

/-- Sums and products are read alike. -/
theorem reader_chainLevel (ctx : Context) (fuel : Nat) (c : Chain) (ts : List Token) :
    c.level.reader ctx (fuel + 1) ts
      = c.operand.reader ctx fuel ts >>= fun r => c.reader ctx fuel r.1 r.2 := by
  cases c <;> rfl

theorem Chain.reader_succ (ctx : Context) (fuel : Nat) (c : Chain) :
    c.reader ctx (fuel + 1)
      = further c.operatorOf? (c.operand.reader ctx fuel) (c.reader ctx fuel) := by
  cases c <;> rfl

section Steps

variable {ctx : Context} {fuel : Nat} {ts mid mid' rest : List Token} {t : Token} {a b e : Expr}

theorem reader_operand (k : LogicalOp) (h : (operandLevel k).reader ctx fuel ts = .ok (e, rest))
    (hr : eatKeyword? (logicalWord k) rest = none) :
    (connectiveLevel k).reader ctx (fuel + 1) ts = .ok (e, rest) := by
  rw [reader_connectiveLevel, joined]
  simp only [h, hr, bind, Except.bind]

theorem reader_connective (k : LogicalOp)
    (ha : (operandLevel k).reader ctx fuel ts = .ok (a, mid))
    (hm : eatKeyword? (logicalWord k) mid = some mid')
    (hb : (connectiveLevel k).reader ctx fuel mid' = .ok (b, rest)) :
    (connectiveLevel k).reader ctx (fuel + 1) ts = .ok (.logical k [a, b], rest) := by
  rw [reader_connectiveLevel, joined]
  simp only [ha, hm, hb, bind, Except.bind]

theorem notExpr_of_comparison (ht : eatKeyword? "not" ts = none)
    (h : comparison ctx fuel ts = .ok (e, rest)) : notExpr ctx (fuel + 1) ts = .ok (e, rest) := by
  simp only [notExpr, ht, h]

theorem notExpr_not (ht : eatKeyword? "not" ts = some mid)
    (h : notExpr ctx fuel mid = .ok (e, rest)) :
    notExpr ctx (fuel + 1) ts = .ok (.not e, rest) := by
  simp only [notExpr, ht, h, bind, Except.bind]

theorem comparison_of_sum (h : additive ctx fuel ts = .ok (e, rest))
    (hr : operator? comparisonOf? rest = none) :
    comparison ctx (fuel + 1) ts = .ok (e, rest) := by
  simp only [comparison, h, hr, bind, Except.bind]

theorem comparison_compare {op : ComparisonOp} (ha : additive ctx fuel ts = .ok (a, mid))
    (hm : operator? comparisonOf? mid = some (op, mid'))
    (hb : additive ctx fuel mid' = .ok (b, rest)) :
    comparison ctx (fuel + 1) ts = .ok (comparisonOf op a b, rest) := by
  simp only [comparison, ha, hm, hb, bind, Except.bind]

theorem reader_chain (c : Chain) (ha : c.operand.reader ctx fuel ts = .ok (a, mid))
    (h : c.reader ctx fuel a mid = .ok (e, rest)) :
    c.level.reader ctx (fuel + 1) ts = .ok (e, rest) := by
  rw [reader_chainLevel, ha]
  exact h

theorem reader_noMore (c : Chain) (h : operator? c.operatorOf? rest = none) :
    c.reader ctx (fuel + 1) e rest = .ok (e, rest) := by
  rw [Chain.reader_succ, further]
  simp only [h]

theorem reader_more (c : Chain) {op : ArithmeticOp}
    (hm : operator? c.operatorOf? ts = some (op, mid))
    (hb : c.operand.reader ctx fuel mid = .ok (b, mid'))
    (h : c.reader ctx fuel (.arithmetic op a b) mid' = .ok (e, rest)) :
    c.reader ctx (fuel + 1) a ts = .ok (e, rest) := by
  rw [Chain.reader_succ, further]
  simp only [hm, hb, bind, Except.bind]
  exact h

theorem primary_parenthesized (ht : t.kind = .leftParen)
    (h : orExpr ctx fuel ts = .ok (e, mid)) (hm : ctx.expect .rightParen mid = .ok rest) :
    primary ctx (fuel + 1) (t :: ts) = .ok (e, rest) := by
  simp only [primary, ht, h, hm, bind, Except.bind]

theorem primary_literal {value : Literal} (ht : t.kind = .literal value) :
    primary ctx (fuel + 1) (t :: rest) = .ok (.literal value, rest) := by
  simp only [primary, ht]

theorem primary_path {name : String} {segments : List String} (ht : t.kind = .identifier name)
    (hn : isOperatorWord name = false) (hc : eat? .leftParen ts = none)
    (h : pathSegments ctx [name] ts.length ts = .ok (segments, rest)) :
    primary ctx (fuel + 1) (t :: ts) = .ok (memberField ctx segments, rest) := by
  simp only [primary, ht, hn, hc, h, bind, Except.bind, Bool.false_eq_true, if_false]

theorem primary_call {name : String} {args : List Expr} (ht : t.kind = .identifier name)
    (hn : isOperatorWord name = false) (hname : Text.asciiLower name ≠ "case")
    (hc : eat? .leftParen ts = some mid) (ha : arguments ctx fuel mid = .ok (args, rest))
    (he : ctx.resolvers.resolveMethod builtin ⟨Text.asciiLower name, args, false, none⟩ = .ok e) :
    primary ctx (fuel + 1) (t :: ts) = .ok (e, rest) := by
  simp only [primary, ht, hn, hc, ha, he, hname, bind, Except.bind, Bool.false_eq_true, if_false]

theorem primary_case {name : String} (ht : t.kind = .identifier name)
    (hn : isOperatorWord name = false) (hname : Text.asciiLower name = "case")
    (hc : eat? .leftParen ts = some mid)
    (h : caseBranches ctx fuel [] none mid = .ok (e, rest)) :
    primary ctx (fuel + 1) (t :: ts) = .ok (e, rest) := by
  simp only [primary, ht, hn, hc, h, hname, Bool.false_eq_true, if_false, if_true]

theorem arguments_none (h : eat? .rightParen ts = some rest) :
    arguments ctx (fuel + 1) ts = .ok ([], rest) := by
  simp only [arguments, h]

theorem arguments_some {args : List Expr} (hp : eat? .rightParen ts = none)
    (h : moreArguments ctx fuel ts = .ok (args, rest)) :
    arguments ctx (fuel + 1) ts = .ok (args, rest) := by
  simp only [arguments, hp, h]

theorem moreArguments_last (h : orExpr ctx fuel ts = .ok (a, mid)) (hc : eat? .comma mid = none)
    (hp : ctx.expect .rightParen mid = .ok rest) :
    moreArguments ctx (fuel + 1) ts = .ok ([a], rest) := by
  simp only [moreArguments, h, hc, hp, bind, Except.bind]

theorem moreArguments_cons {args : List Expr} (h : orExpr ctx fuel ts = .ok (a, mid))
    (hc : eat? .comma mid = some mid') (hs : moreArguments ctx fuel mid' = .ok (args, rest)) :
    moreArguments ctx (fuel + 1) ts = .ok (a :: args, rest) := by
  simp only [moreArguments, h, hc, hs, bind, Except.bind]

theorem caseBranches_last {before : List (Expr × Expr)} {afterColon : List Token}
    (ha : orExpr ctx fuel ts = .ok (a, mid)) (hc : ctx.expect .colon mid = .ok afterColon)
    (hb : orExpr ctx fuel afterColon = .ok (b, mid')) (hm : eat? .comma mid' = none)
    (hp : ctx.expect .rightParen mid' = .ok rest) :
    caseBranches ctx (fuel + 1) before none ts = .ok (closeCase before a b, rest) := by
  simp only [caseBranches, ha, hc, hb, hm, hp, bind, Except.bind, closeCase, Option.isSome_none,
    Bool.false_eq_true, if_false]

theorem caseBranches_branch {before : List (Expr × Expr)} {afterColon afterComma : List Token}
    (hd : isDefaultMark a = false)
    (ha : orExpr ctx fuel ts = .ok (a, mid)) (hc : ctx.expect .colon mid = .ok afterColon)
    (hb : orExpr ctx fuel afterColon = .ok (b, mid')) (hm : eat? .comma mid' = some afterComma)
    (h : caseBranches ctx fuel (before ++ [(a, b)]) none afterComma = .ok (e, rest)) :
    caseBranches ctx (fuel + 1) before none ts = .ok (e, rest) := by
  simp only [caseBranches, ha, hc, hb, hm, h, hd, bind, Except.bind, Option.isSome_none,
    Bool.false_eq_true, if_false]

end Steps

/-- Further operands of a chain, or what ends the chain, end an operand. -/
theorem Derives.stops_of_further {rs : Resolvers} {c : Chain} {a e : Expr} {ks : List TokenKind}
    (h : Derives rs (.further c a e) ks) {ts rest : List Token} (hts : ts.map Token.kind = ks)
    (hrest : c.level.Stops rest) : c.operand.Stops (ts ++ rest) := by
  cases h with
  | noMore =>
    obtain rfl : ts = [] := by simpa using hts
    exact hrest.tighter (by have hrank := c.operand_rank; omega)
  | more hw _ _ =>
    obtain ⟨t, us, rfl, ht, -⟩ := List.map_eq_cons_iff.1 hts
    exact Chain.operand_stops ht hw

/-! ### Reading by the rules -/

/-- Tokens of the given kinds are read as the phrase, with fuel for all of them, in front of
whatever does not continue the phrase. -/
def Phrase.ReadsKinds (ctx : Context) (ks : List TokenKind) (ph : Phrase) : Prop :=
  ∀ (fuel : Nat) (ts rest : List Token), 10 * ks.length + ph.slack ≤ fuel →
    ts.map Token.kind = ks → ph.Stops rest → ph.Reads ctx fuel (ts ++ rest) rest

/-- The token of a kind that stands between two others. -/
theorem tokens_between {ts : List Token} {ks ks' : List TokenKind} {k : TokenKind}
    (h : ts.map Token.kind = ks ++ k :: ks') :
    ∃ as t bs, ts = as ++ t :: bs ∧ as.map Token.kind = ks ∧ t.kind = k ∧
      bs.map Token.kind = ks' := by
  obtain ⟨as, us, rfl, has, hus⟩ := List.map_eq_append_iff.1 h
  obtain ⟨t, bs, rfl, ht, hbs⟩ := List.map_eq_cons_iff.1 hus
  exact ⟨as, t, bs, rfl, has, ht, hbs⟩

/-- The token of a kind that stands behind others. -/
theorem tokens_before {ts : List Token} {ks : List TokenKind} {k : TokenKind}
    (h : ts.map Token.kind = ks ++ [k]) :
    ∃ as t, ts = as ++ [t] ∧ as.map Token.kind = ks ∧ t.kind = k := by
  obtain ⟨as, t, bs, rfl, has, ht, hbs⟩ := tokens_between h
  obtain rfl := List.map_eq_nil_iff.1 hbs
  exact ⟨as, t, rfl, has, ht⟩

namespace Phrase.ReadsKinds

variable {ctx : Context} {a b e : Expr} {w : String} {ks ks' ks'' : List TokenKind}

/-- An expression of a level is one of the next looser level too, if a step of the reader of that
level shows it. -/
theorem stepDown {l m : Level} (h : (Phrase.expr m e).ReadsKinds ctx ks)
    (hrank : l.rank = m.rank + 1)
    (hstep : ∀ {fuel ts rest}, m.reader ctx fuel ts = .ok (e, rest) → l.Stops rest →
      l.reader ctx (fuel + 1) ts = .ok (e, rest)) : (Phrase.expr l e).ReadsKinds ctx ks := by
  intro fuel ts rest hfuel hts hstop
  simp only [ReadsKinds, Phrase.slack] at hfuel h
  obtain ⟨fuel, rfl⟩ := Nat.exists_eq_add_of_le' (show 1 ≤ fuel by omega)
  exact hstep (h fuel ts rest (by omega) hts (hstop.tighter (by omega))) hstop

theorem operand (k : LogicalOp) (h : (Phrase.expr (operandLevel k) e).ReadsKinds ctx ks) :
    (Phrase.expr (connectiveLevel k) e).ReadsKinds ctx ks :=
  h.stepDown (operandLevel_rank k).1 fun hread hstop =>
    reader_operand k hread (hstop.noConnective (Nat.le_refl _))

/-- A comparison does not start with `not`, so it is read as one. -/
theorem comparison (hs : (Phrase.expr .comparison e).Starts ks)
    (h : (Phrase.expr .comparison e).ReadsKinds ctx ks) :
    (Phrase.expr .negation e).ReadsKinds ctx ks := by
  intro fuel ts rest hfuel hts hstop
  simp only [ReadsKinds, Phrase.slack, Level.rank] at hfuel h
  obtain ⟨fuel, rfl⟩ := Nat.exists_eq_add_of_le' (show 1 ≤ fuel by omega)
  obtain ⟨k, ks', rfl, hk | ⟨hr, -⟩⟩ := hs
  · obtain ⟨t, us, rfl, rfl, -⟩ := List.map_eq_cons_iff.1 hts
    exact notExpr_of_comparison (hk.not_keyword _)
      (h fuel (t :: us) rest (by omega) hts (hstop.tighter (by decide)))
  · exact absurd hr (by decide)

theorem sum (h : (Phrase.expr .sum e).ReadsKinds ctx ks) :
    (Phrase.expr .comparison e).ReadsKinds ctx ks :=
  h.stepDown rfl fun hread hstop => comparison_of_sum hread (hstop.noComparison (by decide))

theorem connective {k : LogicalOp} (hw : Text.asciiLower w = logicalWord k)
    (ha : (Phrase.expr (operandLevel k) a).ReadsKinds ctx ks)
    (hb : (Phrase.expr (connectiveLevel k) b).ReadsKinds ctx ks') :
    (Phrase.expr (connectiveLevel k) (.logical k [a, b])).ReadsKinds ctx
      (ks ++ .identifier w :: ks') := by
  intro fuel ts rest hfuel hts hstop
  have hrank := operandLevel_rank k
  simp only [ReadsKinds, Phrase.slack, List.length_append, List.length_cons] at hfuel ha hb
  obtain ⟨fuel, rfl⟩ := Nat.exists_eq_add_of_le' (show 1 ≤ fuel by omega)
  obtain ⟨as, t, bs, rfl, has, ht, hbs⟩ := tokens_between hts
  rw [List.append_assoc, List.cons_append]
  refine reader_connective k (ha fuel as _ (by omega) has (operandLevel_stops ht hw)) ?_
    (hb fuel bs rest (by omega) hbs hstop)
  rw [eatKeyword?_of_word ht, if_pos hw]

theorem not (hw : Text.asciiLower w = "not") (h : (Phrase.expr .negation e).ReadsKinds ctx ks) :
    (Phrase.expr .negation (.not e)).ReadsKinds ctx (.identifier w :: ks) := by
  intro fuel ts rest hfuel hts hstop
  simp only [ReadsKinds, Phrase.slack, Level.rank, List.length_cons] at hfuel h
  obtain ⟨fuel, rfl⟩ := Nat.exists_eq_add_of_le' (show 1 ≤ fuel by omega)
  obtain ⟨t, us, rfl, ht, hus⟩ := List.map_eq_cons_iff.1 hts
  refine notExpr_not ?_ (h fuel us rest (by omega) hus hstop)
  rw [List.cons_append, eatKeyword?_of_word ht, if_pos hw]

theorem compare {op : ComparisonOp} (hw : comparisonOf? w = some op)
    (ha : (Phrase.expr .sum a).ReadsKinds ctx ks) (hb : (Phrase.expr .sum b).ReadsKinds ctx ks') :
    (Phrase.expr .comparison (comparisonOf op a b)).ReadsKinds ctx
      (ks ++ .identifier w :: ks') := by
  intro fuel ts rest hfuel hts hstop
  simp only [ReadsKinds, Phrase.slack, Level.rank, List.length_append, List.length_cons]
    at hfuel ha hb
  obtain ⟨fuel, rfl⟩ := Nat.exists_eq_add_of_le' (show 1 ≤ fuel by omega)
  obtain ⟨as, t, bs, rfl, has, ht, hbs⟩ := tokens_between hts
  obtain ⟨hfactor, hsummand⟩ := words_of_comparisonOf? hw
  rw [List.append_assoc, List.cons_append]
  refine comparison_compare (ha fuel as _ (by omega) has ?_) ?_
    (hb fuel bs rest (by omega) hbs (hstop.tighter (by decide)))
  · exact .word ht (fun _ => hfactor) (fun _ => hsummand) (fun hr => absurd hr (by decide))
      (fun hr => absurd hr (by decide)) (fun hr => absurd hr (by decide))
  · rw [operator?_of_word ht, hw, Option.map_some]

theorem chain {c : Chain} (hd : Derives ctx.resolvers (.expr c.operand a) ks)
    (hs : Derives ctx.resolvers (.further c a e) ks')
    (ha : (Phrase.expr c.operand a).ReadsKinds ctx ks)
    (h : (Phrase.further c a e).ReadsKinds ctx ks') :
    (Phrase.expr c.level e).ReadsKinds ctx (ks ++ ks') := by
  intro fuel ts rest hfuel hts hstop
  -- the step down to the further operands is paid for by the token of the first one
  have hlen := hd.expr_ne_nil
  have hrank := c.operand_rank
  simp only [ReadsKinds, Phrase.slack, List.length_append] at hfuel ha h
  obtain ⟨fuel, rfl⟩ := Nat.exists_eq_add_of_le' (show 1 ≤ fuel by omega)
  obtain ⟨as, bs, rfl, has, hbs⟩ := List.map_eq_append_iff.1 hts
  rw [List.append_assoc]
  exact reader_chain c (ha fuel as _ (by omega) has (hs.stops_of_further hbs hstop))
    (h fuel bs rest (by omega) hbs hstop)

theorem noMore {c : Chain} : (Phrase.further c e e).ReadsKinds ctx [] := by
  intro fuel ts rest hfuel hts hstop
  simp only [Phrase.slack] at hfuel
  obtain ⟨fuel, rfl⟩ := Nat.exists_eq_add_of_le' (show 1 ≤ fuel by omega)
  obtain rfl := List.map_eq_nil_iff.1 hts
  exact reader_noMore c (hstop.noOperator (Nat.le_refl _))

theorem more {c : Chain} {op : ArithmeticOp} (hw : c.operatorOf? w = some op)
    (hs : Derives ctx.resolvers (.further c (.arithmetic op a b) e) ks')
    (hb : (Phrase.expr c.operand b).ReadsKinds ctx ks)
    (h : (Phrase.further c (.arithmetic op a b) e).ReadsKinds ctx ks') :
    (Phrase.further c a e).ReadsKinds ctx (.identifier w :: (ks ++ ks')) := by
  intro fuel ts rest hfuel hts hstop
  have hrank := c.operand_rank
  simp only [ReadsKinds, Phrase.slack, List.length_append, List.length_cons] at hfuel hb h
  obtain ⟨fuel, rfl⟩ := Nat.exists_eq_add_of_le' (show 1 ≤ fuel by omega)
  obtain ⟨t, us, rfl, ht, hus⟩ := List.map_eq_cons_iff.1 hts
  obtain ⟨bs, vs, rfl, hbs, hvs⟩ := List.map_eq_append_iff.1 hus
  rw [List.cons_append, List.append_assoc]
  refine reader_more c ?_ (hb fuel bs _ (by omega) hbs (hs.stops_of_further hvs hstop))
    (h fuel vs rest (by omega) hvs hstop)
  rw [operator?_of_word ht, hw, Option.map_some]

theorem parenthesized (h : (Phrase.expr .disjunction e).ReadsKinds ctx ks) :
    (Phrase.expr .primary e).ReadsKinds ctx (.leftParen :: (ks ++ [.rightParen])) := by
  intro fuel ts rest hfuel hts _
  simp only [ReadsKinds, Phrase.slack, Level.rank, List.length_append, List.length_cons]
    at hfuel h
  obtain ⟨fuel, rfl⟩ := Nat.exists_eq_add_of_le' (show 1 ≤ fuel by omega)
  obtain ⟨t, us, rfl, ht, hus⟩ := List.map_eq_cons_iff.1 hts
  obtain ⟨as, u, rfl, has, hu⟩ := tokens_before hus
  rw [List.cons_append, List.append_assoc, List.singleton_append]
  exact primary_parenthesized ht (h fuel as _ (by omega) has (.rightParen _ hu))
    (expect_of_eq ctx hu)

theorem literal (value : Literal) :
    (Phrase.expr .primary (.literal value)).ReadsKinds ctx [.literal value] := by
  intro fuel ts rest hfuel hts _
  simp only [Phrase.slack, Level.rank, List.length_cons] at hfuel
  obtain ⟨fuel, rfl⟩ := Nat.exists_eq_add_of_le' (show 1 ≤ fuel by omega)
  obtain ⟨t, rfl, ht⟩ := List.map_eq_singleton_iff.1 hts
  exact primary_literal ht

theorem path {name : String} {segments : List String} (hn : StartsOperand name) :
    (Phrase.expr .primary (memberField ctx (name :: segments))).ReadsKinds ctx
      (.identifier name :: segmentKinds segments) := by
  intro fuel ts rest hfuel hts hstop
  simp only [Phrase.slack, Level.rank, List.length_cons] at hfuel
  obtain ⟨fuel, rfl⟩ := Nat.exists_eq_add_of_le' (show 1 ≤ fuel by omega)
  obtain ⟨t, us, rfl, ht, hus⟩ := List.map_eq_cons_iff.1 hts
  have hlen : segments.length ≤ (us ++ rest).length := by
    have hkinds := segmentKinds_length segments
    rw [← hus, List.length_map] at hkinds
    rw [List.length_append]
    omega
  have hcall : eat? .leftParen (us ++ rest) = none := by
    cases segments with
    | nil =>
      rw [List.map_eq_nil_iff.1 hus]
      exact hstop.noCall
    | cons s segments =>
      obtain ⟨u, vs, rfl, hu, -⟩ := List.map_eq_cons_iff.1 hus
      exact eat?_of_ne (by simp [hu])
  exact primary_path ht hn.1 hcall
    (pathSegments_kinds ctx segments [name] _ us rest hus hlen hstop.noSlash)

/-- A name and what stands in parentheses behind it, if a step of the reader shows it. -/
theorem named {name : String} {ph : Phrase} (h : ph.ReadsKinds ctx ks)
    (hstops : ∀ rest, ph.Stops rest) (hslack : ph.slack ≤ 2)
    (hstep : ∀ {fuel t u ts rest}, t.kind = .identifier name → u.kind = .leftParen →
      ph.Reads ctx fuel ts rest → primary ctx (fuel + 1) (t :: u :: ts) = .ok (e, rest)) :
    (Phrase.expr .primary e).ReadsKinds ctx (.identifier name :: .leftParen :: ks) := by
  intro fuel ts rest hfuel hts _
  simp only [Phrase.slack, Level.rank, List.length_cons] at hfuel
  obtain ⟨fuel, rfl⟩ := Nat.exists_eq_add_of_le' (show 1 ≤ fuel by omega)
  obtain ⟨t, us, rfl, ht, hus⟩ := List.map_eq_cons_iff.1 hts
  obtain ⟨u, vs, rfl, hu, hvs⟩ := List.map_eq_cons_iff.1 hus
  exact hstep ht hu (h fuel vs rest (by omega) hvs (hstops rest))

theorem call {name : String} {args : List Expr} (hn : StartsOperand name)
    (hname : Text.asciiLower name ≠ "case")
    (he : ctx.resolvers.resolveMethod builtin ⟨Text.asciiLower name, args, false, none⟩ = .ok e)
    (h : (Phrase.arguments args).ReadsKinds ctx ks) :
    (Phrase.expr .primary e).ReadsKinds ctx (.identifier name :: .leftParen :: ks) :=
  h.named (fun _ => trivial) (Nat.le_refl _) fun ht hu hread =>
    primary_call ht hn.1 hname (eat?_of_eq hu) hread he

theorem conditional {name : String} (hn : StartsOperand name)
    (hname : Text.asciiLower name = "case") (h : (Phrase.branches [] e).ReadsKinds ctx ks) :
    (Phrase.expr .primary e).ReadsKinds ctx (.identifier name :: .leftParen :: ks) :=
  h.named (fun _ => trivial) (Nat.le_succ 1) fun ht hu hread =>
    primary_case ht hn.1 hname (eat?_of_eq hu) hread

theorem noArguments : (Phrase.arguments []).ReadsKinds ctx [.rightParen] := by
  intro fuel ts rest hfuel hts _
  simp only [Phrase.slack, List.length_cons] at hfuel
  obtain ⟨fuel, rfl⟩ := Nat.exists_eq_add_of_le' (show 1 ≤ fuel by omega)
  obtain ⟨t, rfl, ht⟩ := List.map_eq_singleton_iff.1 hts
  exact arguments_none (eat?_of_eq ht)

/-- Arguments do not start with the closing parenthesis, so they are not taken for none. -/
theorem someArguments {args : List Expr} (hs : (Phrase.moreArguments args).Starts ks)
    (h : (Phrase.moreArguments args).ReadsKinds ctx ks) :
    (Phrase.arguments args).ReadsKinds ctx ks := by
  intro fuel ts rest hfuel hts _
  simp only [ReadsKinds, Phrase.slack] at hfuel h
  obtain ⟨fuel, rfl⟩ := Nat.exists_eq_add_of_le' (show 1 ≤ fuel by omega)
  refine arguments_some ?_ (h fuel ts rest (by omega) hts trivial)
  obtain ⟨k, ks', rfl, hk⟩ := hs
  obtain ⟨t, us, rfl, rfl, -⟩ := List.map_eq_cons_iff.1 hts
  refine eat?_of_ne ?_
  rcases hk with (hk | ⟨value, hk⟩ | ⟨w, hk, -⟩) | ⟨w, hk⟩ <;> simp [hk]

theorem lastArgument (h : (Phrase.expr .disjunction a).ReadsKinds ctx ks) :
    (Phrase.moreArguments [a]).ReadsKinds ctx (ks ++ [.rightParen]) := by
  intro fuel ts rest hfuel hts _
  simp only [ReadsKinds, Phrase.slack, Level.rank, List.length_append, List.length_cons]
    at hfuel h
  obtain ⟨fuel, rfl⟩ := Nat.exists_eq_add_of_le' (show 1 ≤ fuel by omega)
  obtain ⟨as, t, rfl, has, ht⟩ := tokens_before hts
  rw [List.append_assoc, List.singleton_append]
  exact moreArguments_last (h fuel as _ (by omega) has (.rightParen _ ht))
    (eat?_of_ne (by simp [ht])) (expect_of_eq ctx ht)

theorem argument {args : List Expr} (ha : (Phrase.expr .disjunction a).ReadsKinds ctx ks)
    (h : (Phrase.moreArguments args).ReadsKinds ctx ks') :
    (Phrase.moreArguments (a :: args)).ReadsKinds ctx (ks ++ .comma :: ks') := by
  intro fuel ts rest hfuel hts _
  simp only [ReadsKinds, Phrase.slack, Level.rank, List.length_append, List.length_cons]
    at hfuel ha h
  obtain ⟨fuel, rfl⟩ := Nat.exists_eq_add_of_le' (show 1 ≤ fuel by omega)
  obtain ⟨as, t, us, rfl, has, ht, hus⟩ := tokens_between hts
  rw [List.append_assoc]
  exact moreArguments_cons (ha fuel as _ (by omega) has (.comma _ ht)) (eat?_of_eq ht)
    (h fuel us rest (by omega) hus trivial)

theorem lastBranch {before : List (Expr × Expr)}
    (ha : (Phrase.expr .disjunction a).ReadsKinds ctx ks)
    (hb : (Phrase.expr .disjunction b).ReadsKinds ctx ks') :
    (Phrase.branches before (closeCase before a b)).ReadsKinds ctx
      (ks ++ .colon :: (ks' ++ [.rightParen])) := by
  intro fuel ts rest hfuel hts _
  simp only [ReadsKinds, Phrase.slack, Level.rank, List.length_append, List.length_cons]
    at hfuel ha hb
  obtain ⟨fuel, rfl⟩ := Nat.exists_eq_add_of_le' (show 1 ≤ fuel by omega)
  obtain ⟨as, t, us, rfl, has, ht, hus⟩ := tokens_between hts
  obtain ⟨bs, u, rfl, hbs, hu⟩ := tokens_before hus
  rw [List.append_assoc, List.cons_append, List.append_assoc]
  exact caseBranches_last (ha fuel as _ (by omega) has (.colon _ ht)) (expect_of_eq ctx ht)
    (hb fuel bs _ (by omega) hbs (.rightParen _ hu)) (eat?_of_ne (by simp [hu]))
    (expect_of_eq ctx hu)

theorem branch {before : List (Expr × Expr)} (hmark : isDefaultMark a = false)
    (ha : (Phrase.expr .disjunction a).ReadsKinds ctx ks)
    (hb : (Phrase.expr .disjunction b).ReadsKinds ctx ks')
    (h : (Phrase.branches (before ++ [(a, b)]) e).ReadsKinds ctx ks'') :
    (Phrase.branches before e).ReadsKinds ctx (ks ++ .colon :: (ks' ++ .comma :: ks'')) := by
  intro fuel ts rest hfuel hts _
  simp only [ReadsKinds, Phrase.slack, Level.rank, List.length_append, List.length_cons]
    at hfuel ha hb h
  obtain ⟨fuel, rfl⟩ := Nat.exists_eq_add_of_le' (show 1 ≤ fuel by omega)
  obtain ⟨as, t, us, rfl, has, ht, hus⟩ := tokens_between hts
  obtain ⟨bs, u, vs, rfl, hbs, hu, hvs⟩ := tokens_between hus
  rw [List.append_assoc, List.cons_append, List.append_assoc]
  exact caseBranches_branch hmark (ha fuel as _ (by omega) has (.colon _ ht))
    (expect_of_eq ctx ht) (hb fuel bs _ (by omega) hbs (.comma _ hu)) (eat?_of_eq hu)
    (h fuel vs rest (by omega) hvs trivial)

end Phrase.ReadsKinds

/-- Tokens that derive a phrase are read as that phrase.  The induction follows the rules; each
rule is one step of the reader of its phrase. -/
theorem Derives.reads {ctx : Context} {ph : Phrase} {ks : List TokenKind}
    (h : Derives ctx.resolvers ph ks) : ph.ReadsKinds ctx ks := by
  induction h with
  | operand k _ ih => exact ih.operand k
  | connective hw _ _ iha ihb => exact .connective hw iha ihb
  | comparison hd ih => exact ih.comparison hd.starts
  | sum _ ih => exact ih.sum
  | not hw _ ih => exact .not hw ih
  | compare hw _ _ iha ihb => exact .compare hw iha ihb
  | chain hd hs iha ihs => exact .chain hd hs iha ihs
  | noMore => exact .noMore
  | more hw _ hs ihb ihs => exact .more hw hs ihb ihs
  | parenthesized _ ih => exact ih.parenthesized
  | literal value => exact .literal value
  | path hn => exact .path hn
  | call hn hname _ he ih => exact .call hn hname he ih
  | case hn hname _ ih => exact .conditional hn hname ih
  | noArguments => exact .noArguments
  | someArguments hd ih => exact .someArguments hd.starts ih
  | lastArgument _ ih => exact ih.lastArgument
  | argument _ _ ih ihs => exact .argument ih ihs
  | lastBranch _ _ iha ihb => exact .lastBranch iha ihb
  | branch hmark _ _ _ iha ihb ihs => exact .branch hmark iha ihb ihs

/-- An expression is read in front of whatever does not continue it. -/
theorem expression_of_derives (ctx : Context) {e : Expr} {ks : List TokenKind}
    (h : Derives ctx.resolvers (.expr .disjunction e) ks) {ts rest : List Token}
    (hts : ts.map Token.kind = ks) (hrest : Level.disjunction.Stops rest) :
    expression ctx (ts ++ rest) = .ok (e, rest) := by
  have hlen : ks.length ≤ (ts ++ rest).length := by
    rw [← hts, List.length_map, List.length_append]
    omega
  refine h.reads (depthBound (ts ++ rest)) ts rest ?_ hts hrest
  simp only [Phrase.slack, Level.rank, depthBound]
  omega

end Polyquery.OData
