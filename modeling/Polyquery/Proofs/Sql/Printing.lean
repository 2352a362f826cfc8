import Polyquery.Proofs.Sql.Meaning
import Polyquery.Proofs.Sql.Substring
import Polyquery.Proofs.Sql.Writable

/-!
# The text of an expression is read as its tree

* `Printed e ts` - the generic tokens of `e` are `ts`, and their lexemes are read as the tree of `e`;
* `Printed.field`, `Printed.compare`, `Printed.logical`, … - one lemma for each form;
* `Writable.printed` - every writable expression is printed;
* `Writable.textReads` - its text is read as its tree by every reader that allows its nesting;
* `TextReads.expression?` - so does the reader with its limit, below that limit.
-/

namespace Polyquery.Sql

/-! ### Lexemes of arrangements -/

theorem lexemes_infixed (left : List Token) (operator : Token) (right : List Token) :
    (Token.infixed left operator right).flatMap Token.lexemes
      = left.flatMap Token.lexemes ++ (operator.lexemes ++ right.flatMap Token.lexemes) := by
  simp [Token.infixed, Token.spaced, Token.lexemes]

theorem lexemes_parenthesized (ts : List Token) :
    (Token.parenthesized ts).flatMap Token.lexemes = enclosed (ts.flatMap Token.lexemes) := by
  simp [Token.parenthesized, Token.leftParen, Token.rightParen, Token.lexemes, enclosed]

theorem lexemes_separated (separator first : List Token) (rest : List (List Token)) :
    (Token.separated separator (first :: rest)).flatMap Token.lexemes
      = first.flatMap Token.lexemes ++
        rest.flatMap fun ts => separator.flatMap Token.lexemes ++ ts.flatMap Token.lexemes := by
  induction rest generalizing first with
  | nil =>
    rw [Token.separated, List.flatMap_nil, List.append_nil]
  | cons next rest ih =>
    rw [Token.separated.eq_3 _ _ _ (by simp), List.flatMap_append, List.flatMap_append, ih,
      List.flatMap_cons, List.append_assoc, List.append_assoc]

/-- What a relation of two lists says of each member of the second. -/
theorem forall_of_forall₂ {α β : Type} {R : α → β → Prop} {p : β → Prop} {as : List α} {bs : List β}
    (h : List.Forall₂ R as bs) (hR : ∀ a b, R a b → p b) : ∀ b ∈ bs, p b := by
  induction h with
  | nil => exact fun b hb => absurd hb List.not_mem_nil
  | cons hfirst _ ih => exact List.forall_mem_cons.2 ⟨hR _ _ hfirst, ih⟩

/-- The lexemes of each item. -/
def itemLexemes (items : List (List Token)) : List (List Lexeme) :=
  items.map fun ts => ts.flatMap Token.lexemes

theorem lexemes_call {name : String} (hname : Text.upper name = name) (args : List (List Token)) :
    (Token.call name args).flatMap Token.lexemes
      = wordLexeme name :: enclosed (commaLexemes (itemLexemes args)) := by
  have hargs : (Token.commaSeparated args).flatMap Token.lexemes
      = commaLexemes (itemLexemes args) := by
    cases args with
    | nil => rfl
    | cons first rest =>
      rw [Token.commaSeparated, lexemes_separated, itemLexemes, List.map_cons, commaLexemes,
        commaTail, List.flatMap_map]
      rfl
  rw [Token.call, List.flatMap_append, List.flatMap_append, hargs]
  simp [Token.lexemes, Token.leftParen, Token.rightParen, enclosed, hname]

/-! ### Printed expressions -/

/-- The generic tokens of an expression are spelled, and read as its tree at as many levels as the
tree takes. -/
structure Printed (e : Expr) (ts : List Token) : Prop where
  rendered : Dialect.generic.render e = .ok ts
  spelled : Spelled ts
  reads : ∀ n, (sqlTree e).nesting ≤ n →
    Reads n (frontRank e) (backRank e) (ts.flatMap Token.lexemes) (sqlTree e)
  argument : e.isClosed = true → IsArgument (ts.flatMap Token.lexemes)

namespace Printed

/-- A closed expression whose lexemes are one operand. -/
theorem of_operand {e : Expr} {ts : List Token} {l : Lexeme} {ls : List Lexeme}
    (hrendered : Dialect.generic.render e = .ok ts) (hspelled : Spelled ts)
    (hlexemes : ts.flatMap Token.lexemes = l :: ls) (hword : l.isOneOf leadingWords = false)
    (hclose : l ≠ .symbol ")") (hbracket : Unbracketed (l :: ls))
    (hback : backRank e ≤ 40)
    (hread : ∀ n, (sqlTree e).nesting ≤ n → ReadsOperand n 40 (l :: ls) (sqlTree e))
    (hargument : IsArgument (l :: ls)) : Printed e ts := by
  refine ⟨hrendered, hspelled, fun n hn => ?_, fun _ => ?_⟩
  · rw [hlexemes]
    have hreads := Reads.of_operand (hread n hn) (.cons hword hclose ls) hbracket (frontRank e)
    exact hreads.weaken (Nat.le_refl _) hback
  · rw [hlexemes]
    exact hargument

theorem starts {e : Expr} {ts : List Token} (h : Printed e ts) :
    Starts (ts.flatMap Token.lexemes) := (h.reads _ (Nat.le_refl _)).starts

theorem unbracketed {e : Expr} {ts : List Token} (h : Printed e ts) :
    Unbracketed (ts.flatMap Token.lexemes) := (h.reads _ (Nat.le_refl _)).unbracketed

/-! #### Names and constants -/

theorem lexemes_path (name : String) (names : List String) :
    (Token.separated [.symbol "."] ((name :: names).map fun s => [Token.ident s])).flatMap
      Token.lexemes = .word (identOf name) :: pointed (names.map identOf) := by
  rw [List.map_cons, lexemes_separated, List.flatMap_map, pointed, List.flatMap_map]
  rfl

theorem leadingWords_taken : ∀ word ∈ leadingWords, word ∈ takenWords := by decide

theorem isOneOf_of_isName {name : String} (h : IsName name) :
    (Lexeme.word (identOf name)).isOneOf leadingWords = false := by
  have hword := isOneOf_eq_false h (by decide)
  unfold Lexeme.isOneOf
  cases hkey : (Lexeme.word (identOf name)).keyword? with
  | none => rfl
  | some key =>
    rw [hkey] at hword
    simpa using fun hmem => hword (leadingWords_taken key hmem)

theorem field {path : String} (h : ∀ name ∈ (Text.segments path).head?, IsName name) :
    ∃ ts, Printed (.field path) ts := by
  obtain ⟨name, names, hpath⟩ : ∃ name names, Text.segments path = name :: names :=
    List.exists_cons_of_ne_nil (Text.segments_ne_nil path)
  have hname : IsName name := h name (by rw [hpath]; rfl)
  have hlexemes : (pathTokens path).flatMap Token.lexemes
      = .word (identOf name) :: pointed (names.map identOf) := by
    rw [pathTokens, hpath, lexemes_path]
  have hspelled : Spelled (pathTokens path) := .path _
  refine ⟨pathTokens path, of_operand rfl hspelled hlexemes (isOneOf_of_isName hname) (by simp)
    (unbracketed_path _ _) (Nat.le_refl 40) (fun n _ => ?_) ?_⟩
  · rw [sqlTree, pathTree, hpath]
    cases names with
    | nil => exact .name hname
    | cons next names => exact .path hname (List.cons_ne_nil _ _)
  · cases names with
    | nil => exact .single (by simp)
    | cons next names => exact .path _ (List.cons_ne_nil _ _)

/-- A constant that is a word. -/
theorem wordLiteral {value : Literal} {t : Token} {word : String} {c : Constant}
    (htoken : literalToken value = .ok t) (hspelled : Spelled [t])
    (hlexemes : t.lexemes = [wordLexeme word]) (hword : (wordLexeme word).isOneOf leadingWords = false)
    (htree : literalTree value = .constant c)
    (hread : ∀ n, ReadsOperand n 40 [wordLexeme word] (.constant c)) :
    Printed (.literal value) [t] := by
  have hrendered : Dialect.generic.render (.literal value) = .ok [t] := by
    rw [Dialect.render, htoken]
    rfl
  have hsingle : [t].flatMap Token.lexemes = [wordLexeme word] := by
    rw [List.flatMap_singleton, hlexemes]
  refine of_operand hrendered hspelled hsingle hword (by simp [wordLexeme])
    (by simp [Unbracketed, wordLexeme]) (Nat.le_refl 40) (fun n _ => ?_) ?_
  · rw [sqlTree, htree]
    exact hread n
  · exact .single (by simp [wordLexeme])

/-- The lexemes of a number are one operand. -/
theorem readsOperand_signed (negative : Bool) (digits : String) {m : Nat}
    (hm : (signedTree negative digits).nesting ≤ m) :
    ReadsOperand m 40 (signedLexemes negative digits) (signedTree negative digits) := by
  cases negative with
  | true =>
    obtain ⟨m, rfl⟩ : ∃ k, m = k + 1 := by
      rw [signedTree, if_pos rfl, Tree.nesting] at hm
      exact ⟨m - 1, by omega⟩
    have hdigits : Reads m closedRank 40 [.number digits false] (numberTree digits) :=
      .of_operand (.number _) (.cons rfl (by simp) []) (by simp [Unbracketed]) closedRank
    exact .minus hdigits (by decide)
  | false => exact .number _

theorem reads_signed (negative : Bool) (digits : String) {m : Nat}
    (hm : (signedTree negative digits).nesting ≤ m) :
    Reads m closedRank 40 (signedLexemes negative digits) (signedTree negative digits) := by
  refine .of_operand (readsOperand_signed negative digits hm) ?_ ?_ closedRank
  · cases negative
    · exact .cons rfl (by simp) _
    · exact .cons rfl (by simp) _
  · cases negative <;> simp [signedLexemes, Unbracketed]

theorem isArgument_signed (negative : Bool) (digits : String) :
    IsArgument (signedLexemes negative digits) := by
  cases negative
  · exact .single (by simp)
  · exact .of_not_ident rfl (by simp) _

theorem lexemes_int (n : Int64) :
    [Token.int n].flatMap Token.lexemes = intLexemes n.toInt := by
  rw [List.flatMap_singleton, Token.lexemes]

/-- A number that is a token. -/
theorem number {value : Literal} {t : Token} {negative : Bool} {digits : String}
    (htoken : literalToken value = .ok t) (hspelled : Spelled [t])
    (hlexemes : t.lexemes = signedLexemes negative digits)
    (htree : literalTree value = signedTree negative digits) : Printed (.literal value) [t] := by
  have hrendered : Dialect.generic.render (.literal value) = .ok [t] := by
    rw [Dialect.render, htoken]
    rfl
  have hsingle : [t].flatMap Token.lexemes = signedLexemes negative digits := by
    rw [List.flatMap_singleton, hlexemes]
  refine ⟨hrendered, hspelled, fun m hm => ?_, fun _ => ?_⟩
  · rw [sqlTree, htree] at hm ⊢
    rw [hsingle]
    exact reads_signed negative digits hm
  · rw [hsingle]
    exact isArgument_signed negative digits

theorem literal {value : Literal} (h : WritableLiteral value) :
    ∃ ts, Printed (.literal value) ts := by
  cases h with
  | null =>
    exact ⟨_, wordLiteral rfl .null rfl (by decide) rfl fun n =>
      .wordConstant (by decide) fun _ _ => rfl⟩
  | bool b =>
    cases b with
    | false =>
      exact ⟨_, wordLiteral rfl (.bool false) rfl (by decide) rfl fun n =>
        .wordConstant (by decide) fun _ _ => rfl⟩
    | true =>
      exact ⟨_, wordLiteral rfl (.bool true) rfl (by decide) rfl fun n =>
        .wordConstant (by decide) fun _ _ => rfl⟩
  | int _ => exact ⟨_, number rfl (.int _) rfl rfl⟩
  | @double f hcanonical hfinite =>
    have htoken : literalToken (.double f) = .ok (.float f) := by
      rw [literalToken, finiteToken, if_pos hfinite]
    exact ⟨_, number htoken (.float hcanonical hfinite) rfl rfl⟩
  | string s =>
    have hlexemes : [Token.string s].flatMap Token.lexemes = [.text .single s] := rfl
    refine ⟨[.string s], of_operand rfl (.string s) hlexemes rfl (by simp) (by simp [Unbracketed])
      (Nat.le_refl 40) (fun n _ => ?_) (.single (by simp))⟩
    exact .text s

/-! #### Operators -/

section Operators

variable {e left right : Expr} {ts us : List Token}

theorem spelled_comparison (op : ComparisonOp) : Spelled [comparisonToken op] := by
  cases op <;> exact .operator (by decide)

theorem lexemes_comparison (op : ComparisonOp) :
    (comparisonToken op).lexemes = [.symbol (comparisonText op)] := by
  cases op <;> rfl

/-- A comparison between its operands. -/
theorem compare {op : ComparisonOp} (hform : comparisonForm op right = .infixed)
    (hback : 20 ≤ backRank left) (hfront : 20 < frontRank right) (hl : Printed left ts)
    (hr : Printed right us) :
    Printed (.compare op left right) (Token.infixed ts (comparisonToken op) us) := by
  have hrendered : Dialect.generic.render (.compare op left right)
      = .ok (Token.infixed ts (comparisonToken op) us) := by
    unfold comparisonForm at hform
    rw [Dialect.render]
    split at hform
    · cases hform
    · split at hform
      · cases hform
      · rename_i heq hne
        rw [if_neg heq, if_neg hne, hl.rendered, hr.rendered]
        rfl
  refine ⟨hrendered, .infixed hl.spelled (spelled_comparison op) hr.spelled, fun n hn => ?_, ?_⟩
  · have htree : sqlTree (.compare op left right)
        = .binary (.compare op) (sqlTree left) (sqlTree right) := by
      simp only [sqlTree, hform]
    rw [htree, Tree.nesting, Nat.max_le] at hn
    obtain ⟨n, rfl⟩ : ∃ m, n = m + 1 := ⟨n - 1, by omega⟩
    have hreads := Reads.binary (IsOperator.comparison op) (hl.reads _ hn.1) hback
      (hr.reads n (by omega)) hfront
    rw [lexemes_infixed, lexemes_comparison, htree]
    simp only [frontRank, backRank, hform]
    exact hreads
  · intro hclosed
    cases hclosed

/-- The tokens of a test for null. -/
def nullTest (ts : List Token) : List Token := ts ++ Token.spaced (.keyword .is) ++ [.null]

/-- The tokens of a negation. -/
def negated (ts : List Token) : List Token := [.keyword .not, .space] ++ ts

theorem spelled_nullTest (h : Spelled ts) : Spelled (nullTest ts) := by
  rw [nullTest, List.append_assoc]
  exact .append h (.spaced (.keyword (by decide)) .null) (boundary_space _)

theorem lexemes_nullTest (ts : List Token) : (nullTest ts).flatMap Token.lexemes
    = ts.flatMap Token.lexemes ++ [wordLexeme "IS", wordLexeme "NULL"] := by
  rw [nullTest, List.append_assoc, List.flatMap_append]
  rfl

theorem spelled_negated (h : Spelled ts) : Spelled (negated ts) := by
  have hword : Spelled [.keyword .not] := .keyword (by decide)
  exact hword.append (.space h) (boundary_space ts)

theorem lexemes_negated (ts : List Token) :
    (negated ts).flatMap Token.lexemes = wordLexeme "NOT" :: ts.flatMap Token.lexemes := rfl

/-- A test for null. -/
theorem isNull (hback : 17 ≤ backRank left) (hl : Printed left ts) :
    Printed (.compare .eq left .null) (nullTest ts) := by
  have hrendered : Dialect.generic.render (.compare .eq left .null) = .ok (nullTest ts) := by
    rw [Dialect.render, if_pos (by decide), hl.rendered]
    rfl
  refine ⟨hrendered, spelled_nullTest hl.spelled, fun n hn => ?_, ?_⟩
  · have htree : sqlTree (.compare .eq left .null) = .isNull false (sqlTree left) := by
      simp only [sqlTree, comparisonForm, Expr.null, Expr.isNull, decide_true, Bool.and_self, if_true]
    rw [htree, Tree.nesting] at hn
    rw [lexemes_nullTest, htree]
    exact (hl.reads n hn).isNull hback closedRank
  · intro hclosed
    cases hclosed

/-- An operand that a negation stands in front of. -/
theorem reads_negated {ls : List Lexeme} {t : Tree} {n lo hi : Nat} (h : Reads n lo hi ls t)
    (hlo : 15 < lo) : Reads (n + 1) closedRank (min hi 15) (wordLexeme "NOT" :: ls)
      (.unary .not t) := by
  refine .of_operand (.not h hlo) (.cons (by decide) (by simp [wordLexeme]) _) ?_ closedRank
  intro hmem
  exact h.unbracketed (by simpa [wordLexeme] using hmem)

/-- A negated test for null. -/
theorem isNotNull (hfront : 15 < frontRank left) (hback : 17 ≤ backRank left)
    (hl : Printed left ts) : Printed (.compare .ne left .null) (negated (nullTest ts)) := by
  have hrendered : Dialect.generic.render (.compare .ne left .null)
      = .ok (negated (nullTest ts)) := by
    rw [Dialect.render, if_neg (by decide), if_pos (by decide), hl.rendered, negated, nullTest,
      ← List.append_assoc, ← List.append_assoc]
    rfl
  refine ⟨hrendered, spelled_negated (spelled_nullTest hl.spelled), fun n hn => ?_, ?_⟩
  · have htree : sqlTree (.compare .ne left .null)
        = .unary .not (.isNull false (sqlTree left)) := by
      simp only [sqlTree, comparisonForm, Expr.null, Expr.isNull]
      rfl
    rw [htree, Tree.nesting, Tree.nesting] at hn
    obtain ⟨n, rfl⟩ : ∃ m, n = m + 1 := ⟨n - 1, by omega⟩
    have htest := (hl.reads n (by omega)).isNull hback closedRank
    rw [lexemes_negated, lexemes_nullTest, htree]
    exact reads_negated htest (by omega)
  · intro hclosed
    cases hclosed

end Operators

end Printed

/-! ### Operands of connectives -/

/-- The tokens of an operand of a connective or negation, read as its tree with its parentheses. -/
structure PrintedOperand (e : Expr) (us : List Token) : Prop where
  spelled : Spelled us
  reads : ∀ n, (groupedTree e (sqlTree e)).nesting ≤ n →
    Reads n 17 15 (us.flatMap Token.lexemes) (groupedTree e (sqlTree e))

/-- Lexemes in parentheses are read at one level more. -/
theorem reads_enclosed {ls : List Lexeme} {t : Tree} {n lo hi : Nat} (h : Reads n lo hi ls t)
    (hlo : 0 < lo) (hi' : Nat) : Reads (n + 1) closedRank hi' (enclosed ls) (.nested t) := by
  refine .of_operand (.nested h hlo hi') (.cons rfl (by simp) _) ?_ closedRank
  intro hmem
  exact h.unbracketed (by simpa [enclosed] using hmem)

theorem Printed.operand {e : Expr} {ts : List Token} (h : Printed e ts) (hw : Writable e) :
    PrintedOperand e (grouped e ts) := by
  by_cases hlogical : isLogical e = true
  · have htokens : grouped e ts = Token.parenthesized ts := if_pos hlogical
    have htree : groupedTree e (sqlTree e) = .nested (sqlTree e) := if_pos hlogical
    rw [htokens]
    refine ⟨.parenthesized h.spelled, fun n hn => ?_⟩
    rw [htree, Tree.nesting] at hn
    obtain ⟨n, rfl⟩ : ∃ m, n = m + 1 := ⟨n - 1, by omega⟩
    rw [lexemes_parenthesized, htree]
    exact (reads_enclosed (h.reads n (by omega)) (frontRank_pos e) 15).weaken (by decide)
      (Nat.le_refl 15)
  · have hfalse : isLogical e = false := Bool.not_eq_true _ ▸ hlogical
    have htokens : grouped e ts = ts := if_neg hlogical
    have htree : groupedTree e (sqlTree e) = sqlTree e := if_neg hlogical
    rw [htokens]
    refine ⟨h.spelled, fun n hn => ?_⟩
    rw [htree] at hn ⊢
    exact (h.reads n hn).weaken (hw.ranks hfalse).1 (hw.ranks hfalse).2

/-- Every operand of a list printed with its parentheses. -/
theorem renderOperands_printed {args : List Expr}
    (h : ∀ a ∈ args, Writable a ∧ ∃ ts, Printed a ts) :
    ∃ parts, Dialect.generic.renderOperands args = .ok parts ∧
      List.Forall₂ PrintedOperand args parts := by
  rw [Dialect.renderOperands_eq_mapM]
  refine exists_mapM fun a ha => ?_
  obtain ⟨hw, ts, hts⟩ := h a ha
  refine ⟨grouped a ts, ?_, hts.operand hw⟩
  rw [hts.rendered]
  rfl

theorem literalTree_ne_chain (value : Literal) (op : ChainOp) (ts : List Tree) :
    literalTree value ≠ .chain op ts := by
  have hnumber : ∀ negative digits, signedTree negative digits ≠ .chain op ts := by
    intro negative digits
    rw [signedTree]
    split <;> exact Tree.noConfusion
  cases value with
  | int n => exact hnumber _ _
  | long n => exact hnumber _ _
  | double f => exact hnumber _ _
  | _ => exact Tree.noConfusion

theorem callTree_ne_chain (func : Func) (args : List Expr) (us : List Tree) (op : ChainOp)
    (ts : List Tree) : callTree func args us ≠ .chain op ts := by
  unfold callTree
  split <;> exact Tree.noConfusion

/-- Only a connective is read as a chain. -/
theorem sqlTree_ne_chain {e : Expr} (h : isLogical e = false) (op : ChainOp) (ts : List Tree) :
    sqlTree e ≠ .chain op ts := by
  cases e with
  | logical _ _ => cases h
  | field path =>
    rw [sqlTree, pathTree]
    split <;> exact Tree.noConfusion
  | literal value =>
    rw [sqlTree]
    exact literalTree_ne_chain value op ts
  | compare _ _ right =>
    unfold sqlTree
    split <;> exact Tree.noConfusion
  | call func args =>
    rw [sqlTree]
    exact callTree_ne_chain func args _ op ts
  | _ =>
    rw [sqlTree]
    exact Tree.noConfusion

theorem operands_groupedTree (e : Expr) (op : ChainOp) :
    (groupedTree e (sqlTree e)).operands op = [groupedTree e (sqlTree e)] := by
  refine operands_of_ne_chain fun operands => ?_
  unfold groupedTree
  by_cases hlogical : isLogical e = true
  · rw [if_pos hlogical]
    exact Tree.noConfusion
  · rw [if_neg hlogical]
    exact sqlTree_ne_chain (Bool.not_eq_true _ ▸ hlogical) op operands

theorem spelled_connective (op : LogicalOp) : Spelled [connectiveToken op] := by
  cases op <;> exact .keyword (by decide)

theorem lexemes_connective (op : LogicalOp) :
    (Token.spaced (connectiveToken op)).flatMap Token.lexemes
      = [wordLexeme (ChainOp.logical op).text] := by
  cases op <;> rfl

/-- Items with an operator between them are spelled. -/
theorem spelled_separated {operator : Token} (ho : Spelled [operator]) {items : List (List Token)}
    (h : ∀ item ∈ items, Spelled item) :
    Spelled (Token.separated (Token.spaced operator) items) :=
  .separated (fun _ hts => .spaced ho hts) (fun _ => boundary_space _) h

namespace Printed

/-- A connective between its operands. -/
theorem logical {op : LogicalOp} {args : List Expr} (hlen : 2 ≤ args.length)
    (h : ∀ a ∈ args, Writable a ∧ ∃ ts, Printed a ts) : ∃ ts, Printed (.logical op args) ts := by
  obtain ⟨parts, hparts, hall⟩ := renderOperands_printed h
  have hrendered : Dialect.generic.render (.logical op args)
      = .ok (Token.separated (Token.spaced (connectiveToken op)) parts) := by
    rw [Dialect.render, hparts]
    rfl
  have hspelled : ∀ part ∈ parts, Spelled part := forall_of_forall₂ hall fun _ _ h => h.spelled
  refine ⟨_, hrendered, spelled_separated (spelled_connective op) hspelled, fun n hn => ?_, ?_⟩
  · cases hall with
    | nil => exact absurd hlen (by decide)
    | @cons a part args parts hfirst hrest =>
      have hne : operandTrees args ≠ [] := by
        intro hnil
        rw [operandTrees_eq_map, List.map_eq_nil_iff] at hnil
        rw [hnil] at hlen
        simp at hlen
      have hflat : ∀ u ∈ operandTrees (a :: args), u.operands (.logical op) = [u] := by
        rw [operandTrees_eq_map]
        intro u hu
        obtain ⟨e, -, rfl⟩ := List.mem_map.1 hu
        exact operands_groupedTree e _
      rw [sqlTree, operandTrees, Tree.nesting, chainNesting, Nat.max_le] at hn
      obtain ⟨n, rfl⟩ : ∃ m, n = m + 1 := ⟨n - 1, by omega⟩
      have hbounds := connectiveRank_bounds op
      have hlevels : ∀ e ∈ args, (groupedTree e (sqlTree e)).nesting ≤ n := by
        have hrest := treesNesting_le.1 (Nat.le_of_succ_le_succ hn.2)
        rw [operandTrees_eq_map, List.forall_mem_map] at hrest
        exact hrest
      have hmore : List.Forall₂ (fun ms u => ∃ lo' hi', connectiveRank op < lo' ∧
          connectiveRank op ≤ hi' ∧ Reads n lo' hi' ms u)
          (parts.map fun us => us.flatMap Token.lexemes) (operandTrees args) := by
        rw [operandTrees_eq_map, List.forall₂_map_left_iff, List.forall₂_map_right_iff]
        refine ((List.forall₂_and_left _ _).2 ⟨hlevels, hrest⟩).flip.imp ?_
        rintro us e ⟨hlevel, hus⟩
        exact ⟨17, 15, by omega, by omega, hus.reads n hlevel⟩
      have hchain := Reads.chain (IsOperator.connective op) (hfirst.reads _ hn.1)
        (by omega) hmore
      rw [foldl_joined hne hflat, List.flatMap_map] at hchain
      rw [lexemes_separated, lexemes_connective]
      exact hchain.weaken (by simp only [frontRank]; omega) (Nat.le_refl _)
  · intro hclosed
    cases hclosed

/-- A negation. -/
theorem not {arg : Expr} {ts : List Token} (hw : Writable arg) (h : Printed arg ts) :
    Printed (.not arg) (negated (grouped arg ts)) := by
  have hrendered : Dialect.generic.render (.not arg) = .ok (negated (grouped arg ts)) := by
    rw [Dialect.render, h.rendered]
    rfl
  have hoperand := h.operand hw
  refine ⟨hrendered, spelled_negated hoperand.spelled, fun n hn => ?_, ?_⟩
  · rw [sqlTree, Tree.nesting] at hn
    obtain ⟨n, rfl⟩ : ∃ m, n = m + 1 := ⟨n - 1, by omega⟩
    rw [lexemes_negated, sqlTree]
    exact reads_negated (hoperand.reads n (by omega)) (by decide)
  · intro hclosed
    cases hclosed

/-! #### Parentheses -/

theorem spelled_arithmetic (op : ArithmeticOp) : Spelled [arithmeticToken op] := by
  cases op <;> exact .operator (by decide)

theorem lexemes_arithmetic (op : ArithmeticOp) :
    (arithmeticToken op).lexemes = [.symbol (arithmeticText op)] := by
  cases op <;> rfl

/-- A closed expression in parentheses. -/
theorem of_enclosed {e : Expr} {ts : List Token} {t : Tree}
    (hrendered : Dialect.generic.render e = .ok (Token.parenthesized ts)) (hspelled : Spelled ts)
    (htree : sqlTree e = .nested t) (hclosed : e.isClosed = true)
    (hreads : ∀ n, t.nesting ≤ n → ReadsWhole n (ts.flatMap Token.lexemes) t) :
    Printed e (Token.parenthesized ts) := by
  refine ⟨hrendered, .parenthesized hspelled, fun n hn => ?_, fun _ => ?_⟩
  · rw [htree, Tree.nesting] at hn
    obtain ⟨n, rfl⟩ : ∃ m, n = m + 1 := ⟨n - 1, by omega⟩
    obtain ⟨lo, hi, hlo, hinner⟩ := hreads n (by omega)
    rw [lexemes_parenthesized, htree, frontRank_of_closed hclosed, backRank_of_closed hclosed]
    exact reads_enclosed hinner hlo 40
  · rw [lexemes_parenthesized]
    exact .of_not_ident rfl (by simp) _

/-- An arithmetic operation. -/
theorem arithmetic {op : ArithmeticOp} {left right : Expr} {ts us : List Token}
    (hback : arithmeticRank op ≤ backRank left) (hfront : arithmeticRank op < frontRank right)
    (hl : Printed left ts) (hr : Printed right us) :
    Printed (.arithmetic op left right)
      (Token.parenthesized (Token.infixed ts (arithmeticToken op) us)) := by
  have hrendered : Dialect.generic.render (.arithmetic op left right)
      = .ok (Token.parenthesized (Token.infixed ts (arithmeticToken op) us)) := by
    rw [Dialect.render, hl.rendered, hr.rendered]
    rfl
  have htree : sqlTree (.arithmetic op left right)
      = .nested (.binary (.arithmetic op) (sqlTree left) (sqlTree right)) := by
    rw [sqlTree]
  have hlo : 0 < min (frontRank left) (arithmeticRank op) := by
    have hrank : 0 < arithmeticRank op := by cases op <;> decide
    exact Nat.lt_min.2 ⟨frontRank_pos left, hrank⟩
  refine of_enclosed hrendered (.infixed hl.spelled (spelled_arithmetic op) hr.spelled) htree rfl
    fun n hn => ?_
  rw [Tree.nesting, Nat.max_le] at hn
  obtain ⟨n, rfl⟩ : ∃ m, n = m + 1 := ⟨n - 1, by omega⟩
  rw [lexemes_infixed, lexemes_arithmetic]
  exact ⟨_, _, hlo, .binary (.arithmetic op) (hl.reads _ hn.1) hback (hr.reads n (by omega)) hfront⟩

/-- A printed expression is an expression of its own in front of no operator. -/
theorem whole {e : Expr} {ts : List Token} (h : Printed e ts) {n : Nat}
    (hn : (sqlTree e).nesting ≤ n) : ReadsWhole n (ts.flatMap Token.lexemes) (sqlTree e) :=
  ⟨_, _, frontRank_pos e, h.reads n hn⟩

end Printed

/-! ### Lists of operands -/

theorem renderList_printed {args : List Expr} (h : ∀ a ∈ args, ∃ ts, Printed a ts) :
    ∃ parts, Dialect.generic.renderList args = .ok parts ∧ List.Forall₂ Printed args parts := by
  rw [Dialect.renderList_eq_mapM]
  refine exists_mapM fun a ha => ?_
  obtain ⟨ts, hts⟩ := h a ha
  exact ⟨ts, hts.rendered, hts⟩

theorem operands_concat (e : Expr) : (sqlTree e).operands .concat = [sqlTree e] := by
  refine operands_of_ne_chain fun operands => ?_
  cases e with
  | logical op args =>
    rw [sqlTree]
    intro h
    cases h
  | _ => exact sqlTree_ne_chain rfl .concat operands

namespace Printed

/-- A concatenation. -/
theorem concat {first : Expr} {rest : List Expr} (hne : rest ≠ []) (hback : 40 ≤ backRank first)
    (hfit : ∀ a ∈ rest, 40 < frontRank a ∧ 40 ≤ backRank a) (hfirst : ∃ ts, Printed first ts)
    (hrest : ∀ a ∈ rest, ∃ ts, Printed a ts) :
    ∃ ts, Printed (.call .concat (first :: rest)) ts := by
  obtain ⟨ts, hts⟩ := hfirst
  obtain ⟨parts, hparts, hall⟩ := renderList_printed hrest
  have hlen : 2 ≤ (first :: rest).length := by
    have := List.length_pos_of_ne_nil hne
    rw [List.length_cons]
    omega
  have hrendered : Dialect.generic.render (.call .concat (first :: rest))
      = .ok (Token.parenthesized (Token.separated (Token.spaced .concat) (ts :: parts))) := by
    have harity : arity .concat (first :: rest).length = true := decide_eq_true hlen
    rw [Dialect.render, harity, Dialect.renderList, hts.rendered, hparts]
    · rfl
    · intro _ _ _ h
      cases h
    · intro _ _ h
      cases h
  have htree : sqlTree (.call .concat (first :: rest))
      = .nested (.chain .concat (sqlTree first :: sqlTrees rest)) := rfl
  have hspelled : ∀ part ∈ ts :: parts, Spelled part := by
    refine List.forall_mem_cons.2 ⟨hts.spelled, ?_⟩
    exact forall_of_forall₂ hall fun _ _ h => h.spelled
  have hflat : ∀ u ∈ sqlTrees (first :: rest), u.operands .concat = [u] := by
    rw [sqlTrees_eq_map]
    intro u hu
    obtain ⟨e, -, rfl⟩ := List.mem_map.1 hu
    exact operands_concat e
  have hmany : sqlTrees rest ≠ [] := by
    rw [sqlTrees_eq_map]
    exact fun hnil => hne (List.map_eq_nil_iff.1 hnil)
  refine ⟨_, of_enclosed hrendered (spelled_separated .concat hspelled) htree rfl fun n hn => ?_⟩
  rw [Tree.nesting, chainNesting, Nat.max_le] at hn
  obtain ⟨n, rfl⟩ : ∃ m, n = m + 1 := ⟨n - 1, by omega⟩
  have hlevels : ∀ e ∈ rest, (sqlTree e).nesting ≤ n := by
    have hle := treesNesting_le.1 (Nat.le_of_succ_le_succ hn.2)
    rw [sqlTrees_eq_map, List.forall_mem_map] at hle
    exact hle
  have hmore : List.Forall₂ (fun ms u => ∃ lo' hi', 40 < lo' ∧ 40 ≤ hi' ∧ Reads n lo' hi' ms u)
      (parts.map fun us => us.flatMap Token.lexemes) (sqlTrees rest) := by
    rw [sqlTrees_eq_map, List.forall₂_map_left_iff, List.forall₂_map_right_iff]
    have hboth := (List.forall₂_and_left _ _).2
      ⟨fun e he => And.intro (hlevels e he) (hfit e he), hall⟩
    refine hboth.flip.imp ?_
    rintro us e ⟨⟨hlevel, hfront, hback⟩, hus⟩
    exact ⟨_, _, hfront, hback, hus.reads n hlevel⟩
  have hchain := Reads.chain .concat (hts.reads _ hn.1) hback hmore
  have hlo : 0 < min (frontRank first) 40 := Nat.lt_min.2 ⟨frontRank_pos first, by decide⟩
  rw [foldl_joined hmany hflat, List.flatMap_map] at hchain
  rw [lexemes_separated]
  exact ⟨_, _, hlo, hchain⟩

end Printed

/-! ### Calls -/

/-- The words that printed calls start with. -/
def callWords : List String := ["SUBSTRING", "TRIM", "CEIL", "FLOOR"] ++ functionWords

theorem callWords_forms : ∀ word ∈ callWords, Text.upper word = word ∧ isBareName word = true ∧
    (wordLexeme word).isOneOf leadingWords = false := by
  decide

theorem unbracketed_commaLexemes {items : List (List Lexeme)} (h : ∀ ls ∈ items, Unbracketed ls) :
    Unbracketed (commaLexemes items) := by
  cases items with
  | nil => exact List.not_mem_nil
  | cons ls items =>
    obtain ⟨hfirst, hrest⟩ := List.forall_mem_cons.1 h
    exact hfirst.append (unbracketed_commaTail hrest)

/-- Tokens of arguments, spelled and without brackets. -/
def ArgumentTokens (args : List (List Token)) : Prop :=
  ∀ arg ∈ args, Spelled arg ∧ Unbracketed (arg.flatMap Token.lexemes)

theorem argumentTokens_printed {args : List Expr} {parts : List (List Token)}
    (h : List.Forall₂ Printed args parts) : ArgumentTokens parts :=
  forall_of_forall₂ h fun _ _ h => ⟨h.spelled, h.unbracketed⟩

theorem argumentTokens_string (s : String) : Spelled [.string s] ∧
    Unbracketed ([Token.string s].flatMap Token.lexemes) :=
  ⟨.string s, by simp [Unbracketed, Token.lexemes]⟩

namespace Printed

/-- A call whose lexemes are one operand. -/
theorem of_call {e : Expr} {word : String} {args : List (List Token)}
    (hrendered : Dialect.generic.render e = .ok (Token.call word args)) (hword : word ∈ callWords)
    (hargs : ArgumentTokens args) (hback : backRank e ≤ 40)
    (hread : ∀ n, (sqlTree e).nesting ≤ n → ReadsOperand n 40
      (wordLexeme word :: enclosed (commaLexemes (itemLexemes args))) (sqlTree e)) :
    Printed e (Token.call word args) := by
  obtain ⟨hupper, hbare, hlead⟩ := callWords_forms word hword
  have hspelled : Spelled (Token.call word args) :=
    .call (by rw [hupper, hbare]) fun arg harg => (hargs arg harg).1
  have hitems : ∀ ls ∈ itemLexemes args, Unbracketed ls :=
    List.forall_mem_map.2 fun arg harg => (hargs arg harg).2
  have hbracket : Unbracketed (wordLexeme word :: enclosed (commaLexemes (itemLexemes args))) := by
    intro hmem
    exact unbracketed_enclosed (unbracketed_commaLexemes hitems)
      (by simpa [wordLexeme] using hmem)
  exact of_operand hrendered hspelled (lexemes_call hupper args) hlead (by simp [wordLexeme]) hbracket
    hback hread (.cons (by simp [wordLexeme]) (by simp) _)

/-- A part of a text. -/
theorem substr {text : Expr} {start : Int64} {length : Option Expr}
    (hstart : start ≠ Int64.maxValue) (htext : ∃ ts, Printed text ts)
    (hlength : ∀ a ∈ length, ∃ ts, Printed a ts) :
    ∃ ts, Printed (.call .substr (text :: .int start :: length.toList)) ts := by
  obtain ⟨ts, hts⟩ := htext
  have hlength' : ∀ a ∈ length.toList, ∃ ts, Printed a ts :=
    fun a ha => hlength a (Option.mem_toList.1 ha)
  obtain ⟨parts, hparts, hall⟩ := renderList_printed hlength'
  have hrendered : Dialect.generic.render (.call .substr (text :: .int start :: length.toList))
      = .ok (Token.call "SUBSTRING" (ts :: [.int (start + 1)] :: parts)) := by
    have hfew : ¬ 1 < length.toList.length := by cases length <;> simp
    rw [Expr.int, Dialect.render_substr _ rfl, if_neg hfew, if_neg hstart, Dialect.substringTokens,
      hts.rendered, hparts]
    rfl
  have htree : sqlTree (.call .substr (text :: .int start :: length.toList))
      = .substring true (sqlTree text) (some (intTree (start + 1).toInt)) (length.map sqlTree) := by
    cases length <;> rfl
  have hposition : Spelled [.int (start + 1)] ∧
      Unbracketed ([Token.int (start + 1)].flatMap Token.lexemes) := by
    rw [lexemes_int]
    exact ⟨.int _, (reads_signed _ _ (Nat.le_refl _)).unbracketed⟩
  have hargs : ArgumentTokens (ts :: [.int (start + 1)] :: parts) :=
    List.forall_mem_cons.2 ⟨⟨hts.spelled, hts.unbracketed⟩,
      List.forall_mem_cons.2 ⟨hposition, argumentTokens_printed hall⟩⟩
  refine ⟨_, of_call hrendered (by decide) hargs (Nat.le_refl 40) fun n hn => ?_⟩
  rw [htree] at hn ⊢
  rw [Tree.nesting] at hn
  obtain ⟨n, rfl⟩ : ∃ m, n = m + 1 := ⟨n - 1, by omega⟩
  have hparts' : max (sqlTree text).nesting (max (intTree (start + 1).toInt).nesting
      (optionNesting (length.map sqlTree))) ≤ n := Nat.le_of_succ_le_succ hn
  rw [Nat.max_le, Nat.max_le] at hparts'
  obtain ⟨htext, hint, hlevel⟩ := hparts'
  have hmore : List.Forall₂ (ReadsWhole n) (itemLexemes parts) (length.map sqlTree).toList := by
    have hlevels : ∀ e ∈ length.toList, (sqlTree e).nesting ≤ n := by
      intro e he
      exact optionNesting_le.1 hlevel _ (Option.mem_map_of_mem _ (Option.mem_toList.1 he))
    rw [Option.toList_map, itemLexemes, List.forall₂_map_left_iff, List.forall₂_map_right_iff]
    refine ((List.forall₂_and_left _ _).2 ⟨hlevels, hall⟩).flip.imp ?_
    rintro us e ⟨hlevel, hus⟩
    exact hus.whole hlevel
  have hitems : itemLexemes (ts :: [.int (start + 1)] :: parts)
      = ts.flatMap Token.lexemes :: intLexemes (start + 1).toInt :: itemLexemes parts := by
    rw [itemLexemes, List.map_cons, List.map_cons, lexemes_int]
    rfl
  rw [hitems]
  exact .substring (hts.reads n htext) (frontRank_pos text) (reads_signed _ _ hint) (by decide) hmore

end Printed

/-- The functions that are printed by their word and read like any others. -/
def plainFunctions : List Func :=
  [.year, .month, .day, .hour, .minute, .second, .toLower, .toUpper, .length, .round, .min, .max,
    .count, .sum, .avg]

theorem functionWord_plain {func : Func} (h : func ∈ plainFunctions) :
    functionWord func ∈ functionWords := by
  revert h
  cases func <;> decide

/-- Every function that takes its arguments as they are is plain, or is read by a form of its own. -/
theorem plain_or_special {func : Func} (hconcat : func ≠ .concat) (hsubstr : func ≠ .substr)
    (hindex : func ≠ .indexOf) : func ∈ plainFunctions ∨ func ∈ [Func.trim, .ceil, .floor] := by
  revert hconcat hsubstr hindex
  cases func <;> decide

theorem length_eq_one {func : Func} {n : Nat} (h : func ∈ [Func.trim, .ceil, .floor])
    (harity : arity func n = true) : n = 1 := by
  simp only [List.mem_cons, List.not_mem_nil, or_false] at h
  rcases h with rfl | rfl | rfl <;> exact of_decide_eq_true harity

theorem eq_count_of_arity {func : Func} (harity : arity func 0 = true) : func = .count := by
  revert harity
  cases func <;> decide

/-- A call of at least one argument is its word with the arguments. -/
theorem callTokens_word {func : Func} (hconcat : func ≠ .concat) (hsubstr : func ≠ .substr)
    (hindex : func ≠ .indexOf) {part : List Token} {parts : List (List Token)}
    (harity : arity func (part :: parts).length = true) :
    callTokens .generic func (part :: parts) = Token.call (functionWord func) (part :: parts) := by
  have hdate : ∀ f, arity f (part :: parts).length = decide ((part :: parts).length = 1) →
      arity f (part :: parts).length = true →
      datePartTokens .function f (part :: parts).flatten
        = Token.call (datePartName f) (part :: parts) := by
    intro f hf hone
    rw [hf, decide_eq_true_eq] at hone
    obtain rfl : parts = [] := List.length_eq_zero_iff.1 (Nat.succ.inj hone)
    rw [datePartTokens, List.flatten_singleton]
  cases func with
  | concat => exact absurd rfl hconcat
  | substr => exact absurd rfl hsubstr
  | indexOf => exact absurd rfl hindex
  | year => exact hdate .year rfl harity
  | month => exact hdate .month rfl harity
  | day => exact hdate .day rfl harity
  | hour => exact hdate .hour rfl harity
  | minute => exact hdate .minute rfl harity
  | second => exact hdate .second rfl harity
  | _ => rfl

theorem render_call {func : Func} {args : List Expr} {parts : List (List Token)}
    (hsubstr : func ≠ .substr) (hindex : func ≠ .indexOf)
    (harity : arity func args.length = true)
    (hparts : Dialect.generic.renderList args = .ok parts) :
    Dialect.generic.render (.call func args) = .ok (callTokens .generic func parts) := by
  rw [Dialect.render, harity, hparts]
  · rfl
  · exact fun _ _ _ h => absurd h hsubstr
  · exact fun _ _ h => absurd h hindex

theorem callTree_plain {func : Func} (h : func ∈ plainFunctions) {arg : Expr} {args : List Expr}
    (ts : List Tree) :
    callTree func (arg :: args) ts = wordCall (functionWord func) (ts.map .value) := by
  revert h
  cases func <;> first
    | (intro h; exact absurd h (by decide))
    | (intro _; rfl)

namespace Printed

/-- The count of all rows. -/
theorem countAll : Printed (.call .count []) (Token.call "COUNT" [[.symbol "*"]]) := by
  have hargs : ArgumentTokens [[.symbol "*"]] := by
    intro arg harg
    obtain rfl := List.mem_singleton.1 harg
    exact ⟨.operator (by decide), by simp [Unbracketed, Token.lexemes]⟩
  refine of_call rfl (by decide) hargs (Nat.le_refl 40) fun n hn => ?_
  exact .countAll

/-- A function whose arguments are read like those of any other. -/
theorem plainCall {func : Func} (hfunc : func ∈ plainFunctions) {arg : Expr} {args : List Expr}
    (harity : arity func (arg :: args).length = true)
    (hclosed : ∀ a ∈ arg :: args, a.isClosed = true) (h : ∀ a ∈ arg :: args, ∃ ts, Printed a ts) :
    ∃ ts, Printed (.call func (arg :: args)) ts := by
  have hnone : func ≠ .concat ∧ func ≠ .substr ∧ func ≠ .indexOf := by
    revert hfunc
    cases func <;> decide
  obtain ⟨parts, hparts, hall⟩ := renderList_printed h
  obtain ⟨part, parts, rfl⟩ : ∃ part rest, parts = part :: rest := by
    cases hall
    exact ⟨_, _, rfl⟩
  have hlen : (arg :: args).length = (part :: parts).length := hall.length_eq
  have hrendered := render_call hnone.2.1 hnone.2.2 harity hparts
  rw [hlen] at harity
  rw [callTokens_word hnone.1 hnone.2.1 hnone.2.2 harity] at hrendered
  have hword := functionWord_plain hfunc
  have htree : sqlTree (.call func (arg :: args))
      = wordCall (functionWord func) (((arg :: args).map sqlTree).map .value) := by
    rw [sqlTree, callTree_plain hfunc, sqlTrees_eq_map]
  refine ⟨_, of_call hrendered (List.mem_append_right _ hword) (argumentTokens_printed hall)
    (Nat.le_refl 40) fun n hn => ?_⟩
  rw [htree, wordCall, Tree.nesting, argumentsNesting_values] at hn
  obtain ⟨n, rfl⟩ : ∃ m, n = m + 1 := ⟨n - 1, by omega⟩
  have hlevels : ∀ a ∈ arg :: args, (sqlTree a).nesting ≤ n ∧ a.isClosed = true := by
    have hle := treesNesting_le.1 (Nat.le_of_succ_le_succ hn)
    rw [List.forall_mem_map] at hle
    exact fun a ha => ⟨hle a ha, hclosed a ha⟩
  rw [htree]
  refine ReadsOperand.call hword (List.cons_ne_nil _ _) ?_
  rw [itemLexemes, List.forall₂_map_left_iff, List.forall₂_map_right_iff]
  refine ((List.forall₂_and_left _ _).2 ⟨hlevels, hall⟩).flip.imp ?_
  rintro us a ⟨⟨hlevel, hclosed⟩, hus⟩
  exact ⟨hus.argument hclosed, hus.whole hlevel⟩

/-- A function that the grammar knows by its word. -/
theorem specialCall {func : Func} (hfunc : func ∈ [Func.trim, .ceil, .floor]) {arg : Expr}
    {ts : List Token} (h : Printed arg ts) :
    Printed (.call func [arg]) (Token.call (functionWord func) [ts]) := by
  have hparts : Dialect.generic.renderList [arg] = .ok [ts] := by
    rw [Dialect.renderList, h.rendered]
    rfl
  have hargs : ArgumentTokens [ts] := by
    intro arg harg
    obtain rfl := List.mem_singleton.1 harg
    exact ⟨h.spelled, h.unbracketed⟩
  have hlexemes : commaLexemes (itemLexemes [ts]) = ts.flatMap Token.lexemes :=
    List.append_nil _
  simp only [List.mem_cons, List.not_mem_nil, or_false] at hfunc
  rcases hfunc with rfl | rfl | rfl
  · refine of_call (render_call (by decide) (by decide) rfl hparts) (by decide) hargs
      (Nat.le_refl 40) fun n hn => ?_
    have htree : sqlTree (.call .trim [arg]) = .trim (sqlTree arg) [] := rfl
    rw [htree, Tree.nesting, treesNesting] at hn
    obtain ⟨n, rfl⟩ : ∃ m, n = m + 1 := ⟨n - 1, by omega⟩
    rw [hlexemes, htree]
    exact .trim (h.reads n (by omega)) (frontRank_pos arg)
  · refine of_call (render_call (by decide) (by decide) rfl hparts) (by decide) hargs
      (Nat.le_refl 40) fun n hn => ?_
    have htree : sqlTree (.call .ceil [arg]) = .rounding "CEIL" (sqlTree arg) "" := rfl
    rw [htree, Tree.nesting] at hn
    obtain ⟨n, rfl⟩ : ∃ m, n = m + 1 := ⟨n - 1, by omega⟩
    rw [hlexemes, htree]
    exact .rounding (by decide) (h.reads n (by omega)) (frontRank_pos arg)
  · refine of_call (render_call (by decide) (by decide) rfl hparts) (by decide) hargs
      (Nat.le_refl 40) fun n hn => ?_
    have htree : sqlTree (.call .floor [arg]) = .rounding "FLOOR" (sqlTree arg) "" := rfl
    rw [htree, Tree.nesting] at hn
    obtain ⟨n, rfl⟩ : ∃ m, n = m + 1 := ⟨n - 1, by omega⟩
    rw [hlexemes, htree]
    exact .rounding (by decide) (h.reads n (by omega)) (frontRank_pos arg)

/-- A call of a function by its word. -/
theorem call {func : Func} {args : List Expr} (hconcat : func ≠ .concat) (hsubstr : func ≠ .substr)
    (hindex : func ≠ .indexOf) (harity : arity func args.length = true)
    (hclosed : ∀ a ∈ args, a.isClosed = true) (h : ∀ a ∈ args, ∃ ts, Printed a ts) :
    ∃ ts, Printed (.call func args) ts := by
  cases args with
  | nil =>
    obtain rfl := eq_count_of_arity harity
    exact ⟨_, countAll⟩
  | cons arg args =>
    rcases plain_or_special hconcat hsubstr hindex with hplain | hspecial
    · exact plainCall hplain harity hclosed h
    · have hone := length_eq_one hspecial harity
      obtain rfl : args = [] := List.length_eq_zero_iff.1 (Nat.succ.inj hone)
      obtain ⟨ts, hts⟩ := h arg List.mem_cons_self
      exact ⟨_, specialCall hspecial hts⟩

/-! #### Matches -/

theorem reads_string (s : String) (n : Nat) :
    IsArgument [.text .single s] ∧ ReadsWhole n [.text .single s] (textTree s) := by
  refine ⟨.single (by simp), closedRank, 40, by decide, ?_⟩
  exact .of_operand (.text s) (.cons rfl (by simp) []) (by simp [Unbracketed]) closedRank

theorem regexFlags_known {flags : String} (h : ∀ c ∈ flags.toList, c ∈ knownFlags) :
    regexFlags (some flags) = flags.toList := by
  have hknown : ∀ c ∈ flags.toList, decide (c ∈ ['i', 'm']) = true :=
    fun c hc => decide_eq_true (h c hc)
  exact List.filter_eq_self.2 hknown

/-- The arguments of a match are its input, its pattern and its options. -/
theorem regexTokens_function {options : Option String}
    (h : ∀ flags ∈ options, flags ≠ "" ∧ ∀ c ∈ flags.toList, c ∈ knownFlags) (input : List Token)
    (regex : String) :
    regexTokens .function input regex options
      = Token.call "REGEXP_LIKE" (input :: [.string regex] ::
          (options.map fun flags => [Token.string flags]).toList) := by
  cases options with
  | none => rfl
  | some flags =>
    obtain ⟨hne, hknown⟩ := h flags rfl
    have hflags := regexFlags_known hknown
    have hsome : flags.toList.isEmpty = false := by
      rw [List.isEmpty_eq_false_iff]
      exact fun hnil => hne (String.toList_eq_nil_iff.1 hnil)
    simp only [regexTokens, hflags, hsome, String.ofList_toList]
    rfl

/-- A match of a regular expression. -/
theorem regexMatch {input : Expr} {regex : String} {options : Option String}
    (hoptions : ∀ flags ∈ options, flags ≠ "" ∧ ∀ c ∈ flags.toList, c ∈ knownFlags)
    (hclosed : input.isClosed = true) {ts : List Token} (h : Printed input ts) :
    ∃ ts, Printed (.regexMatch input regex options) ts := by
  have hrendered : Dialect.generic.render (.regexMatch input regex options)
      = .ok (Token.call "REGEXP_LIKE" (ts :: [.string regex] ::
          (options.map fun flags => [Token.string flags]).toList)) := by
    rw [Dialect.render, h.rendered, ← regexTokens_function hoptions]
    rfl
  have hargs : ArgumentTokens (ts :: [.string regex] ::
      (options.map fun flags => [Token.string flags]).toList) := by
    refine List.forall_mem_cons.2 ⟨⟨h.spelled, h.unbracketed⟩,
      List.forall_mem_cons.2 ⟨argumentTokens_string regex, ?_⟩⟩
    rw [Option.toList_map, List.forall_mem_map]
    exact fun flags _ => argumentTokens_string flags
  have htree : sqlTree (.regexMatch input regex options) = wordCall "REGEXP_LIKE"
      ((sqlTree input :: textTree regex :: (options.map textTree).toList).map .value) := by
    rw [sqlTree]
  refine ⟨_, of_call hrendered (by decide) hargs (Nat.le_refl 40) fun n hn => ?_⟩
  rw [htree, wordCall, Tree.nesting, argumentsNesting_values, treesNesting] at hn
  obtain ⟨n, rfl⟩ : ∃ m, n = m + 1 := ⟨n - 1, by omega⟩
  rw [htree]
  refine ReadsOperand.call (by decide) (List.cons_ne_nil _ _) ?_
  refine .cons ⟨h.argument hclosed, h.whole (by omega)⟩ (.cons (reads_string regex n) ?_)
  cases options with
  | none => exact .nil
  | some flags => exact .cons (reads_string flags n) .nil

end Printed

/-! ### Conditionals -/

/-- The tokens of a condition and a value. -/
def PrintedBranch (branch : Expr × Expr) (part : List Token × List Token) : Prop :=
  Printed branch.1 part.1 ∧ Printed branch.2 part.2

/-- The tokens of branches, one behind the other. -/
def branchesTokens (parts : List (List Token × List Token)) : List Token :=
  parts.flatMap fun part => branchTokens part.1 part.2

/-- The tokens behind a conditional. -/
def endTokens : List Token := [.space, .keyword .end]

/-- The tokens of a default. -/
def defaultTokens (default : Option (List Token)) : List Token :=
  (default.map (Token.spaced (.keyword .else) ++ ·)).getD []

theorem renderBranches_printed {branches : List (Expr × Expr)}
    (hconditions : ∀ b ∈ branches, ∃ ts, Printed b.1 ts)
    (hvalues : ∀ b ∈ branches, ∃ ts, Printed b.2 ts) :
    ∃ parts, Dialect.generic.renderBranches branches = .ok (branchesTokens parts) ∧
      List.Forall₂ PrintedBranch branches parts := by
  induction branches with
  | nil => exact ⟨[], rfl, .nil⟩
  | cons b branches ih =>
    obtain ⟨cs, hcs⟩ := hconditions b List.mem_cons_self
    obtain ⟨vs, hvs⟩ := hvalues b List.mem_cons_self
    obtain ⟨parts, hparts, hall⟩ := ih (fun b hb => hconditions b (List.mem_cons_of_mem _ hb))
      fun b hb => hvalues b (List.mem_cons_of_mem _ hb)
    refine ⟨(cs, vs) :: parts, ?_, .cons ⟨hcs, hvs⟩ hall⟩
    obtain ⟨condition, value⟩ := b
    rw [Dialect.renderBranches, hcs.rendered, hvs.rendered, hparts]
    rfl

theorem renderDefault_printed {default : Option Expr} (h : ∀ e ∈ default, ∃ ts, Printed e ts) :
    ∃ part, Dialect.generic.renderDefault default = .ok (defaultTokens part) ∧
      Option.Rel Printed default part := by
  cases default with
  | none => exact ⟨none, rfl, .none⟩
  | some e =>
    obtain ⟨ts, hts⟩ := h e rfl
    refine ⟨some ts, ?_, .some hts⟩
    rw [Dialect.renderDefault, hts.rendered]
    rfl

theorem spelled_spaced_keyword {k : Keyword} (h : isBareName k.text = true) {ts us : List Token}
    (ht : Spelled ts) (hu : Spelled us) : Spelled (ts ++ (Token.spaced (.keyword k) ++ us)) :=
  .append ht (.spaced (.keyword h) hu) (boundary_space _)

theorem spelled_caseEnd {default : Option Expr} {part : Option (List Token)}
    (h : Option.Rel Printed default part) :
    Spelled (defaultTokens part ++ endTokens) ∧
      Boundary (spelling (defaultTokens part ++ endTokens)) := by
  have hend : Spelled endTokens := .space (.keyword (by decide))
  cases h with
  | none => exact ⟨hend, boundary_space _⟩
  | @some e ts hts =>
    have hword : Spelled [.keyword .else] := .keyword (by decide)
    have hvalue : Spelled (ts ++ endTokens) := .append hts.spelled hend (boundary_space _)
    exact ⟨.spaced hword hvalue, boundary_space _⟩

theorem spelled_branches {branches : List (Expr × Expr)} {parts : List (List Token × List Token)}
    (h : List.Forall₂ PrintedBranch branches parts) {us : List Token} (hu : Spelled us)
    (hboundary : Boundary (spelling us)) :
    Spelled (branchesTokens parts ++ us) ∧ Boundary (spelling (branchesTokens parts ++ us)) := by
  induction h with
  | nil => exact ⟨hu, hboundary⟩
  | @cons b part branches parts hfirst _ ih =>
    have htokens : branchesTokens (part :: parts) ++ us
        = Token.spaced (.keyword .when) ++ (part.1 ++ (Token.spaced (.keyword .then) ++
            (part.2 ++ (branchesTokens parts ++ us)))) := by
      simp [branchesTokens, branchTokens, Token.spaced]
    have hvalue : Spelled (part.2 ++ (branchesTokens parts ++ us)) :=
      .append hfirst.2.spelled ih.1 ih.2
    have hthen : isBareName (Keyword.text .then) = true := by decide
    have hcondition := spelled_spaced_keyword hthen hfirst.1.spelled hvalue
    rw [htokens]
    exact ⟨.spaced (.keyword (by decide)) hcondition, boundary_space _⟩

/-- The lexemes of a condition and a value. -/
def partLexemes (part : List Token × List Token) : List Lexeme × List Lexeme :=
  (part.1.flatMap Token.lexemes, part.2.flatMap Token.lexemes)

theorem lexemes_branches (parts : List (List Token × List Token)) :
    (branchesTokens parts).flatMap Token.lexemes
      = ((parts.map partLexemes).map fun part => branchLexemes part.1 part.2).flatten := by
  induction parts with
  | nil => rfl
  | cons p parts ih =>
    have hbranch : (branchTokens p.1 p.2).flatMap Token.lexemes
        = branchLexemes (partLexemes p).1 (partLexemes p).2 := by
      simp [branchTokens, branchLexemes, partLexemes, Token.spaced, Token.lexemes, Keyword.text]
    rw [List.map_cons, List.map_cons, List.flatten_cons, ← ih, ← hbranch, branchesTokens,
      List.flatMap_cons, List.flatMap_append]
    rfl

theorem lexemes_case (parts : List (List Token × List Token)) (part : Option (List Token)) :
    (caseTokens (branchesTokens parts) (defaultTokens part)).flatMap Token.lexemes
      = wordLexeme "CASE" ::
        (((parts.map partLexemes).map fun part => branchLexemes part.1 part.2).flatten ++
          caseEnd (part.map fun ts => ts.flatMap Token.lexemes) []) := by
  have hend : (defaultTokens part ++ endTokens).flatMap Token.lexemes
      = caseEnd (part.map fun ts => ts.flatMap Token.lexemes) [] := by
    cases part with
    | none => rfl
    | some ts =>
      simp [defaultTokens, endTokens, caseEnd, Token.spaced, Token.lexemes, Keyword.text]
  have htokens : caseTokens (branchesTokens parts) (defaultTokens part)
      = .keyword .case :: (branchesTokens parts ++ (defaultTokens part ++ endTokens)) := by
    rw [caseTokens, List.append_assoc]
    rfl
  rw [htokens, List.flatMap_cons, List.flatMap_append, hend, lexemes_branches]
  rfl

namespace Printed

/-- A conditional from its branches and its default. -/
theorem of_case {e : Expr} {branches : List (Expr × Expr)} {default : Option Expr}
    {parts : List (List Token × List Token)} {part : Option (List Token)}
    (hrendered : Dialect.generic.render e
      = .ok (caseTokens (branchesTokens parts) (defaultTokens part)))
    (htree : sqlTree e = .case none (branches.map fun b => (sqlTree b.1, sqlTree b.2))
      (default.map sqlTree))
    (hback : backRank e ≤ 40) (hne : branches ≠ [])
    (hparts : List.Forall₂ PrintedBranch branches parts) (hpart : Option.Rel Printed default part) :
    Printed e (caseTokens (branchesTokens parts) (defaultTokens part)) := by
  obtain ⟨p, parts, rfl⟩ : ∃ p rest, parts = p :: rest := by
    cases hparts with
    | nil => exact absurd rfl hne
    | cons _ _ => exact ⟨_, _, rfl⟩
  have hend := spelled_caseEnd hpart
  have hbranches := spelled_branches hparts hend.1 hend.2
  have hspelled : Spelled (caseTokens (branchesTokens (p :: parts)) (defaultTokens part)) := by
    have hword : Spelled [.keyword .case] := .keyword (by decide)
    rw [caseTokens, List.append_assoc]
    exact hword.append hbranches.1 hbranches.2
  have hwhens : ∀ n, branchesNesting (branches.map fun b => (sqlTree b.1, sqlTree b.2)) ≤ n →
      List.Forall₂ (fun part branch => ReadsBranch n part.1 part.2 branch)
        ((p :: parts).map partLexemes) (branches.map fun b => (sqlTree b.1, sqlTree b.2)) := by
    intro n hn
    have hlevels := branchesNesting_le.1 hn
    rw [List.forall_mem_map] at hlevels
    rw [List.forall₂_map_left_iff, List.forall₂_map_right_iff]
    refine ((List.forall₂_and_left _ _).2 ⟨hlevels, hparts⟩).flip.imp ?_
    rintro p b ⟨⟨hcondition, hvalue⟩, hp⟩
    exact ⟨hp.1.whole hcondition, hp.2.whole hvalue⟩
  have hotherwise : ∀ n, optionNesting (default.map sqlTree) ≤ n →
      Option.Rel (ReadsWhole n) (part.map fun ts => ts.flatMap Token.lexemes)
        (default.map sqlTree) := by
    intro n hn
    have hlevel := optionNesting_le.1 hn
    cases hpart with
    | none => exact .none
    | some hts => exact .some (hts.whole (hlevel _ rfl))
  have hbracket : Unbracketed (wordLexeme "CASE" ::
      ((((p :: parts).map partLexemes).map fun part => branchLexemes part.1 part.2).flatten ++
        caseEnd (part.map fun ts => ts.flatMap Token.lexemes) [])) := by
    have htail := goesOn_caseEnd (hotherwise _ (Nat.le_refl _)) List.not_mem_nil
    have hall := (unbracketed_branches (hwhens _ (Nat.le_refl _))).append htail.1.unbracketed
    intro hmem
    exact hall (by simpa [wordLexeme] using hmem)
  refine of_operand hrendered hspelled (lexemes_case _ _) (by decide) (by simp [wordLexeme]) hbracket
    hback (fun n hn => ?_) (.cons (by simp [wordLexeme]) (by decide) _)
  rw [htree, Tree.nesting] at hn
  obtain ⟨n, rfl⟩ : ∃ m, n = m + 1 := ⟨n - 1, by omega⟩
  have hlevels := Nat.le_of_succ_le_succ hn
  rw [Nat.max_le, Nat.max_le] at hlevels
  rw [htree]
  exact .case (List.cons_ne_nil _ _) (hwhens n hlevels.2.1) (hotherwise n hlevels.2.2)

/-- A conditional of one branch and a default. -/
theorem cond {condition yes no : Expr} {cs ys ns : List Token} (hc : Printed condition cs)
    (hy : Printed yes ys) (hn : Printed no ns) :
    Printed (.cond condition yes no)
      (caseTokens (branchesTokens [(cs, ys)]) (defaultTokens (some ns))) := by
  have hrendered : Dialect.generic.render (.cond condition yes no)
      = .ok (caseTokens (branchesTokens [(cs, ys)]) (defaultTokens (some ns))) := by
    rw [Dialect.render, hc.rendered, hy.rendered, hn.rendered, branchesTokens,
      List.flatMap_singleton]
    rfl
  have htree : sqlTree (.cond condition yes no)
      = .case none ([(condition, yes)].map fun b => (sqlTree b.1, sqlTree b.2))
        ((some no).map sqlTree) := by
    rw [sqlTree]
    rfl
  exact of_case hrendered htree (Nat.le_refl 40) (List.cons_ne_nil _ _) (.cons ⟨hc, hy⟩ .nil)
    (.some hn)

/-- A conditional of several branches. -/
theorem switch {branches : List (Expr × Expr)} {default : Option Expr} (hne : branches ≠ [])
    (hconditions : ∀ b ∈ branches, ∃ ts, Printed b.1 ts)
    (hvalues : ∀ b ∈ branches, ∃ ts, Printed b.2 ts) (hdefault : ∀ e ∈ default, ∃ ts, Printed e ts) :
    ∃ ts, Printed (.switch branches default) ts := by
  obtain ⟨parts, hparts, hall⟩ := renderBranches_printed hconditions hvalues
  obtain ⟨part, hpart, hrel⟩ := renderDefault_printed hdefault
  have hrendered : Dialect.generic.render (.switch branches default)
      = .ok (caseTokens (branchesTokens parts) (defaultTokens part)) := by
    have hmany : branches.isEmpty = false := List.isEmpty_eq_false_iff.2 hne
    rw [Dialect.render.eq_def]
    simp only [hmany, hparts, hpart]
    rfl
  have htree : sqlTree (.switch branches default)
      = .case none (branches.map fun b => (sqlTree b.1, sqlTree b.2)) (default.map sqlTree) := by
    rw [sqlTree, branchTrees_eq_map, defaultTree_eq_map]
  exact ⟨_, of_case hrendered htree (Nat.le_refl 40) hne hall hrel⟩

end Printed

/-! ### Every writable expression -/

/-- The text of a writable expression is read as its tree. -/
theorem Writable.printed {e : Expr} (h : Writable e) : ∃ ts, Printed e ts := by
  induction h with
  | field hname => exact Printed.field hname
  | literal hvalue => exact Printed.literal hvalue
  | isNull hback _ ih =>
    obtain ⟨ts, hts⟩ := ih
    exact ⟨_, .isNull hback hts⟩
  | isNotNull hfront hback _ ih =>
    obtain ⟨ts, hts⟩ := ih
    exact ⟨_, .isNotNull hfront hback hts⟩
  | compare hform hback hfront _ _ ihl ihr =>
    obtain ⟨ts, hts⟩ := ihl
    obtain ⟨us, hus⟩ := ihr
    exact ⟨_, .compare hform hback hfront hts hus⟩
  | logical hlen hargs ih => exact Printed.logical hlen fun a ha => ⟨hargs a ha, ih a ha⟩
  | not harg ih =>
    obtain ⟨ts, hts⟩ := ih
    exact ⟨_, .not harg hts⟩
  | arithmetic hback hfront _ _ ihl ihr =>
    obtain ⟨ts, hts⟩ := ihl
    obtain ⟨us, hus⟩ := ihr
    exact ⟨_, .arithmetic hback hfront hts hus⟩
  | concat hne hback hfit _ _ ihfirst ihrest => exact Printed.concat hne hback hfit ihfirst ihrest
  | substr hstart _ _ ihtext ihlength => exact Printed.substr hstart ihtext ihlength
  | call hconcat hsubstr hindex harity hclosed _ ih =>
    exact Printed.call hconcat hsubstr hindex harity hclosed ih
  | regexMatch hoptions hclosed _ ih =>
    obtain ⟨ts, hts⟩ := ih
    exact Printed.regexMatch hoptions hclosed hts
  | cond _ _ _ ihc ihy ihn =>
    obtain ⟨cs, hcs⟩ := ihc
    obtain ⟨ys, hys⟩ := ihy
    obtain ⟨ns, hns⟩ := ihn
    exact ⟨_, .cond hcs hys hns⟩
  | switch hne _ _ _ _ ihconditions ihvalues ihdefault =>
    exact Printed.switch hne ihconditions ihvalues ihdefault

/-- A text is read as a tree, all of it, by every reader that allows its levels of nesting. -/
def TextReads (text : String) (t : Tree) : Prop :=
  ∃ ls, lexemes? .generic text = some ls ∧
    ∀ n, t.nesting < n → (level n).expression ls = .ok (t, [])

/-- The text of a writable expression is read as its tree. -/
theorem Writable.textReads {e : Expr} (h : Writable e) :
    ∃ text, Dialect.generic.exprText e = .ok text ∧ TextReads text (sqlTree e) := by
  obtain ⟨ts, hts⟩ := h.printed
  refine ⟨Dialect.generic.text ts, ?_, _, lexemes?_text hts.spelled, fun n hn => ?_⟩
  · rw [Dialect.exprText, hts.rendered]
    rfl
  · obtain ⟨n, rfl⟩ : ∃ m, n = m + 1 := ⟨n - 1, by omega⟩
    have hread := (hts.reads n (Nat.le_of_lt_succ hn)).expression (frontRank_pos e) .nil rfl
    rw [List.append_nil] at hread
    exact hread

/-- The limit of nesting is enough for a tree below it. -/
theorem TextReads.expression? {text : String} {t : Tree} (h : TextReads text t)
    (hlevels : t.nesting < nestingLimit) : expression? .generic text = some t := by
  obtain ⟨ls, hlexemes, hread⟩ := h
  have hwhole : (readings .generic (readers .generic false nestingLimit)).expression ls
      = .ok (t, []) := hread nestingLimit hlevels
  simp only [Sql.expression?, hlexemes, Option.bind_eq_bind, Option.bind_some, hwhole]

end Polyquery.Sql
