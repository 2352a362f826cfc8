import Polyquery.Proofs.Sql.RoundTrip

/-!
# Operands that are conditions themselves

Connectives and negations put their operands in parentheses where they have to.  Comparisons,
arithmetic and concatenation do not, so a condition among their operands keeps its place only if the
strengths of its operators allow it.

* `operandsFit` - whether they do, everywhere in an expression;
* `parseExpr_of_operandsFit` - then the text reads back;
* `render_compare_compare`, `render_compare_logical`, `render_compare_not` - where they do not, two
  different expressions have one text.
-/

namespace Polyquery.Sql

/-! ### Operators over names and constants -/

/-- Comparisons, arithmetic, concatenation, connectives and negations over names and constants. -/
inductive Operators : Expr → Prop where
  | field {path : String} :
      (∀ name ∈ Text.segments path, IsPlainName name) → Operators (.field path)
  | literal {value : Literal} : WritableLiteral value → Operators (.literal value)
  | compare {op : ComparisonOp} {left right : Expr} :
      Operators left → Operators right → Operators (.compare op left right)
  | arithmetic {op : ArithmeticOp} {left right : Expr} :
      Operators left → Operators right → Operators (.arithmetic op left right)
  | concat {args : List Expr} :
      2 ≤ args.length → (∀ a ∈ args, Operators a) → Operators (.call .concat args)
  | logical {op : LogicalOp} {args : List Expr} :
      2 ≤ args.length → (∀ a ∈ args, Operators a) → Operators (.logical op args)
  | not {arg : Expr} : Operators arg → Operators (.not arg)

/-- Whether the operands of a comparison fit on its sides. -/
def comparisonFits (op : ComparisonOp) (left right : Expr) : Bool :=
  match comparisonForm op right with
  | .isNull => 17 ≤ backRank left
  | .isNotNull => 15 < frontRank left && 17 ≤ backRank left
  | .infixed => 20 ≤ backRank left && 20 < frontRank right

/-- Whether the operands of a concatenation fit: the first one in front of the operator, the others
on both sides of it. -/
def concatFits : List Expr → Bool
  | [] => true
  | first :: rest =>
    decide (40 ≤ backRank first) && rest.all fun a => 40 < frontRank a && 40 ≤ backRank a

mutual

/-- Whether every operand of an operator without parentheses stays in its place. -/
def operandsFit : Expr → Bool
  | .compare op left right =>
    comparisonFits op left right && operandsFit left && operandsFit right
  | .arithmetic op left right =>
    arithmeticRank op ≤ backRank left && arithmeticRank op < frontRank right &&
      operandsFit left && operandsFit right
  | .call .concat args => concatFits args && allOperandsFit args
  | .logical _ args => allOperandsFit args
  | .not arg => operandsFit arg
  | _ => true

/-- Whether the operands of every expression stay in their places. -/
def allOperandsFit : List Expr → Bool
  | [] => true
  | e :: rest => operandsFit e && allOperandsFit rest

end

theorem allOperandsFit_iff {args : List Expr} :
    allOperandsFit args = true ↔ ∀ a ∈ args, operandsFit a = true := by
  induction args with
  | nil => simp [allOperandsFit]
  | cons e rest ih => rw [allOperandsFit, Bool.and_eq_true, ih, List.forall_mem_cons]

/-- A comparison whose operands fit. -/
theorem writable_of_comparisonFits {op : ComparisonOp} {left right : Expr}
    (h : comparisonFits op left right = true) (hl : Writable left) (hr : Writable right) :
    Writable (.compare op left right) := by
  unfold comparisonFits at h
  obtain ⟨rfl, rfl⟩ | ⟨rfl, rfl⟩ | hform := comparisonForm_cases op right
  · exact .isNull (of_decide_eq_true h) hl
  · have hboth := Bool.and_eq_true_iff.1 h
    exact .isNotNull (of_decide_eq_true hboth.1) (of_decide_eq_true hboth.2) hl
  · rw [hform, Bool.and_eq_true] at h
    exact .compare hform (of_decide_eq_true h.1) (of_decide_eq_true h.2) hl hr

/-- Where every operand fits, the expression is writable. -/
theorem Operators.writable {e : Expr} (h : Operators e) (hfit : operandsFit e = true) :
    Writable e := by
  induction h with
  | field hnames =>
    exact .field fun name hname => (hnames name (List.mem_of_mem_head? hname)).isName
  | literal hvalue => exact .literal hvalue
  | compare _ _ ihl ihr =>
    rw [operandsFit, Bool.and_eq_true, Bool.and_eq_true] at hfit
    exact writable_of_comparisonFits hfit.1.1 (ihl hfit.1.2) (ihr hfit.2)
  | arithmetic _ _ ihl ihr =>
    simp only [operandsFit, Bool.and_eq_true, decide_eq_true_eq] at hfit
    exact .arithmetic hfit.1.1.1 hfit.1.1.2 (ihl hfit.1.2) (ihr hfit.2)
  | @concat args hlen _ ih =>
    rw [operandsFit, Bool.and_eq_true, allOperandsFit_iff] at hfit
    have hargs : ∀ a ∈ args, Writable a := fun a ha => ih a ha (hfit.2 a ha)
    match args, hlen, hfit.1, hargs with
    | first :: second :: rest, _, hplaces, hargs =>
      obtain ⟨hfirst, hrest⟩ := List.forall_mem_cons.1 hargs
      rw [concatFits, Bool.and_eq_true, List.all_eq_true, decide_eq_true_eq] at hplaces
      refine .concat (List.cons_ne_nil _ _) hplaces.1 (fun a ha => ?_) hfirst hrest
      simpa using hplaces.2 a ha
  | logical hlen _ ih =>
    rw [operandsFit, allOperandsFit_iff] at hfit
    exact .logical hlen fun a ha => ih a ha (hfit a ha)
  | not _ ih => exact .not (ih hfit)

/-- The generic text of an expression whose operands fit is read back as its normal form. -/
theorem parseExpr_of_operandsFit {e : Expr} (h : Operators e) (hfit : operandsFit e = true)
    (hlevels : (sqlTree e).nesting < nestingLimit) :
    ∃ text, Dialect.generic.exprText e = .ok text ∧
      parseExpr .generic .empty text = .ok e.sqlNormal :=
  parseExpr_of_writable (h.writable hfit) hlevels

theorem operators_abc : ∀ name ∈ ["a", "b", "c"], Operators (.field name) := by
  have hlisted : ∀ name ∈ ["a", "b", "c"], name ∈ plainColumns := by decide
  exact fun name hname => .field (isPlainName_plainColumns (hlisted name hname))

/-- A comparison on the left of another one, and a negation on its right. -/
theorem parseExpr_of_operandsFit_comparisons :
    Operators (.compare .eq (.compare .eq (.field "a") (.field "b")) (.not (.field "c"))) ∧
    operandsFit (.compare .eq (.compare .eq (.field "a") (.field "b")) (.not (.field "c"))) = true ∧
    (sqlTree (.compare .eq (.compare .eq (.field "a") (.field "b"))
      (.not (.field "c")))).nesting < nestingLimit ∧
    ∃ text, Dialect.generic.exprText (.compare .eq (.compare .eq (.field "a") (.field "b"))
        (.not (.field "c"))) = .ok text ∧
      parseExpr .generic .empty text
        = .ok (.compare .eq (.compare .eq (.field "a") (.field "b")) (.not (.field "c"))) := by
  have h : Operators (.compare .eq (.compare .eq (.field "a") (.field "b")) (.not (.field "c"))) :=
    .compare (.compare (operators_abc _ (by decide)) (operators_abc _ (by decide)))
      (.not (operators_abc _ (by decide)))
  have hfit : operandsFit (.compare .eq (.compare .eq (.field "a") (.field "b"))
      (.not (.field "c"))) = true := by decide
  have hlevels : (sqlTree (.compare .eq (.compare .eq (.field "a") (.field "b"))
      (.not (.field "c")))).nesting < nestingLimit := by decide
  exact ⟨h, hfit, hlevels, parseExpr_of_operandsFit h hfit hlevels⟩

/-! ### Expressions with one text -/

section Regrouping

variable (d : Dialect) {op op' : ComparisonOp}

/-- A comparison between its operands, in any dialect. -/
theorem render_infixed {left right : Expr} (h : comparisonForm op right = .infixed) :
    d.render (.compare op left right) = (d.render left >>= fun ts => d.render right >>= fun us =>
      .ok (Token.infixed ts (comparisonToken op) us)) := by
  unfold comparisonForm at h
  rw [Dialect.render]
  split at h
  · cases h
  · rename_i heq
    split at h
    · cases h
    · rename_i hne
      rw [if_neg heq, if_neg hne]

/-- A comparison on the right of another one is written like one on the left of it. -/
theorem render_compare_compare {left middle right : Expr}
    (hmiddle : comparisonForm op middle = .infixed) (hright : comparisonForm op' right = .infixed) :
    d.render (.compare op left (.compare op' middle right))
      = d.render (.compare op' (.compare op left middle) right) := by
  have houter : comparisonForm op (.compare op' middle right) = .infixed := rfl
  rw [render_infixed d houter, render_infixed d hright, render_infixed d hright,
    render_infixed d hmiddle]
  cases d.render left with
  | error _ => rfl
  | ok ls =>
    cases d.render middle with
    | error _ => rfl
    | ok ms =>
      cases d.render right with
      | error _ => rfl
      | ok rs =>
        show Except.ok (Token.infixed ls _ (Token.infixed ms _ rs))
          = Except.ok (Token.infixed (Token.infixed ls _ ms) _ rs)
        simp only [Token.infixed, List.append_assoc]

/-- A negation on the left of a comparison is written like the negation of the comparison. -/
theorem render_compare_not {arg right : Expr} (harg : isLogical arg = false)
    (hright : comparisonForm op right = .infixed) :
    d.render (.compare op (.not arg) right) = d.render (.not (.compare op arg right)) := by
  have hgrouped : ∀ ts, grouped arg ts = ts := by
    intro ts
    rw [grouped, harg]
    rfl
  rw [render_infixed d hright, Dialect.render, Dialect.render, render_infixed d hright]
  cases d.render arg with
  | error _ => rfl
  | ok ts =>
    cases d.render right with
    | error _ => rfl
    | ok us =>
      show Except.ok (Token.infixed ([.keyword .not, .space] ++ grouped arg ts) _ us)
        = Except.ok ([.keyword .not, .space] ++ Token.infixed ts _ us)
      rw [hgrouped]
      simp only [Token.infixed, List.append_assoc]

/-- A connective on the left of a comparison is written like the connective of its other operand and
the comparison of the last one. -/
theorem render_compare_logical {k : LogicalOp} {first second right : Expr}
    (hsecond : isLogical second = false) (hright : comparisonForm op right = .infixed) :
    d.render (.compare op (.logical k [first, second]) right)
      = d.render (.logical k [first, .compare op second right]) := by
  have hgrouped : ∀ ts, grouped second ts = ts := by
    intro ts
    rw [grouped, hsecond]
    rfl
  have hcompare : ∀ ts, grouped (.compare op second right) ts = ts := fun _ => rfl
  rw [render_infixed d hright, Dialect.render, Dialect.render]
  simp only [Dialect.renderOperands, render_infixed d hright]
  cases d.render first with
  | error _ => rfl
  | ok ts =>
    cases d.render second with
    | error _ => rfl
    | ok us =>
      cases d.render right with
      | error _ => rfl
      | ok vs =>
        show Except.ok (Token.infixed (Token.separated _ [grouped first ts, grouped second us]) _ vs)
          = Except.ok (Token.separated _ [grouped first ts, grouped _ (Token.infixed us _ vs)])
        rw [hgrouped, hcompare]
        simp only [Token.infixed, Token.separated, List.append_assoc]

end Regrouping

/-- A comparison on the right of another one reads back as one on the left of it. -/
theorem parseExpr_compare_compare {op op' : ComparisonOp} {left middle right : Expr}
    (hmiddle : comparisonForm op middle = .infixed) (hright : comparisonForm op' right = .infixed)
    (h : Operators (.compare op' (.compare op left middle) right))
    (hfit : operandsFit (.compare op' (.compare op left middle) right) = true)
    (hlevels : (sqlTree (.compare op' (.compare op left middle) right)).nesting < nestingLimit) :
    ∃ text, Dialect.generic.exprText (.compare op left (.compare op' middle right)) = .ok text ∧
      parseExpr .generic .empty text
        = .ok (Expr.compare op' (.compare op left middle) right).sqlNormal := by
  obtain ⟨text, htext, hread⟩ := parseExpr_of_writable (h.writable hfit) hlevels
  refine ⟨text, ?_, hread⟩
  rw [Dialect.exprText, render_compare_compare .generic hmiddle hright]
  exact htext

/-- The comparison of a column with the comparison of two others reads back as another one. -/
theorem nested_comparison_regrouped :
    ∃ text, Dialect.generic.exprText (.compare .eq (.field "a") (.compare .eq (.field "b") (.field "c")))
        = .ok text ∧
      parseExpr .generic .empty text
        = .ok (.compare .eq (.compare .eq (.field "a") (.field "b")) (.field "c")) ∧
      Expr.compare .eq (.compare .eq (.field "a") (.field "b")) (.field "c")
        ≠ (Expr.compare .eq (.field "a") (.compare .eq (.field "b") (.field "c"))).sqlNormal := by
  have h : Operators (.compare .eq (.compare .eq (.field "a") (.field "b")) (.field "c")) :=
    .compare (.compare (operators_abc _ (by decide)) (operators_abc _ (by decide)))
      (operators_abc _ (by decide))
  obtain ⟨text, htext, hread⟩ :=
    @parseExpr_compare_compare .eq .eq _ _ _ rfl rfl h (by decide) (by decide)
  refine ⟨text, htext, hread, fun heq => ?_⟩
  have hsides := (Expr.compare.inj heq).2.1
  cases hsides

end Polyquery.Sql
