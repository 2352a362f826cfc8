import Polyquery.Proofs.FrontEnds.Formula
import Polyquery.Proofs.OData.RoundTrip

/-!
# Formulas in query options

* `written_textAt` - a text where a level is asked for, in parentheses or not;
* `comparisonOf_meaning` - no comparison of shared formulas is folded into a text test;
* `written_optionText` - the text of a formula means what the formula means.
-/

namespace Polyquery.FrontEnds

open OData

/-! ### Texts at a level -/

theorem written_textAt (sp : Spelling) (l : Level) {f : Formula} {text : String} {e : Expr}
    (h : Written .empty f.level text.toList e) :
    Written .empty l (Formula.textAt sp l f text).toList e := by
  rw [Formula.textAt]
  split
  · rename_i hbare
    rw [Bool.and_eq_true, decide_eq_true_eq] at hbare
    exact h.looser hbare.1
  · rw [parenthesized_toList]
    exact h.parenthesized.looser (Nat.zero_le l.rank)

/-- Everything may stand where an argument stands. -/
theorem written_argument {l : Level} {text : String} {e : Expr}
    (h : Written .empty l text.toList e) : Written .empty .disjunction text.toList e :=
  h.looser (by cases l <;> decide)

theorem spaced_toList (left word right : String) :
    (Formula.spaced left word right).toList
      = left.toList ++ (' ' :: (word.toList ++ (' ' :: right.toList))) := by
  simp [Formula.spaced, String.toList_append]

theorem written_optionTexts {sp : Spelling} {l : Level} {operands : List Formula}
    (h : ∀ f ∈ operands, Written .empty f.level (f.optionText sp).toList f.meaning) :
    List.Forall₂ (fun text e => Written .empty l text.toList e)
      (Formula.optionTexts sp l operands) (Formula.meanings operands) := by
  induction operands with
  | nil => exact .nil
  | cons f operands ih =>
    rw [Formula.optionTexts, Formula.meanings]
    exact .cons (written_textAt sp l (h f List.mem_cons_self))
      (ih fun g hg => h g (List.mem_cons_of_mem f hg))

/-! ### Leaves -/

theorem written_member {names : List String} (hne : names ≠ [])
    (hids : ∀ s ∈ names, IsIdentifier s) (hself : names.head? ≠ some "$it")
    (hreserved : ∀ s ∈ names.head?, Text.asciiLower s ∉ reservedWords) :
    Written .empty .primary ("/".intercalate names).toList
      (.field (".".intercalate names)) := by
  cases names with
  | nil => exact absurd rfl hne
  | cons name rest =>
    have hpath : Written .empty .primary (['/'].intercalate ((name :: rest).map String.toList))
        (memberField ⟨.empty, 0⟩ (name :: rest)) :=
      .path hids (startsOperand_of_not_reserved (hreserved name rfl))
    rw [memberField_empty hne hself] at hpath
    rw [String.toList_intercalate]
    exact hpath

theorem written_natural {n : Nat} (h : n < Nat.pow 2 63) :
    Written .empty .disjunction (Integer.natText n).toList (Formula.natural n) := by
  rw [← Integer.text64_ofNat h]
  exact written_argument ((PrintableLiteral.int _).written .empty)

/-! ### Comparisons -/

/-- No comparison of shared formulas is folded into a text test. -/
theorem comparisonOf_meaning {left : Formula} (op : ComparisonOp) (right : Expr)
    (h : left.isTextTest = false) :
    comparisonOf op left.meaning right = .compare op left.meaning right := by
  cases left with
  | chain inner operands =>
    obtain ⟨args, hargs⟩ := Expr.nestRight_eq_node (.logical inner) (Formula.meanings operands)
    rw [Formula.meaning, hargs]
    rfl
  | textTest => cases h
  | _ => rfl

theorem comparisonOf_null (op : ComparisonOp) (left : Expr) :
    comparisonOf op left (.literal .null) = .compare op left .null := by
  cases left <;> rfl

/-! ### Operators -/

theorem written_arithmeticText {op : ArithmeticOp} {left right : String} {x y : Expr}
    (hl : Written .empty (Formula.arithmeticLevel op) left.toList x)
    (hr : Written .empty (Formula.rightLevel op) right.toList y) :
    Written .empty (Formula.arithmeticLevel op)
      (Formula.spaced left (arithmeticWord op) right).toList (.arithmetic op x y) := by
  have hword := Chain.operatorOf?_arithmeticWord op
  rw [spaced_toList]
  cases op <;> exact Written.chain hword hl hr

theorem functionArity_shared {func : Func} (h : func ∈ sharedFunctions) :
    (functionArity func).1 ≤ 1 ∧ 1 ≤ (functionArity func).2 :=
  (show ∀ f ∈ sharedFunctions, (functionArity f).1 ≤ 1 ∧ 1 ≤ (functionArity f).2 by decide) func h

theorem written_textTest (pattern : TextPattern) {text : String} {e : Expr}
    (h : Written .empty .disjunction text.toList e) :
    Written .empty .primary (callText (Formula.testName pattern) [text, quote pattern.text]).toList
      (e.textMatch pattern) := by
  cases pattern with
  | startsWith s =>
    show Written .empty .primary (callText "startswith" [text, quote s]).toList _
    exact textCall_written (by decide) ⟨by decide, by decide⟩ (by decide) h rfl
  | endsWith s =>
    show Written .empty .primary (callText "endswith" [text, quote s]).toList _
    exact textCall_written (by decide) ⟨by decide, by decide⟩ (by decide) h rfl
  | contains s =>
    show Written .empty .primary (callText "contains" [text, quote s]).toList _
    exact textCall_written (by decide) ⟨by decide, by decide⟩ (by decide) h rfl

theorem written_substring {text : String} {e : Expr} {start : Nat} {length : Option Nat}
    (h : Written .empty .disjunction text.toList e) (hstart : start + 1 < Nat.pow 2 63)
    (hlength : ∀ n ∈ length, start + n < Nat.pow 2 63) :
    Written .empty .primary
      (callText "substring"
        (text :: Integer.natText start :: (length.map Integer.natText).toList)).toList
      (.call .substr (e :: Formula.natural start :: (length.map Formula.natural).toList)) := by
  have hrest : Arguments .empty (length.map Integer.natText).toList
      (length.map Formula.natural).toList := by
    cases length with
    | none => exact .nil
    | some n =>
      have hn := hlength n rfl
      exact .cons (written_natural (by omega)) .nil
  have hlen : (length.map Formula.natural).toList.length ≤ 1 := by cases length <;> simp
  have hleast : (functionArity .substr).1
      ≤ (e :: Formula.natural start :: (length.map Formula.natural).toList).length := by
    show 2 ≤ (length.map Formula.natural).toList.length + 1 + 1
    omega
  have hmost : (e :: Formula.natural start :: (length.map Formula.natural).toList).length
      ≤ (functionArity .substr).2 := by
    show (length.map Formula.natural).toList.length + 1 + 1 ≤ 3
    omega
  show Written .empty .primary (callText (functionName .substr) _).toList _
  exact functionText_written hleast hmost (.cons h (.cons (written_natural (by omega)) hrest))

/-- The constant of a default branch is the meaning of no other formula. -/
theorem isDefaultMark_meaning (f : Formula) : isDefaultMark f.meaning = f.isTrue := by
  cases f with
  | chain op operands =>
    obtain ⟨args, hargs⟩ := Expr.nestRight_eq_node (.logical op) (Formula.meanings operands)
    rw [Formula.meaning, hargs]
    rfl
  | bool b => cases b <;> rfl
  | _ => rfl

theorem written_choice {condition yes no : String} {c y n : Expr}
    (hmark : isDefaultMark c = false) (hc : Written .empty .disjunction condition.toList c)
    (hy : Written .empty .disjunction yes.toList y) (hn : Written .empty .disjunction no.toList n) :
    Written .empty .primary
      ("case(" ++ condition ++ ":" ++ yes ++ ",true:" ++ no ++ ")").toList (.cond c y n) := by
  have hbranch : Written.Branch .empty (condition.toList ++ (':' :: yes.toList)) (c, y) :=
    ⟨_, _, rfl, hc, hy⟩
  have hdefault : Written.Default .empty ["true".toList ++ (':' :: no.toList)] (some n) :=
    ⟨no.toList, rfl, hn⟩
  have hcase := Written.case (.cons hbranch .nil) (by simp [hmark]) hdefault (List.cons_ne_nil _ _)
  simpa [String.toList_append, caseOf] using hcase

/-! ### Formulas -/

/-- The text of a formula means what the formula means. -/
theorem written_optionText (sp : Spelling) {f : Formula} (h : Shared f) :
    Written .empty f.level (f.optionText sp).toList f.meaning := by
  induction h with
  | member hne hids hself hreserved => exact written_member hne hids hself hreserved
  | @int n _ => exact (PrintableLiteral.int n).written .empty
  | string s => exact (PrintableLiteral.string s).written .empty
  | bool b => exact (PrintableLiteral.bool b).written .empty
  | @compare op left right htest _ _ ihl ihr =>
    have hl := written_textAt sp .sum ihl
    have hr := written_textAt sp .sum ihr
    have hcompare := Written.compare (comparisonOf?_comparisonWord op) hl hr
    rw [comparisonOf_meaning op right.meaning htest, ← spaced_toList] at hcompare
    exact hcompare
  | @isNull negated operand _ ih =>
    have ho := written_textAt sp .sum ih
    have hnull := (PrintableLiteral.null.written .empty).looser (m := .sum) (by decide)
    have hword : comparisonOf? (if negated then "ne" else "eq")
        = some (if negated then .ne else .eq) := by cases negated <;> decide
    have hcompare := Written.compare hword ho hnull
    rw [comparisonOf_null, ← spaced_toList] at hcompare
    exact hcompare
  | @chain op operands hlen _ ih =>
    exact .connectives op (written_optionTexts ih) (by rw [Formula.meanings_length]; exact hlen)
  | @not operand _ ih =>
    have hnot := Written.not (written_textAt sp .negation ih)
    show Written .empty .negation
      ("not " ++ Formula.textAt sp .negation operand (operand.optionText sp)).toList
      (.not operand.meaning)
    simpa [String.toList_append] using hnot
  | @arithmetic op left right _ _ ihl ihr =>
    exact written_arithmeticText (written_textAt sp _ ihl) (written_textAt sp _ ihr)
  | @apply func operand hfunc _ ih =>
    obtain ⟨hleast, hmost⟩ := functionArity_shared hfunc
    exact functionText_written hleast hmost (.cons (written_argument ih) .nil)
  | substring hstart hlength _ ih =>
    exact written_substring (written_argument ih) hstart hlength
  | @textTest pattern operand _ _ ih => exact written_textTest pattern (written_argument ih)
  | @choice condition yes no hmark _ _ _ ihc ihy ihn =>
    refine written_choice ?_ (written_argument ihc) (written_argument ihy) (written_argument ihn)
    rw [isDefaultMark_meaning, hmark]

end Polyquery.FrontEnds
