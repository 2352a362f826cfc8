import Mathlib.Data.List.Induction
import Polyquery.Proofs.FrontEnds.Formula
import Polyquery.Proofs.Unresolved

/-!
# Formulas in closures

* `rowScope` - the scope of a closure over one row, without bindings or named values;
* `memberField_row`, `claimed_function`, `claimed_method`, `claimed_test` - members and calls;
* `toExpr_term` - the term of a formula means what the formula means.
-/

namespace Polyquery.FrontEnds

open Closure

/-- The scope of a closure over one row. -/
def rowScope (row : String) : Scope := ⟨[row], [], [], .empty⟩

/-! ### Members -/

theorem path?_foldl_attribute (row : String) {names : List String} (hne : names ≠ []) :
    (names.foldl Term.attribute (.param row)).path? = some (row, names) := by
  induction names using List.reverseRecOn with
  | nil => exact absurd rfl hne
  | append_singleton names name ih =>
    rw [List.foldl_append, List.foldl_cons, List.foldl_nil]
    cases names with
    | nil => rfl
    | cons first rest =>
      have hpath := ih (List.cons_ne_nil first rest)
      rw [Term.path?, hpath]
      · rfl
      · intro param hparam
        rw [hparam] at hpath
        cases hpath

theorem memberField_row (row : String) {names : List String} (hne : names ≠ []) :
    (rowScope row).memberField row names = .ok (.field (".".intercalate names)) := by
  have hindex : [row].findIdx? (· == row) = some 0 := by simp
  rw [← Text.intercalate_dropLast hne]
  simp only [Scope.memberField, rowScope, hindex, true_and]
  split <;> rfl

theorem toExpr_member (row : String) {names : List String} (hne : names ≠ []) :
    (names.foldl Term.attribute (.param row)).toExpr (rowScope row)
      = .ok (.field (".".intercalate names)) := by
  have hpath := path?_foldl_attribute row hne
  rcases List.eq_nil_or_concat names with hnil | ⟨init, last, rfl⟩
  · exact absurd hnil hne
  · rw [List.concat_eq_append, List.foldl_append, List.foldl_cons, List.foldl_nil] at hpath ⊢
    rw [Term.toExpr, hpath]
    rw [List.concat_eq_append] at hne
    exact memberField_row row hne

/-! ### Calls -/

theorem claimed_function {func : Func} (hfunc : func ∈ sharedFunctions)
    (hmethod : Formula.isMethod func = false) (e : Expr) :
    methods ⟨Formula.closureName func, [e], false, none⟩
      = .ok ⟨Formula.closureName func, [e], false, some (.call func [e])⟩ := by
  revert hfunc hmethod
  cases func <;> first
    | (intro hfunc; exact absurd hfunc (by decide))
    | (intro _ hmethod; exact absurd hmethod (by decide))
    | (intro _ _; rfl)

theorem claimed_method {func : Func} (hmethod : Formula.isMethod func = true) (e : Expr) :
    methods ⟨Formula.closureName func, [e], true, none⟩
      = .ok ⟨Formula.closureName func, [e], true, some (.call func [e])⟩ := by
  cases func <;> first
    | rfl
    | exact absurd hmethod (by decide)

theorem claimed_test (pattern : TextPattern) (e : Expr) :
    methods ⟨Formula.testName pattern, [e, .string pattern.text], true, none⟩
      = .ok ⟨Formula.testName pattern, [e, .string pattern.text], true,
          some (e.textMatch pattern)⟩ := by
  cases pattern <;> rfl

/-- A call of a function on one operand. -/
theorem toExpr_functionCall {row name : String} {t : Term} {x e : Expr}
    (hx : t.toExpr (rowScope row) = .ok x)
    (h : methods ⟨name, [x], false, none⟩ = .ok ⟨name, [x], false, some e⟩) :
    (Term.call (.free name) [t] []).toExpr (rowScope row) = .ok e := by
  have hargs : toExprs (rowScope row) [t] = .ok [x] := by
    rw [toExprs, hx]
    rfl
  rw [Term.toExpr]
  show (toExprs (rowScope row) [t] >>= _) = _
  rw [hargs]
  exact Resolvers.resolveMethod_empty h

/-- A call of a method of an operand. -/
theorem toExpr_methodCall {row name : String} {t : Term} {args : List Term} {x e : Expr}
    {es : List Expr} (hargs : toExprs (rowScope row) args = .ok es)
    (hx : t.toExpr (rowScope row) = .ok x)
    (h : methods ⟨name, x :: es, true, none⟩ = .ok ⟨name, x :: es, true, some e⟩) :
    (Term.call (.attribute t name) args []).toExpr (rowScope row) = .ok e := by
  rw [Term.toExpr]
  show (toExprs (rowScope row) args >>= _) = _
  rw [hargs]
  show (t.toExpr (rowScope row) >>= _) = _
  rw [hx]
  exact Resolvers.resolveMethod_empty h

/-! ### Pieces of terms -/

theorem op_comparator (op : ComparisonOp) : (Formula.comparator op).op = op := by
  cases op <;> rfl

/-- A single link is a comparison whatever its sides are. -/
theorem linkExpr_single (op : ComparisonOp) (left right : Expr) :
    linkExpr false op left right = .compare op left right := by
  unfold linkExpr
  split <;> rfl

/-- A comparison of two terms. -/
theorem toExpr_compare {s : Scope} {left right : Term} {x y : Expr} (c : Comparator)
    (hl : left.toExpr s = .ok x) (hr : right.toExpr s = .ok y) :
    (Term.compare left [(c, right)]).toExpr s = .ok (.compare c.op x y) := by
  have hlinks : linkExprs s false x [(c, right)] = .ok [.compare c.op x y] := by
    rw [linkExprs, hr]
    show Except.ok [linkExpr false c.op x y] = _
    rw [linkExpr_single]
  rw [Term.toExpr, hl]
  show (linkExprs s false x [(c, right)] >>= _) = _
  rw [hlinks]
  rfl

theorem toExprs_terms {s : Scope} {row : String} {operands : List Formula}
    (h : ∀ f ∈ operands, (f.term row).toExpr s = .ok f.meaning) :
    toExprs s (Formula.terms row operands) = .ok (Formula.meanings operands) := by
  induction operands with
  | nil => rfl
  | cons f operands ih =>
    have hf := h f List.mem_cons_self
    have hrest := ih fun g hg => h g (List.mem_cons_of_mem f hg)
    rw [Formula.terms, toExprs, hf, hrest, Formula.meanings]
    rfl

theorem sliceBound_natural {n : Nat} (h : n < Nat.pow 2 63) :
    sliceBound (some (Formula.naturalTerm n)) = .ok (some (Int64.ofNat n)) := by
  rw [Formula.naturalTerm, sliceBound, if_pos (ofNat_nonneg h)]

/-- The stretch between two offsets has the length that lies between them. -/
theorem sliceLength_ofNat {start n : Nat} (h : start + n < Nat.pow 2 63) :
    sliceLength (Int64.ofNat start) (Int64.ofNat (start + n)) = Int64.ofNat n := by
  have hstart : start < Nat.pow 2 63 := Nat.lt_of_le_of_lt (Nat.le_add_right start n) h
  have hle : Int64.ofNat start ≤ Int64.ofNat (start + n) := by
    rw [Int64.le_iff_toInt_le, Int64.toInt_ofNat_of_lt hstart, Int64.toInt_ofNat_of_lt h]
    omega
  rw [sliceLength, if_pos hle, Int64.ofNat_add, Int64.add_comm, Int64.add_sub_cancel]

/-- A slice by offsets is a part by its start and its length. -/
theorem toExpr_slice {s : Scope} {value : Term} {x : Expr} {start : Nat} {length : Option Nat}
    (hx : value.toExpr s = .ok x) (hstart : start + 1 < Nat.pow 2 63)
    (hlength : ∀ n ∈ length, start + n < Nat.pow 2 63) :
    (Term.slice value (some (Formula.naturalTerm start))
      (length.map fun n => Formula.naturalTerm (start + n)) none).toExpr s
      = .ok (.call .substr
          (x :: Formula.natural start :: (length.map Formula.natural).toList)) := by
  rw [Term.toExpr, sliceBound_natural (by omega), hx]
  cases length with
  | none => rfl
  | some n =>
    have hstop := sliceBound_natural (hlength n rfl)
    show (sliceBound (some (Formula.naturalTerm (start + n))) >>= _) = _
    rw [hstop]
    show Except.ok (Expr.call .substr [x, .int (Int64.ofNat start),
      .int (sliceLength (Int64.ofNat start) (Int64.ofNat (start + n)))]) = _
    rw [sliceLength_ofNat (hlength n rfl)]
    rfl

/-! ### Formulas -/

/-- The term of a formula means what the formula means. -/
theorem toExpr_term (row : String) {f : Formula} (h : Shared f) :
    (f.term row).toExpr (rowScope row) = .ok f.meaning := by
  induction h with
  | member hne _ _ _ => exact toExpr_member row hne
  | int _ => rfl
  | string s => rfl
  | bool b => rfl
  | @compare op left right _ _ _ ihl ihr =>
    rw [Formula.term, toExpr_compare _ ihl ihr, op_comparator]
    rfl
  | @isNull negated operand _ ih =>
    have hnull : (Term.constant .null).toExpr (rowScope row) = .ok .null := rfl
    rw [Formula.term, toExpr_compare _ ih hnull]
    cases negated <;> rfl
  | @chain op operands hlen _ ih =>
    have hfold := Formula.foldLogical?_meanings op hlen
    rw [Formula.term, Term.toExpr, toExprs_terms ih]
    simp only [bind, Except.bind, hfold]
  | not _ ih =>
    rw [Formula.term, Term.toExpr, ih]
    rfl
  | arithmetic _ _ ihl ihr =>
    rw [Formula.term, Term.toExpr, ihl, ihr]
    rfl
  | @apply func operand hfunc _ ih =>
    rw [Formula.term]
    by_cases hmethod : Formula.isMethod func = true
    · rw [if_pos hmethod]
      exact toExpr_methodCall rfl ih (claimed_method hmethod _)
    · rw [if_neg hmethod]
      exact toExpr_functionCall ih (claimed_function hfunc (by simpa using hmethod) _)
  | substring hstart hlength _ ih =>
    rw [Formula.term, toExpr_slice ih hstart hlength]
    rfl
  | @textTest pattern operand _ _ ih =>
    rw [Formula.term]
    exact toExpr_methodCall rfl ih (claimed_test pattern _)
  | choice _ _ _ _ ihc ihy ihn =>
    rw [Formula.term, Term.toExpr, ihc, ihy, ihn]
    rfl

end Polyquery.FrontEnds
