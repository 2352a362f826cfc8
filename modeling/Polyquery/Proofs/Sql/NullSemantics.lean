import Polyquery.Proofs.Sql.WrittenValue

/-!
# Conditions keep their truth

A condition that is read and written back in the generic dialect is true, false or unknown in the
same rows as before.  Equality to the constant `NULL`, also by a list or by a branch of a case, is
written as a test for null, so it keeps its truth only if it is taken for such a test.

* `Predicate` - conditions over columns and constants;
* `Kept` - a tree whose expression has a text of the same value, with one lemma for each form;
* `Predicate.kept` - every condition is kept;
* `truth_rewritten` - its text has its truth in every row;
* `null_equality_rewritten` - equality to null, unknown as it is read and true as it is written.
-/

namespace Polyquery.Sql

/-- Members with partners make lists that are partners. -/
theorem exists_forall₂ {α β : Type} {R : α → β → Prop} {as : List α} (h : ∀ a ∈ as, ∃ b, R a b) :
    ∃ bs, List.Forall₂ R as bs := by
  induction as with
  | nil => exact ⟨[], .nil⟩
  | cons a as ih =>
    obtain ⟨b, hb⟩ := h a List.mem_cons_self
    obtain ⟨bs, hbs⟩ := ih fun a' ha' => h a' (List.mem_cons_of_mem a ha')
    exact ⟨b :: bs, .cons hb hbs⟩

/-- What may be missing has a partner if it is there. -/
theorem exists_option {α β : Type} {R : α → β → Prop} {a : Option α} (h : ∀ x ∈ a, ∃ y, R x y) :
    ∃ b, Option.Rel R a b := by
  cases a with
  | none => exact ⟨none, .none⟩
  | some x =>
    obtain ⟨y, hy⟩ := h x rfl
    exact ⟨some y, .some hy⟩

/-! ### Conditions -/

/-- Columns, constants and cases: what stands for itself next to any operator. -/
def Tree.isScalar : Tree → Bool
  | .name _ | .path _ | .case _ _ _ => true
  | .nested inner => inner.isScalar
  | t => t.literal?.isSome

/-- What a test for null may follow without parentheses. -/
def Tree.isTestable : Tree → Bool
  | .binary (.compare op) _ right => !(decide (op = .ne) && right.isNullConstant)
  | .isNull negated _ => !negated
  | .inList negated _ items => !negated && decide (items.length = 1)
  | .nested inner => inner.isTestable
  | t => t.isScalar

/-- A column by its name: a name without a dot of its own. -/
def IsColumn (names : List Ident) : Prop :=
  (∀ name ∈ names, '.' ∉ name.value.toList) ∧ ∀ name ∈ names.head?, IsName name.value

/-- If equality to null is unknown, the constant `NULL` is not on the right side of one. -/
def Equatable (nulls : NullEquality) (op : ComparisonOp) (right : Tree) : Prop :=
  nulls = .unknown → right.isNullConstant = true → op ≠ .eq ∧ op ≠ .ne

/-- Conditions over columns and constants: comparisons of scalars, connectives and negations, tests
for null, ranges, lists and cases. -/
inductive Predicate (nulls : NullEquality) : Tree → Prop where
  | name {ident : Ident} : IsColumn [ident] → Predicate nulls (.name ident)
  | path {idents : List Ident} :
      2 ≤ idents.length → IsColumn idents → Predicate nulls (.path idents)
  | constant {t : Tree} {value : Literal} :
      t.literal? = some value → InRange value → Predicate nulls t
  | nested {t : Tree} : Predicate nulls t → Predicate nulls (.nested t)
  | compare {op : ComparisonOp} {left right : Tree} :
      left.isScalar = true → right.isScalar = true → Equatable nulls op right →
      Predicate nulls left → Predicate nulls right →
      Predicate nulls (.binary (.compare op) left right)
  | connective {op : LogicalOp} {operands : List Tree} :
      2 ≤ operands.length → (∀ t ∈ operands, Predicate nulls t) →
      Predicate nulls (.chain (.logical op) operands)
  | not {t : Tree} : Predicate nulls t → Predicate nulls (.unary .not t)
  | isNull {negated : Bool} {t : Tree} :
      t.isTestable = true → Predicate nulls t → Predicate nulls (.isNull negated t)
  | between {negated : Bool} {t low high : Tree} :
      t.isScalar = true → low.isScalar = true → high.isScalar = true →
      Predicate nulls t → Predicate nulls low → Predicate nulls high →
      Predicate nulls (.between negated t low high)
  | inList {negated : Bool} {t : Tree} {items : List Tree} :
      items ≠ [] → t.isScalar = true → (∀ i ∈ items, i.isScalar = true) →
      (∀ i ∈ items, Equatable nulls .eq i) →
      Predicate nulls t → (∀ i ∈ items, Predicate nulls i) →
      Predicate nulls (.inList negated t items)
  | searchedCase {branches : List (Tree × Tree)} {otherwise : Option Tree} :
      branches ≠ [] → (∀ b ∈ branches, Predicate nulls b.1) →
      (∀ b ∈ branches, Predicate nulls b.2) → (∀ t ∈ otherwise, Predicate nulls t) →
      Predicate nulls (.case none branches otherwise)
  | simpleCase {subject : Tree} {branches : List (Tree × Tree)} {otherwise : Option Tree} :
      branches ≠ [] → subject.isScalar = true → Predicate nulls subject →
      (∀ b ∈ branches, b.1.isScalar = true) → (∀ b ∈ branches, Equatable nulls .eq b.1) →
      (∀ b ∈ branches, Predicate nulls b.1) → (∀ b ∈ branches, Predicate nulls b.2) →
      (∀ t ∈ otherwise, Predicate nulls t) →
      Predicate nulls (.case (some subject) branches otherwise)

/-- A tree is read as an expression of which the text has the value of the tree. -/
structure Kept (nulls : NullEquality) (t : Tree) (e : Expr) : Prop where
  reads : t.toExpr .empty = .ok e
  writable : Writable e
  value : ∀ (D : Domain) (row : D.Row), writtenValue D row e = t.value D nulls row
  isNull : e.isNull = t.isNullConstant
  closed : t.isScalar = true → e.isClosed = true
  testable : t.isTestable = true → 15 < frontRank e ∧ 17 ≤ backRank e

namespace Kept

variable {nulls : NullEquality} {t : Tree} {e : Expr}

theorem truth (h : Kept nulls t e) (D : Domain) (row : D.Row) :
    writtenTruth D row e = t.truth D nulls row := congrArg D.truthOf (h.value D row)

theorem ranks_of_closed (h : e.isClosed = true) : 15 < frontRank e ∧ 17 ≤ backRank e := by
  rw [frontRank_of_closed h, backRank_of_closed h]
  decide

/-- A scalar. -/
theorem of_closed (hreads : t.toExpr .empty = .ok e) (hwritable : Writable e)
    (hvalue : ∀ (D : Domain) (row : D.Row), writtenValue D row e = t.value D nulls row)
    (hnull : e.isNull = t.isNullConstant) (hclosed : e.isClosed = true) : Kept nulls t e :=
  ⟨hreads, hwritable, hvalue, hnull, fun _ => hclosed, fun _ => ranks_of_closed hclosed⟩

/-- A column. -/
theorem column {names : List Ident} {path : String} (hne : names ≠ [])
    (hpath : path = ".".intercalate (names.map Ident.value)) (h : IsColumn names)
    (hreads : t.toExpr .empty = .ok (.field path))
    (hvalue : ∀ (D : Domain) (row : D.Row), t.value D nulls row = row (names.map Ident.value))
    (hnull : t.isNullConstant = false) : Kept nulls t (.field path) := by
  have hnames : names.map Ident.value ≠ [] := by
    rw [Ne, List.map_eq_nil_iff]
    exact hne
  have hsegments : Text.segments path = names.map Ident.value := by
    rw [hpath]
    exact Text.segments_intercalate hnames (List.forall_mem_map.2 h.1)
  refine of_closed hreads (.field ?_) (fun D row => ?_) hnull.symm rfl
  · rw [hsegments, List.head?_map]
    intro name hname
    obtain ⟨ident, hident, rfl⟩ := Option.mem_map.1 hname
    exact h.2 ident hident
  · rw [hvalue, writtenValue, sqlTree, pathTree, hsegments]
    split
    · rename_i name hname
      rw [hname, Tree.value]
      rfl
    · rw [Tree.value, value_identOf]

/-- A constant. -/
theorem constant {value : Literal} (h : t.literal? = some value) (hrange : InRange value) :
    Kept nulls t (.literal value) := by
  have hwritable := (ofText_literal? h).writable hrange
  refine of_closed (toExpr_of_literal? h) (.literal hwritable) (fun D row => ?_) ?_ rfl
  · rw [writtenValue, sqlTree, value_of_literal? D _ row (literal?_literalTree hwritable),
      value_of_literal? D _ row h]
  · rw [Tree.isNullConstant, h]
    cases value <;> rfl

/-- Parentheses are dropped. -/
theorem nested (h : Kept nulls t e) : Kept nulls (.nested t) e where
  reads := by
    rw [Tree.toExpr]
    exact h.reads
  writable := h.writable
  value D row := by
    rw [Tree.value]
    exact h.value D row
  isNull := h.isNull
  closed hscalar := h.closed hscalar
  testable htestable := h.testable htestable

variable {left right : Tree} {l r : Expr}

theorem equatable_isNull {op : ComparisonOp} (hr : Kept nulls right r)
    (h : Equatable nulls op right) : nulls = .unknown → r.isNull = true → op ≠ .eq ∧ op ≠ .ne :=
  fun hunknown hnull => h hunknown (hr.isNull ▸ hnull)

/-- The value of a comparison of two kept trees. -/
theorem value_compare {op : ComparisonOp} (hl : Kept nulls left l) (hr : Kept nulls right r)
    (h : Equatable nulls op right) (D : Domain) (row : D.Row) :
    writtenValue D row (.compare op l r)
      = D.valueOf (D.equated nulls op (left.value D nulls row) (right.value D nulls row)
          right.isNullConstant) := by
  rw [writtenValue_compare (hr.equatable_isNull h), hl.value, hr.value, hr.isNull]

theorem ranks_compare {op : ComparisonOp} (hl : l.isClosed = true) (hr : r.isClosed = true)
    (h : op = .ne → r.isNull = false) :
    15 < frontRank (.compare op l r) ∧ 17 ≤ backRank (.compare op l r) := by
  have hfront := frontRank_of_closed hl
  have hback := backRank_of_closed hr
  obtain ⟨rfl, rfl⟩ | ⟨rfl, rfl⟩ | hform := comparisonForm_cases op r
  · simp [frontRank, backRank, comparisonForm, Expr.isNull, Expr.null, hfront, closedRank]
  · cases h rfl
  · simp [frontRank, backRank, hform, hfront, hback, closedRank]

/-- A comparison of scalars. -/
theorem compare {op : ComparisonOp} (hleft : left.isScalar = true) (hright : right.isScalar = true)
    (hequatable : Equatable nulls op right) (hl : Kept nulls left l) (hr : Kept nulls right r) :
    Kept nulls (.binary (.compare op) left right) (.compare op l r) where
  reads := by
    rw [Tree.toExpr, hl.reads, hr.reads]
    rfl
  writable := writable_compare (hl.closed hleft) (hr.closed hright) hl.writable hr.writable
  value D row := by
    rw [hl.value_compare hr hequatable, Tree.value]
  isNull := rfl
  closed hscalar := nomatch hscalar
  testable htestable := by
    refine ranks_compare (hl.closed hleft) (hr.closed hright) ?_
    rintro rfl
    rw [hr.isNull]
    simpa [Tree.isTestable] using htestable

/-- Trees in a list are read as expressions in a list. -/
theorem toExprs {ts : List Tree} {es : List Expr} (h : List.Forall₂ (Kept nulls) ts es) :
    toExprs .empty ts = .ok es := toExprs_of_forall₂ (h.imp fun _ _ hkept => hkept.reads)

theorem writable_all {ts : List Tree} {es : List Expr} (h : List.Forall₂ (Kept nulls) ts es) :
    ∀ e ∈ es, Writable e := by
  induction h with
  | nil => simp
  | cons hfirst _ ih => exact List.forall_mem_cons.2 ⟨hfirst.writable, ih⟩

theorem truths_all {ts : List Tree} {es : List Expr} (h : List.Forall₂ (Kept nulls) ts es)
    (D : Domain) (row : D.Row) :
    es.map (writtenTruth D row) = truths D nulls row ts := by
  induction h with
  | nil => rfl
  | cons hfirst _ ih => rw [List.map_cons, ih, truths, hfirst.truth, Tree.truth]

/-- A connective of two or more conditions. -/
theorem connective {op : LogicalOp} {ts : List Tree} (hlen : 2 ≤ ts.length)
    (h : ∀ t ∈ ts, ∃ e, Kept nulls t e) : ∃ e, Kept nulls (.chain (.logical op) ts) e := by
  obtain ⟨es, hall⟩ := exists_forall₂ h
  have hlength : 2 ≤ es.length := hall.length_eq ▸ hlen
  obtain ⟨operands, hfold⟩ := @foldLogical?_of_many op es hlength
  refine ⟨.logical op operands, ?_, writable_foldLogical hfold (writable_all hall),
    fun D row => ?_, rfl, (fun hscalar => nomatch hscalar), (fun htestable => nomatch htestable)⟩
  · rw [Tree.toExpr, toExprs hall]
    show ChainOp.combine (.logical op) es = _
    rw [ChainOp.combine, hfold]
  · rw [writtenValue_foldLogical hlength hfold, truths_all hall, Tree.value]

/-- The negation of a condition. -/
theorem not (h : Kept nulls t e) : Kept nulls (.unary .not t) (.not e) where
  reads := by
    rw [Tree.toExpr, h.reads]
    rfl
  writable := .not h.writable
  value D row := by
    rw [writtenValue_not, h.truth, Tree.value]
    rfl
  isNull := rfl
  closed hscalar := nomatch hscalar
  testable htestable := nomatch htestable

/-- A test for null. -/
theorem nullTest {negated : Bool} (htestable : t.isTestable = true) (h : Kept nulls t e) :
    Kept nulls (.isNull negated t) (.compare (if negated then .ne else .eq) e .null) := by
  obtain ⟨hfront, hback⟩ := h.testable htestable
  have hvalue : ∀ (op : ComparisonOp) (D : Domain) (row : D.Row),
      writtenValue D row (.compare op e .null)
        = D.valueOf (D.equated .test op (t.value D nulls row) none true) := by
    intro op D row
    have hop : NullEquality.test = .unknown → Expr.null.isNull = true → op ≠ .eq ∧ op ≠ .ne :=
      fun htest => nomatch htest
    rw [writtenValue_compare hop, h.value]
    rfl
  refine ⟨?_, ?_, fun D row => ?_, rfl, (fun hscalar => nomatch hscalar), fun htest => ?_⟩
  · rw [Tree.toExpr, h.reads]
    rfl
  · cases negated with
    | false => exact .isNull hback h.writable
    | true => exact .isNotNull hfront hback h.writable
  · rw [hvalue, Tree.value]
    cases negated with
    | false => rfl
    | true =>
      show D.valueOf (.ofBool _) = D.valueOf (Truth.ofBool _).not
      rw [Truth.not_ofBool]
      cases t.value D nulls row <;> rfl
  · cases negated with
    | false =>
      simp only [Bool.false_eq_true, if_false, frontRank, backRank, comparisonForm, Expr.isNull,
        Expr.null, decide_true, Bool.and_self, if_true, closedRank]
      omega
    | true => cases htest

theorem negatedIf_isNull {e : Expr} (h : e.isNull = false) (negated : Bool) :
    (negatedIf negated e).isNull = false := by
  cases negated with
  | false => exact h
  | true => rfl

theorem equatable_of_order {op : ComparisonOp} (heq : op ≠ .eq) (hne : op ≠ .ne) (right : Tree) :
    Equatable nulls op right := fun _ _ => ⟨heq, hne⟩

variable {low high : Tree} {lo hi : Expr}

/-- A range. -/
theorem between {negated : Bool} (ht : t.isScalar = true) (hlow : low.isScalar = true)
    (hhigh : high.isScalar = true) (h : Kept nulls t e) (hl : Kept nulls low lo)
    (hh : Kept nulls high hi) :
    Kept nulls (.between negated t low high) (negatedIf negated (Expr.between e lo hi)) := by
  have hfrom : Kept nulls (.binary (.compare .gte) t low) (.compare .gte e lo) :=
    compare ht hlow (equatable_of_order (by decide) (by decide) low) h hl
  have hto : Kept nulls (.binary (.compare .lte) t high) (.compare .lte e hi) :=
    compare ht hhigh (equatable_of_order (by decide) (by decide) high) h hh
  have hpair : ∀ a ∈ [Expr.compare .gte e lo, Expr.compare .lte e hi], Writable a := by
    simpa using ⟨hfrom.writable, hto.writable⟩
  have hwritable : Writable (Expr.between e lo hi) := .logical (Nat.le_refl 2) hpair
  refine ⟨?_, writable_negatedIf hwritable negated, fun D row => ?_,
    negatedIf_isNull rfl negated, (fun hscalar => nomatch hscalar),
    (fun htestable => nomatch htestable)⟩
  · rw [Tree.toExpr, h.reads, hl.reads, hh.reads]
    rfl
  · have hvalue := @writtenValue_pair D row .and (.compare .gte e lo) (.compare .lte e hi)
    rw [hfrom.truth, hto.truth, truth_compare, truth_compare,
      D.equated_of_order (by decide) (by decide), D.equated_of_order (by decide) (by decide)] at hvalue
    rw [Tree.value]
    exact writtenValue_negatedIf hvalue negated

/-- Equalities of a scalar to the items of a list. -/
theorem equalities {ts : List Tree} {es : List Expr} (ht : t.isScalar = true)
    (h : Kept nulls t e) (hscalar : ∀ i ∈ ts, i.isScalar = true)
    (hequatable : ∀ i ∈ ts, Equatable nulls .eq i) (hall : List.Forall₂ (Kept nulls) ts es) :
    List.Forall₂ (Kept nulls) (ts.map (.binary (.compare .eq) t)) (es.map (.compare .eq e)) := by
  induction hall with
  | nil => exact .nil
  | cons hfirst _ ih =>
    obtain ⟨hs, hscalars⟩ := List.forall_mem_cons.1 hscalar
    obtain ⟨he, hequatables⟩ := List.forall_mem_cons.1 hequatable
    exact .cons (compare ht hs he h hfirst) (ih hscalars hequatables)

/-- A list, from the expression that its equalities make. -/
theorem inList_of {negated : Bool} {items : List Tree} {es : List Expr} {a : Expr}
    (h : Kept nulls t e) (hall : List.Forall₂ (Kept nulls) items es)
    (hfold : Expr.foldLogical? .or (es.map (.compare .eq e)) = some a) (hwritable : Writable a)
    (hvalue : ∀ (D : Domain) (row : D.Row), writtenValue D row a
      = D.valueOf (.combine .or (truths D nulls row (items.map (.binary (.compare .eq) t)))))
    (hnull : a.isNull = false) (hranks : items.length = 1 → 15 < frontRank a ∧ 17 ≤ backRank a) :
    Kept nulls (.inList negated t items) (negatedIf negated a) := by
  refine ⟨?_, writable_negatedIf hwritable negated, fun D row => ?_,
    negatedIf_isNull hnull negated, (fun hscalar => by cases hscalar), fun htestable => ?_⟩
  · rw [Tree.toExpr, h.reads]
    show (Sql.toExprs .empty items >>= _) = _
    rw [toExprs hall]
    simp only [bind, Except.bind, hfold]
    rfl
  · rw [writtenValue_negatedIf (hvalue D row), Tree.value, equalities_eq_truths]
  · simp only [Tree.isTestable, Bool.and_eq_true, Bool.not_eq_true', decide_eq_true_eq] at htestable
    obtain ⟨rfl, hone⟩ := htestable
    exact hranks hone

/-- A list. -/
theorem inList {negated : Bool} {items : List Tree} (hne : items ≠ []) (ht : t.isScalar = true)
    (hscalar : ∀ i ∈ items, i.isScalar = true) (hequatable : ∀ i ∈ items, Equatable nulls .eq i)
    (h : Kept nulls t e) (hitems : ∀ i ∈ items, ∃ x, Kept nulls i x) :
    ∃ e, Kept nulls (.inList negated t items) e := by
  obtain ⟨es, hall⟩ := exists_forall₂ hitems
  have hequal := equalities ht h hscalar hequatable hall
  by_cases hone : items.length = 1
  · obtain ⟨i, rfl⟩ := List.length_eq_one_iff.1 hone
    have hone' := hall
    obtain ⟨x, _, hx, hnil, rfl⟩ := List.forall₂_cons_left_iff.1 hone'
    obtain rfl := List.forall₂_nil_left_iff.1 hnil
    have hi := List.mem_singleton_self i
    have hc := compare ht (hscalar i hi) (hequatable i hi) h hx
    refine ⟨_, inList_of h hall rfl hc.writable (fun D row => ?_) rfl fun _ => ?_⟩
    · rw [hc.value, List.map_singleton, truths, truths, Truth.combine_singleton]
      show _ = D.valueOf (Tree.truth D nulls row _)
      rw [truth_compare, Tree.value]
    · exact ranks_compare (h.closed ht) (hx.closed (hscalar i hi)) (by simp)
  · have hlength : 2 ≤ es.length := by
      have hpos : 0 < items.length := List.length_pos_iff.2 hne
      have hsame := hall.length_eq
      omega
    have hmany : 2 ≤ (es.map (Expr.compare .eq e)).length := by
      rw [List.length_map]
      exact hlength
    obtain ⟨operands, hfold⟩ := @foldLogical?_of_many .or _ hmany
    refine ⟨_, inList_of h hall hfold (writable_foldLogical hfold (writable_all hequal))
      (fun D row => ?_) rfl fun heq => absurd heq hone⟩
    rw [writtenValue_foldLogical hmany hfold, truths_all hequal]

end Kept

/-! ### Cases -/

/-- The condition of a branch, compared with the operand of the case if there is one. -/
def branchCondition (operand : Option Expr) (condition : Expr) : Expr :=
  match operand with
  | some operand => .compare .eq operand condition
  | none => condition

/-- A branch of which condition and result are kept. -/
structure KeptBranch (nulls : NullEquality) (subject : Option Tree) (operand : Option Expr)
    (branch : Tree × Tree) (written : Expr × Expr) : Prop where
  reads : branch.1.toExpr .empty = .ok written.1
  writable : Writable (branchCondition operand written.1)
  truth : ∀ (D : Domain) (row : D.Row),
    writtenTruth D row (branchCondition operand written.1)
      = D.branchTruth nulls (subject.map fun t => t.value D nulls row)
          (branch.1.value D nulls row) branch.1.isNullConstant
  result : Kept nulls branch.2 written.2

section Branches

variable {nulls : NullEquality} {subject : Option Tree} {operand : Option Expr}
  {branches : List (Tree × Tree)} {written : List (Expr × Expr)}

/-- The branches with their conditions as they are written. -/
def conditionedBranches (operand : Option Expr) (branches : List (Expr × Expr)) :
    List (Expr × Expr) :=
  branches.map fun b => (branchCondition operand b.1, b.2)

theorem toBranches_of_kept (h : List.Forall₂ (KeptBranch nulls subject operand) branches written) :
    toBranches .empty operand branches = .ok (conditionedBranches operand written) := by
  induction h with
  | nil => rfl
  | @cons branch b _ _ hfirst _ ih =>
    obtain ⟨condition, result⟩ := branch
    rw [toBranches, hfirst.reads, hfirst.result.reads, ih]
    cases operand <;> rfl

theorem branchesValue_of_kept
    (h : List.Forall₂ (KeptBranch nulls subject operand) branches written) (D : Domain)
    (row : D.Row) (default : Option D.Value) :
    branchesValue D .unknown row none default (branchTrees (conditionedBranches operand written))
      = branchesValue D nulls row (subject.map fun t => t.value D nulls row) default branches := by
  induction h with
  | nil => rfl
  | @cons branch b _ _ hfirst _ ih =>
    obtain ⟨condition, result⟩ := branch
    have htruth := hfirst.truth D row
    have hresult := hfirst.result.value D row
    have htest : D.branchTruth .unknown none
        ((sqlTree (branchCondition operand b.1)).value D .unknown row)
        (sqlTree (branchCondition operand b.1)).isNullConstant
        = writtenTruth D row (branchCondition operand b.1) := rfl
    rw [conditionedBranches, List.map_cons, branchTrees, branchesValue, branchesValue, htest,
      htruth]
    rw [conditionedBranches] at ih
    rw [ih, ← hresult]
    rfl

theorem caseExpr_closed (branches : List (Expr × Expr)) (default : Option Expr) :
    (caseExpr branches default).isClosed = true ∧ (caseExpr branches default).isNull = false := by
  unfold caseExpr
  split <;> exact ⟨rfl, rfl⟩

/-- A case with at least one branch. -/
theorem Kept.case {otherwise : Option Tree} {default : Option Expr} (hne : branches ≠ [])
    (hsubject : toExprOption .empty subject = .ok operand)
    (h : List.Forall₂ (KeptBranch nulls subject operand) branches written)
    (hdefault : Option.Rel (Kept nulls) otherwise default) :
    Kept nulls (.case subject branches otherwise)
      (caseExpr (conditionedBranches operand written) default) := by
  obtain ⟨hclosed, hnull⟩ := caseExpr_closed (conditionedBranches operand written) default
  have hreads : toExprOption .empty otherwise = .ok default := by
    cases hdefault with
    | none => rfl
    | some hkept =>
      rw [toExprOption, hkept.reads]
      rfl
  have hwritten : written ≠ [] := by
    rintro rfl
    exact hne (List.forall₂_nil_right_iff.1 h)
  have hwritable : ∀ b ∈ written, Writable (branchCondition operand b.1) ∧ Writable b.2 :=
    forall_of_forall₂ h fun _ _ hbranch => ⟨hbranch.writable, hbranch.result.writable⟩
  have hdefaults : ∀ e ∈ default, Writable e := by
    cases hdefault with
    | none => simp
    | some hkept =>
      intro e he
      obtain rfl := Option.some.inj he
      exact hkept.writable
  refine .of_closed ?_ ?_ (fun D row => ?_) hnull hclosed
  · rw [Tree.toExpr, hsubject]
    show (toBranches .empty operand branches >>= _) = _
    rw [toBranches_of_kept h]
    show (toExprOption .empty otherwise >>= _) = _
    rw [hreads]
    rfl
  · refine writable_caseExpr ?_ ?_ ?_ hdefaults
    · rw [conditionedBranches, Ne, List.map_eq_nil_iff]
      exact hwritten
    · exact List.forall_mem_map.2 fun b hb => (hwritable b hb).1
    · exact List.forall_mem_map.2 fun b hb => (hwritable b hb).2
  · have hvalue := branchesValue_of_kept h D row (optionValue D nulls row otherwise)
    have hoption : optionValue D .unknown row (defaultTree default)
        = optionValue D nulls row otherwise := by
      cases hdefault with
      | none => rfl
      | some hkept => exact hkept.value D row
    rw [writtenValue, sqlTree_caseExpr, Tree.value, hoption, hvalue]
    cases subject with
    | none => rw [Tree.value, Option.map_none]
    | some subject => rw [Tree.value, Option.map_some]

end Branches

/-! ### Every condition -/

/-- Every condition is read as an expression of which the text has its value. -/
theorem Predicate.kept {nulls : NullEquality} {t : Tree} (h : Predicate nulls t) :
    ∃ e, Kept nulls t e := by
  induction h with
  | @name ident hcolumn =>
    refine ⟨.field ident.value, .column (List.cons_ne_nil _ _) ?_ hcolumn ?_ (fun D row => ?_) rfl⟩
    · rw [List.map_singleton, String.intercalate_singleton]
    · rw [Tree.toExpr]
      rfl
    · rw [Tree.value]
      rfl
  | @path idents hlen hcolumn =>
    have hne : idents ≠ [] := by
      rintro rfl
      exact absurd hlen (by decide)
    refine ⟨_, .column hne rfl hcolumn (toExpr_path hlen) (fun D row => ?_) rfl⟩
    rw [Tree.value]
  | constant hliteral hrange => exact ⟨_, .constant hliteral hrange⟩
  | nested _ ih =>
    obtain ⟨e, he⟩ := ih
    exact ⟨e, he.nested⟩
  | compare hleft hright hequatable _ _ ihl ihr =>
    obtain ⟨l, hl⟩ := ihl
    obtain ⟨r, hr⟩ := ihr
    exact ⟨_, .compare hleft hright hequatable hl hr⟩
  | connective hlen _ ih => exact Kept.connective hlen ih
  | not _ ih =>
    obtain ⟨e, he⟩ := ih
    exact ⟨_, he.not⟩
  | isNull htestable _ ih =>
    obtain ⟨e, he⟩ := ih
    exact ⟨_, he.nullTest htestable⟩
  | between ht hlow hhigh _ _ _ iht ihl ihh =>
    obtain ⟨e, he⟩ := iht
    obtain ⟨lo, hlo⟩ := ihl
    obtain ⟨hi, hhi⟩ := ihh
    exact ⟨_, .between ht hlow hhigh he hlo hhi⟩
  | inList hne ht hscalar hequatable _ _ iht ihitems =>
    obtain ⟨e, he⟩ := iht
    exact Kept.inList hne ht hscalar hequatable he ihitems
  | @searchedCase branches otherwise hne _ _ _ ihc ihr iho =>
    have hbranch : ∀ b ∈ branches, ∃ c, KeptBranch nulls none none b c := by
      intro b hb
      obtain ⟨c, hc⟩ := ihc b hb
      obtain ⟨r, hr⟩ := ihr b hb
      exact ⟨(c, r), hc.reads, hc.writable, fun D row => hc.truth D row, hr⟩
    obtain ⟨written, hwritten⟩ := exists_forall₂ hbranch
    obtain ⟨default, hdefault⟩ := exists_option iho
    exact ⟨_, .case hne rfl hwritten hdefault⟩
  | @simpleCase subject branches otherwise hne hscalar _ hscalars hequatable _ _ _ ihs ihc ihr iho =>
    obtain ⟨s, hs⟩ := ihs
    have hbranch : ∀ b ∈ branches, ∃ c, KeptBranch nulls (some subject) (some s) b c := by
      intro b hb
      obtain ⟨c, hc⟩ := ihc b hb
      obtain ⟨r, hr⟩ := ihr b hb
      have hequal := Kept.compare hscalar (hscalars b hb) (hequatable b hb) hs hc
      refine ⟨(c, r), hc.reads, hequal.writable, fun D row => ?_, hr⟩
      exact (hequal.truth D row).trans (truth_compare D nulls row .eq subject b.1)
    obtain ⟨written, hwritten⟩ := exists_forall₂ hbranch
    obtain ⟨default, hdefault⟩ := exists_option iho
    refine ⟨_, .case hne ?_ hwritten hdefault⟩
    rw [toExprOption, hs.reads]
    rfl

/-- A condition that is read and written back has the truth it had, in every row. -/
theorem truth_rewritten {nulls : NullEquality} {text : String} {t : Tree}
    (hread : expression? .generic text = some t) (h : Predicate nulls t) :
    ∃ e text' t', parseExpr .generic .empty text = .ok e ∧
      Dialect.generic.exprText e = .ok text' ∧ TextReads text' t' ∧
      ∀ (D : Domain) (row : D.Row), t'.truth D .unknown row = t.truth D nulls row := by
  obtain ⟨e, he⟩ := h.kept
  obtain ⟨text', htext, hreads⟩ := he.writable.textReads
  refine ⟨e, text', sqlTree e, ?_, htext, hreads, fun D row => he.truth D row⟩
  rw [parseExpr, hread]
  exact he.reads

/-- A text is read as a tree that a check recognizes. -/
theorem expression?_of_check {text : String} {t : Tree} {check : Tree → Bool}
    (hsound : ∀ u, check u = true → u = t)
    (h : (expression? .generic text).any check = true) : expression? .generic text = some t := by
  cases hread : expression? .generic text with
  | none =>
    rw [hread] at h
    cases h
  | some u =>
    rw [hread] at h
    exact congrArg some (hsound u h)

/-- A column on its own. -/
def column (name : String) : Tree := .name ⟨name, none⟩

/-- Neither one nor null, and another column known. -/
def knownOther : Tree :=
  .chain (.logical .and)
    [.unary .not (.inList false (column "a") [.constant (.number "1" false), .constant .null]),
      .isNull true (column "b")]

/-- Whether a tree is `knownOther`. -/
def isKnownOther : Tree → Bool
  | .chain (.logical .and)
      [.unary .not (.inList false (.name ⟨"a", none⟩)
        [.constant (.number "1" false), .constant .null]), .isNull true (.name ⟨"b", none⟩)] => true
  | _ => false

theorem predicate_knownOther : Predicate .test knownOther := by
  have hcolumn : ∀ name ∈ ["a", "b"], Predicate .test (column name) := by
    have hname : ∀ name ∈ ["a", "b"], IsColumn [⟨name, none⟩] := by
      unfold IsColumn
      decide
    exact fun name hmem => .name (hname name hmem)
  have hone : Predicate .test (.constant (.number "1" false)) := by
    have hrange : InRange (.int 1) := by
      unfold InRange
      decide
    exact .constant rfl hrange
  have hnull : Predicate .test (.constant .null) := .constant rfl trivial
  have hlist : Predicate .test
      (.inList false (column "a") [.constant (.number "1" false), .constant .null]) := by
    refine .inList (List.cons_ne_nil _ _) rfl ?_ (fun i _ htest => nomatch htest)
      (hcolumn "a" (by decide)) ?_
    · simpa using ⟨rfl, rfl⟩
    · simpa using ⟨hone, hnull⟩
  have hknown : Predicate .test (.isNull true (column "b")) :=
    .isNull rfl (hcolumn "b" (by decide))
  refine .connective (Nat.le_refl 2) ?_
  simpa using ⟨.not hlist, hknown⟩

theorem truth_rewritten_knownOther :
    expression? .generic "NOT a IN (1, NULL) AND b IS NOT NULL" = some knownOther ∧
    Predicate .test knownOther ∧
    ∃ e text' t', parseExpr .generic .empty "NOT a IN (1, NULL) AND b IS NOT NULL" = .ok e ∧
      Dialect.generic.exprText e = .ok text' ∧ TextReads text' t' ∧
      ∀ (D : Domain) (row : D.Row), t'.truth D .unknown row = knownOther.truth D .test row := by
  have hsound : ∀ u, isKnownOther u = true → u = knownOther := by
    intro u hu
    unfold isKnownOther at hu
    split at hu
    · rfl
    · cases hu
  have hread : expression? .generic "NOT a IN (1, NULL) AND b IS NOT NULL" = some knownOther :=
    expression?_of_check hsound (by decide +kernel)
  exact ⟨hread, predicate_knownOther, truth_rewritten hread predicate_knownOther⟩

/-- Equality to null, as it stands in a text. -/
def nullEquality : Tree := .binary (.compare .eq) (column "x") (.constant .null)

/-- Whether a tree is `nullEquality`. -/
def isNullEquality : Tree → Bool
  | .binary (.compare .eq) (.name ⟨"x", none⟩) (.constant .null) => true
  | _ => false

/-- Equality to null is written as a test for null: where it was unknown, it is true. -/
theorem null_equality_rewritten :
    expression? .generic "x = NULL" = some nullEquality ∧
    ∃ e text' t', parseExpr .generic .empty "x = NULL" = .ok e ∧
      Dialect.generic.exprText e = .ok text' ∧ TextReads text' t' ∧
      ∃ row : Domain.integers.Row, t'.truth .integers .unknown row = .yes ∧
        nullEquality.truth .integers .unknown row = .unknown := by
  have hsound : ∀ u, isNullEquality u = true → u = nullEquality := by
    intro u hu
    unfold isNullEquality at hu
    split at hu
    · rfl
    · cases hu
  have hread : expression? .generic "x = NULL" = some nullEquality :=
    expression?_of_check hsound (by decide +kernel)
  have hname : Writable (.field "x") := .field (by decide)
  have hwritable : Writable (.compare .eq (.field "x") .null) := .isNull (by decide) hname
  obtain ⟨text', htext, hreads⟩ := hwritable.textReads
  refine ⟨hread, _, text', _, ?_, htext, hreads, fun _ => none, rfl, rfl⟩
  rw [parseExpr, hread]
  rfl

end Polyquery.Sql
