import Polyquery.Proofs.Sql.Meaning

/-!
# Truth of SQL conditions

A condition is true, false or unknown, and null stands for the unknown value.

* `Truth` - the three truth values and their connectives;
* `Domain` - values, and what comparisons make of them;
* `NullEquality` - what equality to the constant `NULL` means: nothing known, or a test for null;
* `Tree.value`, `Tree.truth` - the value and the truth of an expression in a row.
-/

namespace Polyquery.Sql

/-! ### Three truth values -/

/-- What is known about a condition. -/
inductive Truth where
  | yes
  | no
  | unknown
deriving DecidableEq

namespace Truth

/-- The truth value of something known. -/
def ofBool (b : Bool) : Truth := if b then yes else no

/-- The opposite; of the unknown nothing is known. -/
def not : Truth → Truth
  | yes => no
  | no => yes
  | unknown => unknown

/-- Both: false as soon as one is. -/
def and : Truth → Truth → Truth
  | no, _ | _, no => no
  | yes, yes => yes
  | _, _ => unknown

/-- Either: true as soon as one is. -/
def or : Truth → Truth → Truth
  | yes, _ | _, yes => yes
  | no, no => no
  | _, _ => unknown

/-- The opposite where the condition is negated. -/
def negatedIf (negated : Bool) (t : Truth) : Truth := if negated then t.not else t

/-- A connective of two truth values. -/
def connective (op : LogicalOp) (left right : Truth) : Truth :=
  match op with
  | .and => left.and right
  | .or => left.or right

/-- A connective of any number of truth values. -/
def combine (op : LogicalOp) : List Truth → Truth
  | [] => match op with
    | .and => yes
    | .or => no
  | t :: ts => connective op t (combine op ts)

theorem combine_singleton (op : LogicalOp) (t : Truth) : combine op [t] = t := by
  cases op <;> cases t <;> rfl

theorem combine_pair (op : LogicalOp) (t u : Truth) : combine op [t, u] = connective op t u := by
  rw [combine, combine_singleton]

theorem not_ofBool (b : Bool) : (ofBool b).not = ofBool !b := by
  cases b <;> rfl

end Truth

/-! ### Values -/

/-- The values of columns and constants, null apart. -/
structure Domain where
  Value : Type
  /-- The value of a constant other than null. -/
  constant : Literal → Value
  /-- The comparison of two values. -/
  compare : ComparisonOp → Value → Value → Truth
  /-- The value of a condition of which the truth is known. -/
  ofBool : Bool → Value
  /-- The truth of a value in the place of a condition. -/
  truth : Value → Truth
  truth_ofBool : ∀ b, truth (ofBool b) = .ofBool b
  /-- The value of an expression that is not described here. -/
  other : Tree → (List String → Option Value) → Option Value

/-- What equality and inequality to the constant `NULL` mean. -/
inductive NullEquality where
  /-- They are unknown, as with any other null. -/
  | unknown
  /-- They test whether the other side is null. -/
  | test
deriving DecidableEq

/-- Whether a tree is the constant `NULL`, possibly in parentheses. -/
def Tree.isNullConstant (t : Tree) : Bool :=
  match t.literal? with
  | some .null => true
  | _ => false

namespace Domain

variable (D : Domain)

/-- A row: the values of the columns by their names, some of them null. -/
def Row : Type := List String → Option D.Value

/-- The value of a constant. -/
def literal : Literal → Option D.Value
  | .null => none
  | value => some (D.constant value)

/-- The value of a tree that is a constant behind its signs, or any other. -/
def constantOr (row : D.Row) (t : Tree) : Option D.Value :=
  match t.literal? with
  | some value => D.literal value
  | none => D.other t row

theorem constantOr_of_literal? (row : D.Row) {t : Tree} {value : Literal}
    (h : t.literal? = some value) : D.constantOr row t = D.literal value := by
  rw [constantOr, h]

/-- The truth of a value that may be null. -/
def truthOf : Option D.Value → Truth
  | none => .unknown
  | some value => D.truth value

/-- The value of a condition. -/
def valueOf : Truth → Option D.Value
  | .yes => some (D.ofBool true)
  | .no => some (D.ofBool false)
  | .unknown => none

@[simp] theorem truthOf_valueOf (t : Truth) : D.truthOf (D.valueOf t) = t := by
  cases t with
  | yes => exact D.truth_ofBool true
  | no => exact D.truth_ofBool false
  | unknown => rfl

/-- A comparison of values that may be null. -/
def compared (op : ComparisonOp) : Option D.Value → Option D.Value → Truth
  | some left, some right => D.compare op left right
  | _, _ => .unknown

/-- A comparison of which the right side may be the constant `NULL`. -/
def equated (nulls : NullEquality) (op : ComparisonOp) (left right : Option D.Value)
    (isNull : Bool) : Truth :=
  match nulls, isNull, op with
  | .test, true, .eq => .ofBool left.isNone
  | .test, true, .ne => .ofBool left.isSome
  | _, _, op => D.compared op left right

/-- Whether a branch of a case is taken: where its condition is true, or with a subject, where the
subject is equal to it. -/
def branchTruth (nulls : NullEquality) (subject : Option (Option D.Value))
    (condition : Option D.Value) (isNull : Bool) : Truth :=
  match subject with
  | none => D.truthOf condition
  | some value => D.equated nulls .eq value condition isNull

@[simp] theorem equated_unknown (op : ComparisonOp) (left right : Option D.Value) (isNull : Bool) :
    D.equated .unknown op left right isNull = D.compared op left right := by
  cases isNull <;> rfl

theorem equated_of_not_null (nulls : NullEquality) (op : ComparisonOp)
    (left right : Option D.Value) : D.equated nulls op left right false = D.compared op left right := by
  cases nulls <;> rfl

/-- An order of values says nothing about null. -/
theorem equated_of_order {op : ComparisonOp} (heq : op ≠ .eq) (hne : op ≠ .ne)
    (nulls : NullEquality) (left right : Option D.Value) (isNull : Bool) :
    D.equated nulls op left right isNull = D.compared op left right := by
  cases op with
  | eq => exact absurd rfl heq
  | ne => exact absurd rfl hne
  | _ => cases nulls <;> cases isNull <;> rfl

/-- Whole numbers, of which all but zero are true. -/
def integers : Domain where
  Value := Int
  constant
    | .int n => n.toInt
    | .bool b => if b then 1 else 0
    | _ => 0
  compare
    | .eq, left, right => .ofBool (left = right)
    | .ne, left, right => .ofBool (left ≠ right)
    | .lt, left, right => .ofBool (left < right)
    | .lte, left, right => .ofBool (left ≤ right)
    | .gt, left, right => .ofBool (right < left)
    | .gte, left, right => .ofBool (right ≤ left)
  ofBool b := if b then 1 else 0
  truth value := .ofBool (value ≠ 0)
  truth_ofBool b := by cases b <;> rfl
  other _ _ := none

end Domain

/-! ### Expressions -/

section Value

variable (D : Domain) (nulls : NullEquality) (row : D.Row)

mutual

/-- The value of an expression in a row. -/
def Tree.value : Tree → Option D.Value
  | .name ident => row [ident.value]
  | .path idents => row (idents.map Ident.value)
  | .constant c => D.constantOr row (.constant c)
  | .nested inner => inner.value
  | .chain op operands =>
    match op with
    | .logical op => D.valueOf (.combine op (truths operands))
    | .concat => D.other (.chain op operands) row
  | .binary op left right =>
    match op with
    | .compare op => D.valueOf (D.equated nulls op left.value right.value right.isNullConstant)
    | _ => D.other (.binary op left right) row
  | .unary op operand =>
    match op with
    | .not => D.valueOf (D.truthOf operand.value).not
    | _ => D.constantOr row (.unary op operand)
  | .isNull negated operand =>
    D.valueOf (Truth.negatedIf negated (.ofBool operand.value.isNone))
  | .between negated operand low high =>
    D.valueOf (Truth.negatedIf negated
      ((D.compared .gte operand.value low.value).and (D.compared .lte operand.value high.value)))
  | .inList negated operand items =>
    D.valueOf (Truth.negatedIf negated (.combine .or (equalities operand.value items)))
  | .case subject branches otherwise =>
    branchesValue (match subject with
      | none => none
      | some subject => some subject.value) (optionValue otherwise) branches
  | t => D.other t row

/-- The truth of expressions in a list. -/
def truths : List Tree → List Truth
  | [] => []
  | t :: ts => D.truthOf t.value :: truths ts

/-- Whether a value is equal to each of the items. -/
def equalities (value : Option D.Value) : List Tree → List Truth
  | [] => []
  | t :: ts => D.equated nulls .eq value t.value t.isNullConstant :: equalities value ts

/-- The value of the first branch that is taken, else of the default. -/
def branchesValue (subject : Option (Option D.Value)) (default : Option D.Value) :
    List (Tree × Tree) → Option D.Value
  | [] => default
  | (condition, result) :: rest =>
    if D.branchTruth nulls subject condition.value condition.isNullConstant = .yes then result.value
    else branchesValue subject default rest

/-- The value of an expression that may be missing. -/
def optionValue : Option Tree → Option D.Value
  | none => none
  | some t => t.value

end

/-- The truth of a condition in a row. -/
def Tree.truth (t : Tree) : Truth := D.truthOf (t.value D nulls row)

theorem truth_compare (op : ComparisonOp) (left right : Tree) :
    (Tree.binary (.compare op) left right).truth D nulls row
      = D.equated nulls op (left.value D nulls row) (right.value D nulls row)
          right.isNullConstant := by
  rw [Tree.truth, Tree.value, Domain.truthOf_valueOf]

theorem equalities_eq_truths (t : Tree) (items : List Tree) :
    equalities D nulls row (t.value D nulls row) items
      = truths D nulls row (items.map (.binary (.compare .eq) t)) := by
  induction items with
  | nil => rfl
  | cons i items ih =>
    rw [equalities, ih, List.map_cons, truths]
    exact congrArg (· :: _) (truth_compare D nulls row .eq t i).symm

/-- The tree of a constant has the value of the constant. -/
theorem value_of_literal? {t : Tree} {value : Literal} (h : t.literal? = some value) :
    t.value D nulls row = D.literal value := by
  fun_induction Tree.literal? t generalizing value with
  | case1 c => exact D.constantOr_of_literal? row h
  | case2 inner ih => rw [Tree.value, ih h]
  | case3 operand => exact D.constantOr_of_literal? row h
  | case4 operand => exact D.constantOr_of_literal? row h
  | case5 => cases h

end Value

end Polyquery.Sql
