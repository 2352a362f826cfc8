import Mathlib.Order.Lattice
import Polyquery.Expr

/-!
# Trees over an ordered domain

* `ComparisonOp.holds` - the comparison of two values of a total order, with
  `ComparisonOp.holds_flipped` - an operator with the sides exchanged;
* `Valuation` - the values of fields and constants, and what arithmetic and calls make of values;
* `Valuation.meaning` - the value and the truth of a tree;
* `RightNested` - a chain of operands nested to the right, with `meaning_rightNested` - such a
  conjunction holds if all its operands do.
-/

namespace Polyquery

/-- The comparison of two values of a total order. -/
def ComparisonOp.holds {V : Type} [LinearOrder V] (op : ComparisonOp) (a b : V) : Bool :=
  match op with
  | .eq => a = b
  | .ne => a ≠ b
  | .gt => a > b
  | .gte => a ≥ b
  | .lt => a < b
  | .lte => a ≤ b

/-- The flipped operator holds with the sides exchanged. -/
theorem ComparisonOp.holds_flipped {V : Type} [LinearOrder V] (op : ComparisonOp) (a b : V) :
    op.flipped.holds b a = op.holds a b := by
  cases op with
  | eq => exact decide_eq_decide.2 eq_comm
  | ne => exact decide_eq_decide.2 ne_comm
  | gt => rfl
  | gte => rfl
  | lt => rfl
  | lte => rfl

/-- The values of fields and constants, and what operators other than comparisons and connectives
make of values. -/
structure Valuation (V : Type) where
  field : String → V
  literal : Literal → V
  arithmetic : ArithmeticOp → V → V → V
  call : Func → List V → V
  /-- Whether a value matches a pattern with its options. -/
  regexMatch : String → Option String → V → Bool
  custom : String → List V → V
  /-- The value of a condition. -/
  ofBool : Bool → V
  /-- The truth of a value in the place of a condition. -/
  truth : V → Bool

/-- What a tree stands for: a value, and its truth in the place of a condition. -/
structure Meaning (V : Type) where
  value : V
  truth : Bool

namespace Valuation

variable {V : Type} (v : Valuation V)

/-- A tree that stands for a value. -/
def ofValue (value : V) : Meaning V := ⟨value, v.truth value⟩

/-- A tree that stands for a condition. -/
def ofTruth (truth : Bool) : Meaning V := ⟨v.ofBool truth, truth⟩

variable [LinearOrder V]

mutual

/-- The value and the truth of a tree. -/
def meaning : Expr → Meaning V
  | .field path => v.ofValue (v.field path)
  | .literal value => v.ofValue (v.literal value)
  | .compare op left right => v.ofTruth (op.holds (meaning left).value (meaning right).value)
  | .logical .and args => v.ofTruth ((meanings args).all Meaning.truth)
  | .logical .or args => v.ofTruth ((meanings args).any Meaning.truth)
  | .not arg => v.ofTruth (!(meaning arg).truth)
  | .arithmetic op left right =>
    v.ofValue (v.arithmetic op (meaning left).value (meaning right).value)
  | .call func args => v.ofValue (v.call func ((meanings args).map Meaning.value))
  | .regexMatch input regex options => v.ofTruth (v.regexMatch regex options (meaning input).value)
  | .cond condition yes no => if (meaning condition).truth then meaning yes else meaning no
  | .switch branches default => (chosen branches).getD (defaultMeaning default)
  | .custom name args => v.ofValue (v.custom name ((meanings args).map Meaning.value))

/-- What listed trees stand for. -/
def meanings : List Expr → List (Meaning V)
  | [] => []
  | e :: rest => meaning e :: meanings rest

/-- The first branch with a true condition. -/
def chosen : List (Expr × Expr) → Option (Meaning V)
  | [] => none
  | (condition, value) :: rest =>
    if (meaning condition).truth then some (meaning value) else chosen rest

/-- The default; a missing one is null. -/
def defaultMeaning : Option Expr → Meaning V
  | none => v.ofValue (v.literal .null)
  | some e => meaning e

end

end Valuation

/-! ### Nested chains -/

/-- Operands in a chain of connectives that is nested to the right; a single one is by itself. -/
inductive RightNested (op : LogicalOp) : List Expr → Expr → Prop where
  | last (e : Expr) : RightNested op [e] e
  | cons {rest : List Expr} {chain : Expr} (e : Expr) :
      RightNested op rest chain → RightNested op (e :: rest) (.logical op [e, chain])

/-- Folded operands are nested to the right. -/
theorem rightNested_foldLogical? (op : LogicalOp) {args : List Expr} (hne : args ≠ []) :
    ∃ e, Expr.foldLogical? op args = some e ∧ RightNested op args e := by
  induction args with
  | nil => exact absurd rfl hne
  | cons a rest ih =>
    cases rest with
    | nil => exact ⟨a, rfl, .last a⟩
    | cons b rest =>
      obtain ⟨chain, hchain, hnested⟩ := ih (List.cons_ne_nil b rest)
      refine ⟨.logical op [a, chain], ?_, .cons a hnested⟩
      rw [Expr.foldLogical?, hchain]
      · rfl
      · exact List.cons_ne_nil b rest

/-- A chain of conditions nested to the right is their conjunction. -/
theorem meaning_rightNested {V : Type} [LinearOrder V] (v : Valuation V) {args : List Expr}
    {e : Expr} (h : RightNested .and args e)
    (hargs : ∀ a ∈ args, v.meaning a = v.ofTruth (v.meaning a).truth) :
    v.meaning e = v.ofTruth (args.all fun a => (v.meaning a).truth) := by
  induction h with
  | last e => simpa using hargs e (List.mem_singleton_self e)
  | cons a _ ih =>
    rw [List.forall_mem_cons] at hargs
    simp [Valuation.meaning, Valuation.meanings, Valuation.ofTruth, ih hargs.2]

end Polyquery
