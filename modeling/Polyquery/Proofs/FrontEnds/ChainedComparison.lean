import Mathlib.Data.List.Forall2
import Polyquery.Closure.Meaning
import Polyquery.Proofs.Expr.Valuation
import Polyquery.Proofs.Outcome

/-!
# Chained comparisons in closures

A comparison with several links compares every operand with the next one.  A constant on the left of
a link changes sides with the other operand, and the operator is flipped with them.

* `Link`, `chainLinks` - two operands with an operator between them, and the links of a chain;
* `Link.test` - the comparison that a link is translated to, with `Link.truth_test` - what it means;
* `linkExprs_eq` - a chain is translated link by link, from left to right;
* `comparison_conjoins_links` - a chain means the conjunction of its links.
-/

namespace Polyquery.Closure

/-- Two operands with an operator between them. -/
structure Link where
  left : Expr
  op : ComparisonOp
  right : Expr

/-- The links of a chain: every operand with the next one. -/
def chainLinks (first : Expr) : List (ComparisonOp × Expr) → List Link
  | [] => []
  | (op, e) :: rest => ⟨first, op, e⟩ :: chainLinks e rest

/-- Whether an operand is a constant. -/
def isConstant : Expr → Bool
  | .literal _ => true
  | _ => false

namespace Link

/-- The comparison that a link is translated to.  In a chain, a constant does not stand to the left
of anything else than a constant. -/
def test (chained : Bool) (l : Link) : Expr :=
  if chained && isConstant l.left && !isConstant l.right then
    .compare l.op.flipped l.right l.left
  else .compare l.op l.left l.right

theorem linkExpr_eq (chained : Bool) (op : ComparisonOp) (left right : Expr) :
    linkExpr chained op left right = (Link.mk left op right).test chained := by
  cases left with
  | literal a =>
    cases right with
    | literal b => cases chained <;> rfl
    | _ => cases chained <;> rfl
  | _ => cases chained <;> rfl

/-- Whether a link holds. -/
def holds {V : Type} [LinearOrder V] (v : Valuation V) (l : Link) : Bool :=
  l.op.holds (v.meaning l.left).value (v.meaning l.right).value

/-- The comparison means what the link does, on whichever side its operands are. -/
theorem meaning_test {V : Type} [LinearOrder V] (v : Valuation V) (chained : Bool) (l : Link) :
    v.meaning (l.test chained) = v.ofTruth (l.holds v) := by
  unfold test
  split
  · exact congrArg v.ofTruth (l.op.holds_flipped _ _)
  · rfl

end Link

/-! ### Translation -/

/-- A link of a closure with its operator and the translation of its operand. -/
def Translates (s : Scope) (link : Comparator × Term) (translated : ComparisonOp × Expr) : Prop :=
  translated.1 = link.1.op ∧ link.2.toExpr s = .ok translated.2

section Chain

variable {s : Scope} {links : List (Comparator × Term)} {translated : List (ComparisonOp × Expr)}

theorem linkExprs_eq (h : List.Forall₂ (Translates s) links translated) (chained : Bool)
    (first : Expr) :
    linkExprs s chained first links
      = .ok ((chainLinks first translated).map (Link.test chained)) := by
  induction h generalizing first with
  | nil => rfl
  | @cons link t links translated hlink _ ih =>
    obtain ⟨comparator, operand⟩ := link
    obtain ⟨op, e⟩ := t
    obtain ⟨rfl, hoperand⟩ := hlink
    rw [linkExprs, hoperand]
    show (linkExprs s chained e links >>= _) = _
    rw [ih e, Link.linkExpr_eq]
    rfl

/-- A chain of comparisons of which the operands are translated means the conjunction of its links,
whatever values the fields have.  Its links stand in their order in a conjunction that is nested to
the right. -/
theorem comparison_conjoins_links {left : Term} {first : Expr} (hne : links ≠ [])
    (hfirst : left.toExpr s = .ok first) (h : List.Forall₂ (Translates s) links translated) :
    ∃ e, (Term.compare left links).toExpr s = .ok e ∧
      (∀ (V : Type) [LinearOrder V] (v : Valuation V),
        v.meaning e = v.ofTruth ((chainLinks first translated).all (Link.holds v))) ∧
      RightNested .and
        ((chainLinks first translated).map (Link.test (decide (1 < links.length)))) e := by
  have hlinks := linkExprs_eq h (decide (1 < links.length)) first
  have hsome : (chainLinks first translated).map (Link.test (decide (1 < links.length))) ≠ [] := by
    cases h with
    | nil => exact absurd rfl hne
    | cons _ _ => exact List.cons_ne_nil _ _
  obtain ⟨e, hfold, hnested⟩ := rightNested_foldLogical? .and hsome
  refine ⟨e, ?_, fun V _ v => ?_, hnested⟩
  · rw [Term.toExpr, hfirst]
    show (linkExprs s (decide (1 < links.length)) first links >>= _) = _
    rw [hlinks]
    simp only [bind, Except.bind, hfold]
  · -- every test is a condition, so the chain of them has no value of its own
    have hconditions : ∀ test ∈ (chainLinks first translated).map
        (Link.test (decide (1 < links.length))),
        v.meaning test = v.ofTruth (v.meaning test).truth := by
      refine List.forall_mem_map.2 fun l _ => ?_
      rw [l.meaning_test]
      rfl
    rw [meaning_rightNested v hnested hconditions, List.all_map]
    congr 2
    funext l
    exact congrArg Meaning.truth (l.meaning_test v _)

end Chain

/-- `1 < x.price ≤ limit ≠ x.cost`, with a named value between two members. -/
def pricedWithin : Lambda :=
  ⟨["x"], .compare (.constant (.int 1))
    [(.lt, .attribute (.param "x") "price"), (.le, .free "limit"),
      (.isNot, .attribute (.param "x") "cost")]⟩

theorem comparison_conjoins_links_pricedWithin :
    ∃ e, pricedWithin.filter [] [("limit", .int 9)] .empty = .ok e ∧
      (∀ (V : Type) [LinearOrder V] (v : Valuation V), v.meaning e = v.ofTruth
        ([⟨.int 1, .lt, .field "price"⟩, ⟨.field "price", .lte, .int 9⟩,
          ⟨.int 9, .ne, .field "cost"⟩].all (Link.holds v))) ∧
      RightNested .and
        [.compare .gt (.field "price") (.int 1), .compare .lte (.field "price") (.int 9),
          .compare .ne (.field "cost") (.int 9)] e := by
  have hfirst : (Term.constant (.int 1)).toExpr (pricedWithin.scope [] [("limit", .int 9)] .empty)
      = .ok (.int 1) := rfl
  have hlinks : List.Forall₂ (Translates (pricedWithin.scope [] [("limit", .int 9)] .empty))
      [(.lt, .attribute (.param "x") "price"), (.le, .free "limit"),
        (.isNot, .attribute (.param "x") "cost")]
      [(.lt, .field "price"), (.lte, .int 9), (.ne, .field "cost")] :=
    .cons ⟨rfl, rfl⟩ (.cons ⟨rfl, rfl⟩ (.cons ⟨rfl, rfl⟩ .nil))
  exact comparison_conjoins_links (by simp) hfirst hlinks

end Polyquery.Closure
