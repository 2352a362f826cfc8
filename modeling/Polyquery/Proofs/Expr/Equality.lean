import Polyquery.Proofs.Expr.Document
import Polyquery.Proofs.Number.Shortest
import Polyquery.Query

/-!
# Equality up to numerical equality of constants

Constants are compared as numbers: the zeros of both signs are equal, trailing zeros of a decimal do
not count, and not-a-number differs from everything.  So this equality is symmetric and transitive,
but some constants are not equal to themselves.

* `EqualAt`, `IsPartialEq` - a symmetric and transitive comparison, at one item and at all;
* `EqualAt.eqvBy` - lists are compared as their items are;
* `BinaryFloat.isPartialEq`, `Decimal.isPartialEq`, `Expr.isPartialEq` - numbers and trees;
* `Same` - equal by a comparison, or the very same;
* `Expr.Alike` - trees that are the same but for constants that are equal as numbers, with
  `Expr.Alike.not_and_left` - no condition is the same as its conjunction with another.
-/

namespace Polyquery

/-! ### Comparisons -/

/-- A comparison is symmetric and transitive where it starts from an item. -/
structure EqualAt {α : Type} (eq : α → α → Bool) (a : α) : Prop where
  symm : ∀ b, eq a b = true → eq b a = true
  trans : ∀ b c, eq a b = true → eq b c = true → eq a c = true

/-- A comparison is symmetric and transitive. -/
def IsPartialEq {α : Type} (eq : α → α → Bool) : Prop := ∀ a, EqualAt eq a

section Comparisons

variable {α : Type} {eq : α → α → Bool}

/-- Lists are compared as their items are. -/
theorem EqualAt.eqvBy {as : List α} (h : ∀ a ∈ as, EqualAt eq a) :
    EqualAt (Query.eqvBy eq) as := by
  constructor
  · intro bs hab
    induction as generalizing bs with
    | nil =>
      cases bs with
      | nil => rfl
      | cons b bs => cases hab
    | cons a as ih =>
      cases bs with
      | nil => cases hab
      | cons b bs =>
        rw [List.forall_mem_cons] at h
        rw [Query.eqvBy, Bool.and_eq_true] at hab ⊢
        exact ⟨h.1.symm b hab.1, ih h.2 bs hab.2⟩
  · intro bs cs hab hbc
    induction as generalizing bs cs with
    | nil =>
      cases bs with
      | nil => exact hbc
      | cons b bs => cases hab
    | cons a as ih =>
      cases bs with
      | nil => cases hab
      | cons b bs =>
        cases cs with
        | nil => cases hbc
        | cons c cs =>
          rw [List.forall_mem_cons] at h
          rw [Query.eqvBy, Bool.and_eq_true] at hab hbc ⊢
          exact ⟨h.1.trans b c hab.1 hbc.1, ih h.2 bs cs hab.2 hbc.2⟩

theorem IsPartialEq.eqvBy (h : IsPartialEq eq) : IsPartialEq (Query.eqvBy eq) :=
  fun _ => .eqvBy fun a _ => h a

/-- Items whose parts are compared one by one. -/
theorem EqualAt.both {β γ : Type} {eq₁ : β → β → Bool} {eq₂ : γ → γ → Bool} {f : α → β} {g : α → γ}
    {a : α} (h₁ : EqualAt eq₁ (f a)) (h₂ : EqualAt eq₂ (g a)) :
    EqualAt (fun a b => eq₁ (f a) (f b) && eq₂ (g a) (g b)) a := by
  constructor
  · intro b hab
    rw [Bool.and_eq_true] at hab ⊢
    exact ⟨h₁.symm _ hab.1, h₂.symm _ hab.2⟩
  · intro b c hab hbc
    rw [Bool.and_eq_true] at hab hbc ⊢
    exact ⟨h₁.trans _ _ hab.1 hbc.1, h₂.trans _ _ hab.2 hbc.2⟩

theorem isPartialEq_beq [DecidableEq α] : IsPartialEq fun a b : α => a == b := by
  intro a
  constructor
  · intro b hab
    rw [beq_iff_eq] at hab ⊢
    exact hab.symm
  · intro b c hab hbc
    rw [beq_iff_eq] at hab hbc ⊢
    exact hab.trans hbc

end Comparisons

/-! ### Numbers -/

/-- Equal fractions with positive denominators. -/
theorem fraction_trans {a b c : Nat × Nat} (hb : 0 < b.2) (hab : a.1 * b.2 = b.1 * a.2)
    (hbc : b.1 * c.2 = c.1 * b.2) : a.1 * c.2 = c.1 * a.2 := by
  apply Nat.eq_of_mul_eq_mul_right hb
  calc a.1 * c.2 * b.2 = a.1 * b.2 * c.2 := by rw [Nat.mul_assoc, Nat.mul_comm c.2, Nat.mul_assoc]
    _ = b.1 * c.2 * a.2 := by rw [hab, Nat.mul_assoc, Nat.mul_comm a.2, Nat.mul_assoc]
    _ = c.1 * a.2 * b.2 := by rw [hbc, Nat.mul_assoc, Nat.mul_comm b.2, Nat.mul_assoc]

/-- A fraction that equals a zero is a zero. -/
theorem fraction_zero {a b : Nat × Nat} (ha : 0 < a.2) (hab : a.1 * b.2 = b.1 * a.2)
    (hzero : a.1 = 0) : b.1 = 0 := by
  rw [hzero, Nat.zero_mul, eq_comm, Nat.mul_eq_zero] at hab
  omega

/-- Signed fractions are compared by their magnitudes, and by their signs unless they are zero. -/
def fractionsEqual (a b : Bool × Nat × Nat) : Bool :=
  a.2.1 * b.2.2 == b.2.1 * a.2.2 && (a.1 == b.1 || a.2.1 == 0)

theorem fractionsEqual_symm {a b : Bool × Nat × Nat} (ha : 0 < a.2.2)
    (h : fractionsEqual a b = true) : fractionsEqual b a = true := by
  simp only [fractionsEqual, Bool.and_eq_true, Bool.or_eq_true, beq_iff_eq] at h ⊢
  refine ⟨h.1.symm, ?_⟩
  rcases h.2 with hsign | hzero
  · exact .inl hsign.symm
  · exact .inr (fraction_zero ha h.1 hzero)

theorem fractionsEqual_trans {a b c : Bool × Nat × Nat} (hb : 0 < b.2.2)
    (hab : fractionsEqual a b = true) (hbc : fractionsEqual b c = true) :
    fractionsEqual a c = true := by
  simp only [fractionsEqual, Bool.and_eq_true, Bool.or_eq_true, beq_iff_eq] at hab hbc ⊢
  refine ⟨fraction_trans hb hab.1 hbc.1, ?_⟩
  rcases hab.2 with hsign | hzero
  · rcases hbc.2 with hsign' | hzero'
    · exact .inl (hsign.trans hsign')
    · exact .inr (fraction_zero hb hab.1.symm hzero')
  · exact .inr hzero

theorem Decimal.isPartialEq : IsPartialEq Decimal.eq := by
  have hpow : ∀ d : Decimal, 0 < Nat.pow 10 d.scale := fun d => Nat.pow_pos (by decide)
  have heq : ∀ a b : Decimal, a.eq b =
      fractionsEqual (a.negative, a.coefficient, Nat.pow 10 a.scale)
        (b.negative, b.coefficient, Nat.pow 10 b.scale) := fun _ _ => rfl
  intro a
  constructor
  · intro b hab
    rw [heq] at hab ⊢
    exact fractionsEqual_symm (hpow a) hab
  · intro b c hab hbc
    rw [heq] at hab hbc ⊢
    exact fractionsEqual_trans (hpow b) hab hbc

namespace BinaryFloat

variable {F : FloatFormat}

theorem dyadic_zero_iff (m : Nat) (e : Int) : (dyadic m e).1 = 0 ↔ m = 0 := by
  unfold dyadic
  split
  · have hpow : 0 < Nat.pow 2 e.toNat := Nat.pow_pos (by decide)
    simp only [Nat.mul_eq_zero]
    omega
  · exact Iff.rfl

theorem eq_finite (s t : Bool) (m n : Nat) (e g : Int) :
    eq (.finite s m e : BinaryFloat F) (.finite t n g)
      = fractionsEqual (s, dyadic m e) (t, dyadic n g) := by
  have hzero : (m == 0) = ((dyadic m e).1 == 0) := by
    rw [Bool.eq_iff_iff, beq_iff_eq, beq_iff_eq, dyadic_zero_iff]
  rw [eq, fractionsEqual, hzero]

theorem isPartialEq : IsPartialEq (eq : BinaryFloat F → BinaryFloat F → Bool) := by
  intro a
  constructor
  · intro b hab
    cases a with
    | nan => cases hab
    | infinite s =>
      cases b with
      | nan => cases hab
      | infinite t => exact (isPartialEq_beq s).symm t hab
      | finite t n g => cases hab
    | finite s m e =>
      cases b with
      | nan => cases hab
      | infinite t => cases hab
      | finite t n g =>
        rw [eq_finite] at hab ⊢
        exact fractionsEqual_symm (Shortest.dyadic_pos m e) hab
  · intro b c hab hbc
    cases a with
    | nan => cases hab
    | infinite s =>
      cases b with
      | nan => cases hab
      | infinite t =>
        cases c with
        | nan => cases hbc
        | infinite u => exact (isPartialEq_beq s).trans t u hab hbc
        | finite u l h => cases hbc
      | finite t n g => cases hab
    | finite s m e =>
      cases b with
      | nan => cases hab
      | infinite t => cases hab
      | finite t n g =>
        cases c with
        | nan => cases hbc
        | infinite u => cases hbc
        | finite u l h =>
          rw [eq_finite] at hab hbc ⊢
          exact fractionsEqual_trans (Shortest.dyadic_pos n g) hab hbc

end BinaryFloat

namespace Literal

/-- Equal constants are numbers of one kind that are equal, or the very same. -/
theorem eqv_cases {a b : Literal} (h : a.eqv b = true) :
    (∃ f g, a = .single f ∧ b = .single g ∧ f.eq g = true) ∨
      (∃ f g, a = .double f ∧ b = .double g ∧ f.eq g = true) ∨
      (∃ d e, a = .decimal d ∧ b = .decimal e ∧ d.eq e = true) ∨ a = b := by
  unfold eqv at h
  split at h
  · exact .inl ⟨_, _, rfl, rfl, h⟩
  · exact .inr (.inl ⟨_, _, rfl, rfl, h⟩)
  · exact .inr (.inr (.inl ⟨_, _, rfl, rfl, h⟩))
  · exact .inr (.inr (.inr (beq_iff_eq.1 h)))

theorem isPartialEq : IsPartialEq eqv := by
  intro a
  constructor
  · intro b hab
    rcases eqv_cases hab with ⟨f, g, rfl, rfl, h⟩ | ⟨f, g, rfl, rfl, h⟩ | ⟨d, e, rfl, rfl, h⟩ | rfl
    · exact (BinaryFloat.isPartialEq f).symm g h
    · exact (BinaryFloat.isPartialEq f).symm g h
    · exact (Decimal.isPartialEq d).symm e h
    · exact hab
  · intro b c hab hbc
    rcases eqv_cases hbc with
      ⟨g, l, rfl, rfl, h'⟩ | ⟨g, l, rfl, rfl, h'⟩ | ⟨e, l, rfl, rfl, h'⟩ | rfl
    · rcases eqv_cases hab with ⟨f, k, rfl, hk, h⟩ | ⟨f, k, -, hk, -⟩ | ⟨d, k, -, hk, -⟩ | rfl
      · obtain rfl : g = k := by injection hk
        exact (BinaryFloat.isPartialEq f).trans g l h h'
      · cases hk
      · cases hk
      · exact hbc
    · rcases eqv_cases hab with ⟨f, k, -, hk, -⟩ | ⟨f, k, rfl, hk, h⟩ | ⟨d, k, -, hk, -⟩ | rfl
      · cases hk
      · obtain rfl : g = k := by injection hk
        exact (BinaryFloat.isPartialEq f).trans g l h h'
      · cases hk
      · exact hbc
    · rcases eqv_cases hab with ⟨f, k, -, hk, -⟩ | ⟨f, k, -, hk, -⟩ | ⟨d, k, rfl, hk, h⟩ | rfl
      · cases hk
      · cases hk
      · obtain rfl : e = k := by injection hk
        exact (Decimal.isPartialEq d).trans e l h h'
      · exact hbc
    · exact hab

end Literal

/-! ### Trees -/

namespace Expr

/-- The subtrees of a tree, those of a branch in turn and a default in front. -/
def parts : Expr → List Expr
  | .field _ | .literal _ => []
  | .compare _ left right | .arithmetic _ left right => [left, right]
  | .logical _ args | .call _ args | .custom _ args => args
  | .not arg => [arg]
  | .regexMatch input _ _ => [input]
  | .cond condition yes no => [condition, yes, no]
  | .switch branches default => default.toList ++ branches.flatMap fun b => [b.1, b.2]

/-- The constant of a tree that is one. -/
def constants : Expr → List Literal
  | .literal value => [value]
  | _ => []

/-- What a tree is besides its subtrees and its constant. -/
def mark : Expr → Expr
  | .field path => .field path
  | .literal _ => null
  | .compare op _ _ => .compare op null null
  | .logical op _ => .logical op []
  | .not _ => .not null
  | .arithmetic op _ _ => .arithmetic op null null
  | .call func _ => .call func []
  | .regexMatch _ regex options => .regexMatch null regex options
  | .cond _ _ _ => .cond null null null
  | .switch _ default => .switch [] (default.map fun _ => null)
  | .custom name _ => .custom name []

/-- Induction over a tree by its subtrees. -/
theorem parts_induction {P : Expr → Prop} (step : ∀ e, (∀ part ∈ e.parts, P part) → P e)
    (e : Expr) : P e := by
  induction e using Expr.induction with
  | field path => exact step _ fun part h => absurd h List.not_mem_nil
  | literal value => exact step _ fun part h => absurd h List.not_mem_nil
  | compare op left right hleft hright => exact step _ (by simp [parts, hleft, hright])
  | logical op args hargs => exact step _ hargs
  | not arg harg => exact step _ (by simp [parts, harg])
  | arithmetic op left right hleft hright => exact step _ (by simp [parts, hleft, hright])
  | call func args hargs => exact step _ hargs
  | regexMatch input regex options hinput => exact step _ (by simp [parts, hinput])
  | cond condition yes no hcondition hyes hno =>
    exact step _ (by simp [parts, hcondition, hyes, hno])
  | switch branches default hconditions hvalues hdefault =>
    refine step _ fun part hpart => ?_
    rcases List.mem_append.1 hpart with hd | hb
    · exact hdefault part (Option.mem_toList.1 hd)
    · obtain ⟨b, hmem, hpart⟩ := List.mem_flatMap.1 hb
      rcases List.mem_cons.1 hpart with rfl | hpart
      · exact hconditions b hmem
      · rw [List.mem_singleton.1 hpart]
        exact hvalues b hmem
  | custom name args hargs => exact step _ hargs

theorem eqvList_eq (as bs : List Expr) : eqvList as bs = Query.eqvBy eqv as bs := by
  induction as generalizing bs with
  | nil => cases bs <;> simp [eqvList, Query.eqvBy]
  | cons a as ih =>
    cases bs with
    | nil => simp [eqvList, Query.eqvBy]
    | cons b bs => rw [eqvList, Query.eqvBy, ih]

theorem eqvBranches_eq (as bs : List (Expr × Expr)) :
    eqvBranches as bs = Query.eqvBy eqv (as.flatMap fun b => [b.1, b.2])
      (bs.flatMap fun b => [b.1, b.2]) := by
  induction as generalizing bs with
  | nil => cases bs <;> simp [eqvBranches, Query.eqvBy]
  | cons a as ih =>
    cases bs with
    | nil => simp [eqvBranches, Query.eqvBy]
    | cons b bs =>
      obtain ⟨condition, value⟩ := a
      obtain ⟨condition', value'⟩ := b
      rw [eqvBranches, ih, Bool.and_assoc]
      rfl

/-- Trees are equal if they are the same but for their constants and subtrees, and those are
equal. -/
theorem eqv_iff (a b : Expr) :
    a.eqv b = true ↔ a.mark = b.mark ∧ Query.eqvBy Literal.eqv a.constants b.constants = true ∧
      Query.eqvBy eqv a.parts b.parts = true := by
  have hbranches : ∀ (bs cs : List (Expr × Expr)) (d d' : Option Expr),
      (eqvBranches bs cs = true ∧ eqvOption d d' = true) ↔
        d.map (fun _ => null) = d'.map (fun _ => null) ∧
          Query.eqvBy eqv (d.toList ++ bs.flatMap fun b => [b.1, b.2])
            (d'.toList ++ cs.flatMap fun b => [b.1, b.2]) = true := by
    intro bs cs d d'
    rw [eqvBranches_eq]
    cases d <;> cases d' <;> simp [eqvOption, Query.eqvBy, and_comm]
  cases a with
  | regexMatch input regex options =>
    cases b with
    | regexMatch input' regex' options' =>
      simp only [eqv, mark, constants, parts, Query.eqvBy, Bool.and_eq_true, Bool.and_true,
        beq_iff_eq, regexMatch.injEq, true_and, and_assoc]
      exact and_rotate
    | _ => simp [eqv, mark, null]
  | _ =>
    cases b <;>
      simp [eqv, mark, constants, parts, Query.eqvBy, eqvList_eq, hbranches, and_assoc]

/-- The comparison is symmetric and transitive at a tree as it is at the subtrees. -/
theorem isPartialEq : IsPartialEq eqv := by
  intro e
  induction e using parts_induction with
  | step e ih =>
    have hconstants := Literal.isPartialEq.eqvBy e.constants
    have hparts : EqualAt (Query.eqvBy eqv) e.parts := .eqvBy ih
    constructor
    · intro b hab
      rw [eqv_iff] at hab ⊢
      exact ⟨hab.1.symm, hconstants.symm _ hab.2.1, hparts.symm _ hab.2.2⟩
    · intro b c hab hbc
      rw [eqv_iff] at hab hbc ⊢
      exact ⟨hab.1.trans hbc.1, hconstants.trans _ _ hab.2.1 hbc.2.1,
        hparts.trans _ _ hab.2.2 hbc.2.2⟩

theorem isPartialEq_option : IsPartialEq eqvOption := by
  have heq : eqvOption = fun a b => Query.eqvBy eqv a.toList b.toList := by
    funext a b
    cases a <;> cases b <;> simp [eqvOption, Query.eqvBy]
  rw [heq]
  intro a
  have h := isPartialEq.eqvBy a.toList
  exact ⟨fun b => h.symm b.toList, fun b c => h.trans b.toList c.toList⟩

end Expr

theorem OrderTerm.isPartialEq : IsPartialEq OrderTerm.eqv :=
  fun t => (Expr.isPartialEq t.expr).both (isPartialEq_beq t.descending)

theorem Field.isPartialEq : IsPartialEq Field.eqv :=
  fun f => (isPartialEq_beq f.name).both (Expr.isPartialEq_option f.expr)

/-! ### The same up to numerical equality -/

/-- Two items are equal by a comparison, or the very same. -/
def Same {α : Type} (eq : α → α → Bool) (a b : α) : Prop := a = b ∨ eq a b = true

namespace Same

variable {α : Type} {eq : α → α → Bool} {a b c : α}

theorem refl (eq : α → α → Bool) (a : α) : Same eq a a := .inl rfl

theorem symm (h : IsPartialEq eq) (hab : Same eq a b) : Same eq b a := by
  rcases hab with rfl | hab
  · exact .inl rfl
  · exact .inr ((h a).symm b hab)

theorem trans (h : IsPartialEq eq) (hab : Same eq a b) (hbc : Same eq b c) : Same eq a c := by
  rcases hab with rfl | hab
  · exact hbc
  · rcases hbc with rfl | hbc
    · exact .inr hab
    · exact .inr ((h a).trans b c hab hbc)

end Same

section Pointwise

variable {α : Type} {R : α → α → Prop} {xs ys zs : List α}

theorem forall₂_symm (h : List.Forall₂ R xs ys) (hR : ∀ x ∈ xs, ∀ y, R x y → R y x) :
    List.Forall₂ R ys xs := by
  induction h with
  | nil => exact .nil
  | cons hxy _ ih =>
    rw [List.forall_mem_cons] at hR
    exact .cons (hR.1 _ hxy) (ih hR.2)

theorem forall₂_trans (h : List.Forall₂ R xs ys) (h' : List.Forall₂ R ys zs)
    (hR : ∀ x ∈ xs, ∀ y z, R x y → R y z → R x z) : List.Forall₂ R xs zs := by
  induction h generalizing zs with
  | nil => exact h'
  | cons hxy _ ih =>
    rw [List.forall_mem_cons] at hR
    cases h' with
    | cons hyz hrest => exact .cons (hR.1 _ _ hxy hyz) (ih hrest hR.2)

theorem forall₂_of_eqvBy {eq : α → α → Bool} (h : Query.eqvBy eq xs ys = true)
    (hR : ∀ x ∈ xs, ∀ y, eq x y = true → R x y) : List.Forall₂ R xs ys := by
  induction xs generalizing ys with
  | nil =>
    cases ys with
    | nil => exact .nil
    | cons y ys => cases h
  | cons x xs ih =>
    cases ys with
    | nil => cases h
    | cons y ys =>
      rw [List.forall_mem_cons] at hR
      rw [Query.eqvBy, Bool.and_eq_true] at h
      exact .cons (hR.1 y h.1) (ih h.2 hR.2)

end Pointwise

namespace Expr

/-- Two trees are the same up to numerical equality of constants, each of which is the same as
itself. -/
inductive Alike : Expr → Expr → Prop where
  | mk {a b : Expr} : a.mark = b.mark → List.Forall₂ (Same Literal.eqv) a.constants b.constants →
      List.Forall₂ Alike a.parts b.parts → Alike a b

namespace Alike

variable {a b c d : Expr}

theorem refl (e : Expr) : e.Alike e := by
  induction e using parts_induction with
  | step e ih =>
    exact .mk rfl (List.forall₂_same.2 fun l _ => .refl _ l) (List.forall₂_same.2 ih)

theorem symm (h : a.Alike b) : b.Alike a := by
  induction a using parts_induction generalizing b with
  | step a ih =>
    cases h with
    | mk hmark hconstants hparts =>
      exact .mk hmark.symm (forall₂_symm hconstants fun _ _ _ hs => hs.symm Literal.isPartialEq)
        (forall₂_symm hparts fun x hx _ hxy => ih x hx hxy)

theorem trans (hab : a.Alike b) (hbc : b.Alike c) : a.Alike c := by
  induction a using parts_induction generalizing b c with
  | step a ih =>
    cases hab with
    | mk hmark hconstants hparts =>
      cases hbc with
      | mk hmark' hconstants' hparts' =>
        exact .mk (hmark.trans hmark')
          (forall₂_trans hconstants hconstants' fun _ _ _ _ hs hs' =>
            hs.trans Literal.isPartialEq hs')
          (forall₂_trans hparts hparts' fun x hx _ _ hxy hyz => ih x hx hxy hyz)

/-- Trees that are equal are the same. -/
theorem of_eqv (h : a.eqv b = true) : a.Alike b := by
  induction a using parts_induction generalizing b with
  | step a ih =>
    obtain ⟨hmark, hconstants, hparts⟩ := (eqv_iff a b).1 h
    exact .mk hmark (forall₂_of_eqvBy hconstants fun _ _ _ hl => .inr hl)
      (forall₂_of_eqvBy hparts fun x hx _ hxy => ih x hx hxy)

theorem and (hac : a.Alike c) (hbd : b.Alike d) : (a.and b).Alike (c.and d) :=
  .mk rfl .nil (.cons hac (.cons hbd .nil))

/-- What is the same as a conjunction is one, of conditions that are the same. -/
theorem of_and {e : Expr} (h : (a.and b).Alike e) :
    ∃ c d, e = c.and d ∧ a.Alike c ∧ b.Alike d := by
  cases h with
  | mk hmark _ hparts =>
    cases e with
    | logical op args =>
      obtain rfl : LogicalOp.and = op := by injection hmark
      cases hparts with
      | cons hac hrest =>
        cases hrest with
        | cons hbd hnil =>
          cases hnil
          exact ⟨_, _, rfl, hac, hbd⟩
    | _ => cases hmark

/-- No condition is the same as its conjunction with another. -/
theorem not_and_left (e other : Expr) : ¬ (e.and other).Alike e := by
  induction e using parts_induction generalizing other with
  | step e ih =>
    intro h
    obtain ⟨c, d, rfl, hc, -⟩ := h.of_and
    exact ih c List.mem_cons_self d hc

theorem not_and_right (e other : Expr) : ¬ (other.and e).Alike e := by
  induction e using parts_induction generalizing other with
  | step e ih =>
    intro h
    obtain ⟨c, d, rfl, -, hd⟩ := h.of_and
    exact ih d (List.mem_cons_of_mem c List.mem_cons_self) c hd

end Alike

end Expr

end Polyquery
