import Polyquery.Proofs.Query.Calls

/-!
# The meaning of a filter that is built by calls

The builder folds every condition into one tree as it comes.  Here the calls are only written down,
as terms and connectives in their order, and the tree is shown to hold exactly when they do.

* `Expr.holds` - the truth of a filter, given that of its terms;
* `Chain` - items joined strictly from left to right, each by a connective of its own;
* `Account` - what calls have asked for: chains of terms set aside, a current chain, an operand;
* `foldFilter_holds` - folding a condition into a filter means joining it;
* `effectiveFilter_holds` - the effective filter holds exactly when what was asked for does.
-/

namespace Polyquery

/-! ### Truth -/

namespace Expr

mutual

/-- The truth of a filter: a connective asks all or any of its operands, and every other filter is
as true as it is said to be. -/
def holds (truth : Expr → Bool) : Expr → Bool
  | .logical .and args => allHold truth args
  | .logical .or args => anyHolds truth args
  | e => truth e

/-- Whether all filters hold. -/
def allHold (truth : Expr → Bool) : List Expr → Bool
  | [] => true
  | e :: rest => holds truth e && allHold truth rest

/-- Whether any filter holds. -/
def anyHolds (truth : Expr → Bool) : List Expr → Bool
  | [] => false
  | e :: rest => holds truth e || anyHolds truth rest

end

theorem allHold_append (truth : Expr → Bool) (args more : List Expr) :
    allHold truth (args ++ more) = (allHold truth args && allHold truth more) := by
  induction args with
  | nil => rfl
  | cons e rest ih => rw [List.cons_append, allHold, allHold, ih, Bool.and_assoc]

theorem anyHolds_append (truth : Expr → Bool) (args more : List Expr) :
    anyHolds truth (args ++ more) = (anyHolds truth args || anyHolds truth more) := by
  induction args with
  | nil => rfl
  | cons e rest ih => rw [List.cons_append, anyHolds, anyHolds, ih, Bool.or_assoc]

end Expr

/-- Both, or either. -/
def LogicalOp.joined : LogicalOp → Bool → Bool → Bool
  | .and, a, b => a && b
  | .or, a, b => a || b

/-- A further truth value joined to what there is so far. -/
def LogicalOp.joinedTo (op : LogicalOp) : Option Bool → Bool → Bool
  | none, b => b
  | some a, b => op.joined a b

namespace Expr

variable (truth : Expr → Bool)

/-- A connective of two filters. -/
theorem holds_logical_pair (op : LogicalOp) (left right : Expr) :
    holds truth (.logical op [left, right]) = op.joined (holds truth left) (holds truth right) := by
  cases op with
  | and => rw [holds, allHold, allHold, allHold, Bool.and_true, LogicalOp.joined]
  | or => rw [holds, anyHolds, anyHolds, anyHolds, Bool.or_false, LogicalOp.joined]

/-- One more operand of a connective. -/
theorem holds_logical_append (op : LogicalOp) (args : List Expr) (e : Expr) :
    holds truth (.logical op (args ++ [e]))
      = op.joined (holds truth (.logical op args)) (holds truth e) := by
  cases op with
  | and => rw [holds, allHold_append, allHold, allHold, Bool.and_true, holds, LogicalOp.joined]
  | or => rw [holds, anyHolds_append, anyHolds, anyHolds, Bool.or_false, holds, LogicalOp.joined]

end Expr

/-! ### What calls ask for -/

/-- Items joined strictly from left to right, each by a connective of its own. -/
inductive Chain (α : Type) where
  | first (item : α)
  | link (before : Chain α) (op : LogicalOp) (item : α)

namespace Chain

variable {α : Type}

/-- A chain with one more item, or a new one; its first item needs no connective. -/
def extended (before : Option (Chain α)) (op : LogicalOp) (item : α) : Chain α :=
  match before with
  | none => .first item
  | some before => .link before op item

/-- The truth of a chain, given that of its items. -/
def holds (truth : α → Bool) : Chain α → Bool
  | .first item => truth item
  | .link before op item => op.joined (before.holds truth) (truth item)

theorem holds_extended (truth : α → Bool) (before : Option (Chain α)) (op : LogicalOp) (item : α) :
    (extended before op item).holds truth
      = op.joinedTo (before.map (holds truth)) (truth item) := by
  cases before with
  | none => rfl
  | some before => rfl

end Chain

/-- What calls have asked for. -/
structure Account where
  /-- The chains of terms that have been set aside, each with the connective it was set aside by. -/
  aside : Option (Chain (Chain Expr))
  /-- The terms of the filter, each with the connective set just before it. -/
  chain : Option (Chain Expr)
  /-- The operand that waits for its condition, and the connective set with it. -/
  operand : Option (LogicalOp × Expr)

namespace Account

/-- Nothing has been asked for. -/
def nothing : Account := ⟨none, none, none⟩

/-- The waiting operand becomes a term. -/
def term (a : Account) (condition : Expr → Expr) : Account :=
  match a.operand with
  | none => a
  | some (op, left) =>
    { a with chain := some (.extended a.chain op (condition left)), operand := none }

/-- The waiting operand is changed. -/
def wrapped (a : Account) (wrap : Expr → Expr) : Account :=
  { a with operand := a.operand.map fun o => (o.1, wrap o.2) }

/-- The chain of terms is set aside, if there is one. -/
def setAside (a : Account) (op : LogicalOp) : Account :=
  match a.chain with
  | none => ⟨a.aside, none, none⟩
  | some chain => ⟨some (.extended a.aside op chain), none, none⟩

/-- The account after one more call. -/
def after (a : Account) : FilterCall → Account
  | .whereField field => ⟨a.aside, none, some (.and, field.value)⟩
  | .whereExpr filter => ⟨a.aside, some (.first filter), none⟩
  | .andAlso field => { a with operand := some (.and, field.value) }
  | .orElse field => { a with operand := some (.or, field.value) }
  | .callPending func extra => a.wrapped fun left => .call func (left :: extra)
  | .arithmeticPending op operand => a.wrapped fun left => .arithmetic op left operand
  | .compare op value => a.term fun left => .compare op left value
  | .isNull => a.term fun left => .compare .eq left Expr.null
  | .between low high => a.term fun left => Expr.between left low high
  | .test pattern => a.term fun left => Expr.textMatch left pattern
  | .prepare either => a.setAside (if either then .or else .and)

/-- What some calls ask for. -/
def ofCalls (calls : List FilterCall) : Account := calls.foldl after nothing

variable (truth : Expr → Bool)

/-- The truth of the chains set aside, if there are any. -/
def asideHolds (a : Account) : Option Bool :=
  a.aside.map (Chain.holds (Chain.holds (Expr.holds truth)))

/-- The truth of the current chain, if there is one. -/
def chainHolds (a : Account) : Option Bool := a.chain.map (Chain.holds (Expr.holds truth))

/-- The truth of all that was asked for: what is there must hold, what is not asks for nothing. -/
def holds (a : Account) : Option Bool :=
  match a.asideHolds truth, a.chainHolds truth with
  | some aside, some chain => some (aside && chain)
  | some only, none | none, some only => some only
  | none, none => none

theorem holds_eq_none_iff (a : Account) : a.holds truth = none ↔ a.aside = none ∧ a.chain = none := by
  unfold holds asideHolds chainHolds
  cases a.aside <;> cases a.chain <;> simp

end Account

namespace Query

/-! ### Folding -/

/-- Folding a condition into a filter joins it by the connective, which a first one does not need. -/
theorem foldFilter_holds (truth : Expr → Bool) {filter : Option Expr}
    {connective : Option LogicalOp} {op : LogicalOp} (h : filter ≠ none → connective = some op)
    (condition : Expr) :
    (foldFilter filter connective condition).holds truth
      = op.joinedTo (filter.map (Expr.holds truth)) (condition.holds truth) := by
  cases filter with
  | none => rfl
  | some existing =>
    rw [h (Option.some_ne_none existing)]
    show _ = op.joined (existing.holds truth) (condition.holds truth)
    unfold foldFilter
    split
    · contradiction
    · rename_i top args connective hfilter hconnective
      cases hfilter
      cases hconnective
      by_cases htop : top = op
      · rw [if_pos htop, htop]
        exact Expr.holds_logical_append truth op args condition
      · rw [if_neg htop]
        exact Expr.holds_logical_pair truth op _ condition
    · rename_i existing' connective _ hfilter hconnective
      cases hfilter
      exact Expr.holds_logical_pair truth op _ condition

/-- Nothing is set aside where there is no filter. -/
theorem prepare_of_none {q : Query} (h : q.filter = none) (either : Bool) :
    (q.prepare either).prepared = q.prepared := by
  unfold prepare
  rw [h]

/-- A filter that is set aside is joined to what was set aside before. -/
theorem prepare_holds (truth : Expr → Bool) {q : Query} {filter : Expr} (h : q.filter = some filter)
    (either : Bool) :
    (q.prepare either).prepared.map (Expr.holds truth)
      = some ((if either then LogicalOp.or else .and).joinedTo (q.prepared.map (Expr.holds truth))
          (filter.holds truth)) := by
  unfold prepare
  rw [h]
  cases q.prepared with
  | none => rfl
  | some before => exact congrArg some (Expr.holds_logical_pair truth _ before filter)

end Query

namespace Account

/-! ### Accounts and queries -/

/-- An account describes a query: what was set aside and what is current hold alike, and the same
operand waits, with its connective if there is something to continue. -/
structure Describes (a : Account) (q : Query) : Prop where
  aside : ∀ truth, q.prepared.map (Expr.holds truth) = a.asideHolds truth
  chain : ∀ truth, q.filter.map (Expr.holds truth) = a.chainHolds truth
  operand : q.pending = a.operand.map Prod.snd
  connective : ∀ o ∈ a.operand, q.filter ≠ none → q.connective = some o.1

theorem describes_nothing : nothing.Describes Query.empty := by
  constructor
  · intro truth
    rfl
  · intro truth
    rfl
  · rfl
  · intro o ho
    cases ho

namespace Describes

variable {a : Account} {q : Query} (h : a.Describes q)

include h

/-- A chain goes on with the connective that is set. -/
theorem continueWith (op : LogicalOp) (field : Field) :
    Describes { a with operand := some (op, field.value) } (q.continueWith op field) := by
  refine ⟨h.aside, h.chain, rfl, ?_⟩
  intro o ho _
  cases ho
  rfl

/-- A completed condition is one more term of the chain. -/
theorem complete (condition : Expr → Expr) :
    (a.term condition).Describes (q.settled (q.complete condition)) := by
  unfold Query.complete term
  rw [h.operand]
  cases ho : a.operand with
  | none => exact h
  | some o =>
    refine ⟨h.aside, ?_, rfl, fun o' ho' => nomatch ho'⟩
    intro truth
    have hfold := Query.foldFilter_holds truth (h.connective o ho) (condition o.2)
    rw [h.chain truth] at hfold
    calc some ((Query.foldFilter q.filter q.connective (condition o.2)).holds truth)
        = some (o.1.joinedTo (a.chainHolds truth) ((condition o.2).holds truth)) :=
          congrArg some hfold
      _ = some ((Chain.extended a.chain o.1 (condition o.2)).holds (Expr.holds truth)) :=
          congrArg some (Chain.holds_extended _ _ _ _).symm

/-- A changed operand waits in the place of the one before. -/
theorem wrapPending (wrap : Expr → Expr) :
    (a.wrapped wrap).Describes (q.settled (q.wrapPending wrap)) := by
  unfold Query.wrapPending
  cases ho : a.operand with
  | none =>
    have hnone : q.pending = none := by rw [h.operand, ho, Option.map_none]
    rw [hnone]
    refine ⟨h.aside, h.chain, ?_, ?_⟩
    · rw [wrapped, ho]
      exact hnone
    · intro o' ho'
      rw [wrapped, ho] at ho'
      cases ho'
  | some o =>
    have hsome : q.pending = some o.2 := by rw [h.operand, ho, Option.map_some]
    rw [hsome]
    refine ⟨h.aside, h.chain, ?_, ?_⟩
    · rw [wrapped, ho]
      rfl
    · intro o' ho'
      rw [wrapped, ho] at ho'
      cases ho'
      exact h.connective o ho

/-- A chain that is set aside is joined to those before by the connective of the call. -/
theorem prepare (either : Bool) :
    (a.setAside (if either then .or else .and)).Describes (q.prepare either) := by
  unfold setAside
  cases hc : a.chain with
  | none =>
    have hnone : q.filter = none := by
      have hchain := h.chain fun _ => true
      rw [chainHolds, hc] at hchain
      exact Option.map_eq_none_iff.1 hchain
    refine ⟨?_, fun truth => rfl, rfl, fun o ho => nomatch ho⟩
    intro truth
    rw [Query.prepare_of_none hnone]
    exact h.aside truth
  | some chain =>
    refine ⟨?_, fun truth => rfl, rfl, fun o ho => nomatch ho⟩
    intro truth
    have hchain := h.chain truth
    rw [chainHolds, hc, Option.map_some] at hchain
    obtain ⟨filter, hfilter, hholds⟩ := Option.map_eq_some_iff.1 hchain
    rw [Query.prepare_holds truth hfilter, h.aside truth, hholds]
    exact congrArg some (Chain.holds_extended _ _ _ _).symm

/-- The account of one more call describes the query after it. -/
theorem call (c : FilterCall) : (a.after c).Describes (q.settled (c.perform q)) := by
  cases c with
  | whereField field =>
    exact ⟨h.aside, fun truth => rfl, rfl, fun o _ hf => absurd rfl hf⟩
  | whereExpr filter =>
    exact ⟨h.aside, fun truth => rfl, rfl, fun o ho => nomatch ho⟩
  | andAlso field => exact h.continueWith .and field
  | orElse field => exact h.continueWith .or field
  | callPending func extra => exact h.wrapPending fun left => .call func (left :: extra)
  | arithmeticPending op operand => exact h.wrapPending fun left => .arithmetic op left operand
  | compare op value => exact h.complete _
  | isNull => exact h.complete _
  | between low high => exact h.complete _
  | test pattern => exact h.complete _
  | prepare either => exact h.prepare either

/-- The account of further calls describes the query after them. -/
theorem calls (cs : List FilterCall) :
    (cs.foldl after a).Describes (q.run (cs.map .filtering)) := by
  induction cs generalizing a q with
  | nil => exact h
  | cons c rest ih => exact ih (h.call c)

/-- The effective filter holds exactly when what was asked for does. -/
theorem effectiveFilter (truth : Expr → Bool) :
    q.effectiveFilter.map (Expr.holds truth) = a.holds truth := by
  unfold Query.effectiveFilter holds
  rw [← h.aside truth, ← h.chain truth]
  cases q.prepared with
  | none => cases q.filter <;> rfl
  | some prepared =>
    cases q.filter with
    | none => rfl
    | some filter => exact congrArg some (Expr.holds_logical_pair truth .and prepared filter)

end Describes

end Account

/-- The effective filter after any calls, whatever the terms are worth: what was set aside, joined
from left to right, and the current chain, joined from left to right.  There is none exactly when
nothing was set aside and there is no chain. -/
theorem effectiveFilter_holds (calls : List FilterCall) :
    (∀ truth, (Query.empty.run (calls.map .filtering)).effectiveFilter.map (Expr.holds truth)
      = (Account.ofCalls calls).holds truth) ∧
    ((Query.empty.run (calls.map .filtering)).effectiveFilter = none
      ↔ (Account.ofCalls calls).aside = none ∧ (Account.ofCalls calls).chain = none) := by
  have hdescribes := Account.describes_nothing.calls calls
  refine ⟨hdescribes.effectiveFilter, ?_⟩
  rw [← (Account.ofCalls calls).holds_eq_none_iff fun _ => true, Account.ofCalls,
    ← hdescribes.effectiveFilter, Option.map_eq_none_iff]

/-- A chain of two terms that is set aside, and a filter behind it. -/
example : Account.ofCalls [.whereField (.named "a"), .compare .eq (.int 1), .orElse (.named "b"),
      .isNull, .prepare false, .whereExpr (.field "c")]
    = ⟨some (.first (.link (.first (.compare .eq (.field "a") (.int 1))) .or
        (.compare .eq (.field "b") .null))), some (.first (.field "c")), none⟩ := rfl

end Polyquery
