import Polyquery.Closure.Meaning
import Polyquery.Proofs.Sql.Vetted
import Polyquery.Proofs.Unresolved
import Mathlib.Data.List.Forall2

/-!
# The fields that closures are translated to

The fields of a translated term are the member paths in the term, and no others: what a closure asks
of its parameters is neither lost nor added to.

* `Expr.HasField`, `Expr.Gathers` - the fields of a tree, from those of some others;
* `Term.operands`, `Term.Uses` - the terms that a term is made of, and the member paths in it;
* `toExpr_operands` - a term is translated from its operands, and gathers their fields, one lemma for
  each form that has an argument of its own;
* `toExpr_fields_iff`, `memberField_of_uses` - the fields of a translation, by induction on the term.
-/

namespace Polyquery

/-! ### Fields of a tree -/

namespace Expr

/-- A path is a field of the tree. -/
def HasField (e : Expr) (path : String) : Prop := Within (.field path) e

/-- The fields of a tree are those of some others. -/
def Gathers (parts : List Expr) (whole : Expr) : Prop :=
  ∀ path, whole.HasField path ↔ ∃ part ∈ parts, part.HasField path

theorem hasField_field {path path' : String} : (Expr.field path').HasField path ↔ path = path' := by
  constructor
  · intro h
    cases h with
    | self => rfl
    | inside hsub _ => exact absurd hsub List.not_mem_nil
  · rintro rfl
    exact .self

/-- A node that is no field has the fields of its subtrees. -/
theorem gathers_subtrees {whole : Expr} (hnode : whole.field? = none) :
    Gathers whole.subtrees whole := by
  intro path
  constructor
  · intro h
    cases h with
    | self => cases hnode
    | inside hsub hwithin => exact ⟨_, hsub, hwithin⟩
  · rintro ⟨sub, hsub, hwithin⟩
    exact .inside hsub hwithin

theorem not_hasField_literal (value : Literal) (path : String) :
    ¬ (Expr.literal value).HasField path := by
  rw [gathers_subtrees rfl path]
  rintro ⟨sub, hsub, -⟩
  exact absurd hsub List.not_mem_nil

/-- Folded operands have the fields of all operands. -/
theorem gathers_foldLogical? {op : LogicalOp} {args : List Expr} {e : Expr}
    (he : foldLogical? op args = some e) : Gathers args e := by
  induction args generalizing e with
  | nil => cases he
  | cons a rest ih =>
    intro path
    cases rest with
    | nil =>
      cases he
      simp
    | cons b rest =>
      rw [foldLogical?] at he
      · obtain ⟨chain, hchain, rfl⟩ := Option.map_eq_some_iff.1 he
        rw [gathers_subtrees rfl path]
        simp [subtrees, ih hchain path]
      · exact List.cons_ne_nil b rest

end Expr

namespace Closure

open Polyquery.Expr (Gathers gathers_subtrees gathers_foldLogical? hasField_field
  not_hasField_literal)

/-! ### Member paths in a term -/

/-- The terms that a term is made of; the receiver of a method is one, a member path has none. -/
def Term.operands : Term → List Term
  | .compare left links => left :: links.map Prod.snd
  | .logical _ values => values
  | .arithmetic _ left right => [left, right]
  | .not operand | .minus operand => [operand]
  | .call (.attribute value _) args _ => value :: args
  | .call _ args _ => args
  | .slice value _ _ _ => [value]
  | .choice test yes no => [test, yes, no]
  | _ => []

/-- A member path below a parameter stands in a term. -/
inductive Term.Uses (name : String) (attrs : List String) : Term → Prop where
  | member {value : Term} {attr : String} :
      (Term.attribute value attr).path? = some (name, attrs) →
      Uses name attrs (.attribute value attr)
  | inside {sub whole : Term} : sub ∈ whole.operands → Uses name attrs sub → Uses name attrs whole

theorem Term.sizeOf_operand {sub whole : Term} (h : sub ∈ whole.operands) :
    sizeOf sub < sizeOf whole := by
  unfold operands at h
  split at h
  · rename_i left links
    rcases List.mem_cons.1 h with rfl | hlink
    · simp only [compare.sizeOf_spec]; omega
    · obtain ⟨⟨comparator, t⟩, hmem, rfl⟩ := List.mem_map.1 hlink
      have hlt := List.sizeOf_lt_of_mem hmem
      simp only [compare.sizeOf_spec, Prod.mk.sizeOf_spec] at hlt ⊢
      omega
  · have hlt := List.sizeOf_lt_of_mem h
    simp only [logical.sizeOf_spec]
    omega
  · simp only [List.mem_cons, List.not_mem_nil, or_false] at h
    rcases h with rfl | rfl <;> simp only [arithmetic.sizeOf_spec] <;> omega
  · rw [List.mem_singleton.1 h]
    simp only [not.sizeOf_spec]
    omega
  · rw [List.mem_singleton.1 h]
    simp only [minus.sizeOf_spec]
    omega
  · rcases List.mem_cons.1 h with rfl | harg
    · simp only [call.sizeOf_spec, attribute.sizeOf_spec]
      omega
    · have hlt := List.sizeOf_lt_of_mem harg
      simp only [call.sizeOf_spec]
      omega
  · have hlt := List.sizeOf_lt_of_mem h
    simp only [call.sizeOf_spec]
    omega
  · rw [List.mem_singleton.1 h]
    simp only [slice.sizeOf_spec]
    omega
  · simp only [List.mem_cons, List.not_mem_nil, or_false] at h
    rcases h with rfl | rfl | rfl <;> simp only [choice.sizeOf_spec] <;> omega
  · exact absurd h List.not_mem_nil

/-- Induction over a term, with the terms that it is made of. -/
theorem Term.induction {P : Term → Prop} (step : ∀ t, (∀ sub ∈ t.operands, P sub) → P t)
    (t : Term) : P t :=
  (measure (sizeOf : Term → Nat)).wf.induction t fun t ih =>
    step t fun sub hsub => ih sub (sizeOf_operand hsub)

/-! ### Calls -/

theorem claimCall_gathers {e claimed : MethodEvent} {func : Func} {least most : Nat} {r : Expr}
    (h : e.claimCall func least most = .ok claimed) (hr : claimed.resolved = some r) :
    Gathers e.args r := by
  obtain ⟨_, -, rfl⟩ := map_eq_ok.1 h
  cases hr
  exact gathers_subtrees rfl

/-- A test of a text has the fields of the text; what it is tested against is a constant. -/
theorem claimTextTest_gathers {e claimed : MethodEvent} {shape : String → TextPattern} {r : Expr}
    (h : claimTextTest e shape = .ok claimed) (hr : claimed.resolved = some r) :
    Gathers e.args r := by
  obtain ⟨_, -, h⟩ := bind_eq_ok.1 h
  split at h
  · rename_i input text hargs
    cases h
    cases hr
    intro path
    rw [hargs, gathers_subtrees rfl path]
    simp [Expr.textMatch, Expr.subtrees, not_hasField_literal]
  · cases h

/-- What closures may call without a listener has the fields of the arguments. -/
theorem methods_gathers {e claimed : MethodEvent} (hnew : e.resolved = none) {r : Expr}
    (h : methods e = .ok claimed) (hr : claimed.resolved = some r) : Gathers e.args r := by
  have hclaimed : ∀ {P : Prop}, Except.ok e = (.ok claimed : QueryResult MethodEvent) → P := by
    intro P heq
    rw [← Except.ok.inj heq, hnew] at hr
    cases hr
  unfold methods claimMethod claimFunction at h
  split at h
  · split at h
    · exact claimTextTest_gathers h hr
    · exact claimCall_gathers h hr
    · exact claimCall_gathers h hr
    · exact hclaimed h
  · split at h
    · exact claimCall_gathers h hr
    · exact claimCall_gathers h hr
    · exact hclaimed h

theorem resolveMethod_gathers {name : String} {args : List Expr} {onInstance : Bool} {r : Expr}
    (h : Resolvers.empty.resolveMethod methods ⟨name, args, onInstance, none⟩ = .ok r) :
    Gathers args r := by
  obtain ⟨claimed, hclaimed, hresolved⟩ := Resolvers.resolveMethod_empty_claimed h
  exact methods_gathers rfl hclaimed hresolved

/-! ### Links and signs -/

/-- A link has the fields of both sides, also where it swaps them. -/
theorem linkExpr_gathers (chained : Bool) (op : ComparisonOp) (left right : Expr) :
    Gathers [left, right] (linkExpr chained op left right) := by
  intro path
  unfold linkExpr
  split
  · rw [gathers_subtrees rfl path]
    rfl
  · split
    · rw [gathers_subtrees rfl path]
      simp [Expr.subtrees, or_comm]
    · rw [gathers_subtrees rfl path]
      rfl
  · rw [gathers_subtrees rfl path]
    rfl

theorem negative_gathers {x e : Expr} (h : negative x = .ok e) : Gathers [x] e := by
  intro path
  unfold negative at h
  split at h
  · obtain ⟨value, -, rfl⟩ := map_eq_ok.1 h
    simp [not_hasField_literal]
  · cases h
    rw [gathers_subtrees rfl path]
    simp [Expr.subtrees, Expr.int, not_hasField_literal]

/-! ### Terms -/

/-- Terms are translated to trees, one by one. -/
abbrev Translated (s : Scope) : List Term → List Expr → Prop :=
  List.Forall₂ fun t e => t.toExpr s = .ok e

/-- What a relation of two lists says of a member of the first. -/
theorem exists_of_forall₂ {α β : Type} {R : α → β → Prop} {as : List α} {bs : List β}
    (h : List.Forall₂ R as bs) {a : α} (ha : a ∈ as) : ∃ b ∈ bs, R a b := by
  induction h with
  | nil => exact absurd ha List.not_mem_nil
  | @cons a' b _ _ hab _ ih =>
    rcases List.mem_cons.1 ha with rfl | ha
    · exact ⟨b, List.mem_cons_self, hab⟩
    · obtain ⟨b', hb', hR⟩ := ih ha
      exact ⟨b', List.mem_cons_of_mem b hb', hR⟩

section Terms

variable {s : Scope}

theorem toExprs_translate {ts : List Term} {es : List Expr} (h : toExprs s ts = .ok es) :
    Translated s ts es := by
  induction ts generalizing es with
  | nil =>
    cases h
    exact .nil
  | cons t rest ih =>
    rw [toExprs] at h
    obtain ⟨e, he, h⟩ := bind_eq_ok.1 h
    obtain ⟨others, hothers, h⟩ := bind_eq_ok.1 h
    cases h
    exact .cons he (ih hothers)

/-- The links behind a left operand, taken with it, have the fields of all operands.  The left one
stands in the first link, so if there is one the links have its fields by themselves. -/
theorem linkExprs_gathers {chained : Bool} {left : Expr} {links : List (Comparator × Term)}
    {tests : List Expr} (h : linkExprs s chained left links = .ok tests) :
    ∃ rights, Translated s (links.map Prod.snd) rights ∧ ∀ path,
      (left.HasField path ∨ (∃ test ∈ tests, test.HasField path) ↔
        left.HasField path ∨ ∃ right ∈ rights, right.HasField path) ∧
      (tests ≠ [] → left.HasField path → ∃ test ∈ tests, test.HasField path) := by
  induction links generalizing left tests with
  | nil =>
    cases h
    exact ⟨[], .nil, fun path => ⟨Iff.rfl, fun hne => absurd rfl hne⟩⟩
  | cons link rest ih =>
    rw [linkExprs] at h
    obtain ⟨right, hright, h⟩ := bind_eq_ok.1 h
    obtain ⟨others, hothers, h⟩ := bind_eq_ok.1 h
    cases h
    obtain ⟨rights, hrights, hfields⟩ := ih hothers
    refine ⟨right :: rights, .cons hright hrights, fun path => ?_⟩
    have hlink := linkExpr_gathers chained link.1.op left right path
    have hrest := (hfields path).1
    simp only [List.mem_cons, List.not_mem_nil, or_false, exists_eq_or_imp, exists_eq_left] at hlink
    simp only [List.mem_cons, exists_eq_or_imp, hlink, ← hrest]
    exact ⟨by tauto, fun _ hleft => .inl (.inl hleft)⟩

theorem compare_operands {left : Term} {links : List (Comparator × Term)} {e : Expr}
    (h : (Term.compare left links).toExpr s = .ok e) :
    ∃ xs, Translated s (Term.compare left links).operands xs ∧ Gathers xs e := by
  rw [Term.toExpr] at h
  obtain ⟨first, hfirst, h⟩ := bind_eq_ok.1 h
  obtain ⟨tests, htests, h⟩ := bind_eq_ok.1 h
  split at h
  · rename_i folded hfold
    cases h
    obtain ⟨rights, hrights, hfields⟩ := linkExprs_gathers htests
    have hne : tests ≠ [] := by
      rintro rfl
      cases hfold
    refine ⟨first :: rights, .cons hfirst hrights, fun path => ?_⟩
    obtain ⟨hboth, hleft⟩ := hfields path
    rw [gathers_foldLogical? hfold path, List.exists_mem_cons_iff, ← hboth]
    exact ⟨.inr, fun hfield => hfield.elim (hleft hne) id⟩
  · cases h

theorem call_operands (hresolvers : s.resolvers = .empty) {target : Term} {args : List Term}
    {keywords : List (String × Term)} {e : Expr}
    (h : (Term.call target args keywords).toExpr s = .ok e) :
    ∃ xs, Translated s (Term.call target args keywords).operands xs ∧ Gathers xs e := by
  cases target with
  | free name =>
    rw [Term.toExpr] at h
    split at h
    · obtain ⟨es, hes, h⟩ := bind_eq_ok.1 h
      rw [hresolvers] at h
      exact ⟨es, toExprs_translate hes, resolveMethod_gathers h⟩
    · cases h
  | «attribute» value attr =>
    rw [Term.toExpr] at h
    split at h
    · obtain ⟨es, hes, h⟩ := bind_eq_ok.1 h
      obtain ⟨receiver, hreceiver, h⟩ := bind_eq_ok.1 h
      rw [hresolvers] at h
      exact ⟨receiver :: es, .cons hreceiver (toExprs_translate hes), resolveMethod_gathers h⟩
    · cases h
  | _ =>
    -- nothing else can be called, whatever the arguments are
    rw [Term.toExpr] at h
    · split at h
      · obtain ⟨_, -, h⟩ := bind_eq_ok.1 h
        cases h
      · cases h
    · intro name htarget
      cases htarget
    · intro value attr htarget
      cases htarget

theorem slice_operands {value : Term} {lower upper step : Option Term} {e : Expr}
    (h : (Term.slice value lower upper step).toExpr s = .ok e) :
    ∃ xs, Translated s (Term.slice value lower upper step).operands xs ∧ Gathers xs e := by
  cases step with
  | some step =>
    rw [Term.toExpr] at h
    cases h
  | none =>
    rw [Term.toExpr] at h
    obtain ⟨start, -, h⟩ := bind_eq_ok.1 h
    obtain ⟨x, hx, h⟩ := bind_eq_ok.1 h
    obtain ⟨stop, -, h⟩ := bind_eq_ok.1 h
    cases h
    refine ⟨[x], .cons hx .nil, fun path => ?_⟩
    rw [gathers_subtrees rfl path]
    cases stop <;> simp [Expr.subtrees, Expr.int, not_hasField_literal]

/-- A term is translated from the terms that it is made of, and has their fields and no others,
unless it is a member path itself. -/
theorem toExpr_operands (hresolvers : s.resolvers = .empty) (hnamed : s.named = []) {t : Term}
    (hmember : ∀ value attr, t ≠ .attribute value attr) {e : Expr} (h : t.toExpr s = .ok e) :
    ∃ xs, Translated s t.operands xs ∧ Gathers xs e := by
  cases t with
  | constant value =>
    rw [Term.toExpr] at h
    cases h
    exact ⟨[], .nil, gathers_subtrees rfl⟩
  | free name =>
    have hnone : s.value? name = none := by
      rw [Scope.value?, hnamed]
      rfl
    rw [Term.toExpr, hnone] at h
    cases h
  | «attribute» value attr => exact absurd rfl (hmember value attr)
  | compare left links => exact compare_operands h
  | logical op values =>
    rw [Term.toExpr] at h
    obtain ⟨es, hes, h⟩ := bind_eq_ok.1 h
    split at h
    · rename_i folded hfold
      cases h
      exact ⟨es, toExprs_translate hes, gathers_foldLogical? hfold⟩
    · cases h
  | arithmetic op left right =>
    rw [Term.toExpr] at h
    obtain ⟨x, hx, h⟩ := bind_eq_ok.1 h
    obtain ⟨y, hy, h⟩ := bind_eq_ok.1 h
    cases h
    exact ⟨[x, y], .cons hx (.cons hy .nil), gathers_subtrees rfl⟩
  | not operand =>
    rw [Term.toExpr] at h
    obtain ⟨x, hx, h⟩ := bind_eq_ok.1 h
    cases h
    exact ⟨[x], .cons hx .nil, gathers_subtrees rfl⟩
  | minus operand =>
    rw [Term.toExpr] at h
    obtain ⟨x, hx, h⟩ := bind_eq_ok.1 h
    exact ⟨[x], .cons hx .nil, negative_gathers h⟩
  | call target args keywords => exact call_operands hresolvers h
  | slice value lower upper step => exact slice_operands h
  | choice test yes no =>
    rw [Term.toExpr] at h
    obtain ⟨x, hx, h⟩ := bind_eq_ok.1 h
    obtain ⟨y, hy, h⟩ := bind_eq_ok.1 h
    obtain ⟨z, hz, h⟩ := bind_eq_ok.1 h
    cases h
    exact ⟨[x, y, z], .cons hx (.cons hy (.cons hz .nil)), gathers_subtrees rfl⟩
  | param name | index value position | list items | tuple items | dict entries
  | lambda params body =>
    rw [Term.toExpr] at h
    cases h

/-- A member path makes a field, if it makes anything. -/
theorem memberField_field {name : String} {attrs : List String} {e : Expr}
    (h : s.memberField name attrs = .ok e) : ∃ path, e = .field path := by
  unfold Scope.memberField at h
  split at h
  · cases h
  · dsimp only at h
    split at h
    · exact ⟨_, (Except.ok.inj h).symm⟩
    · exact ⟨_, (Except.ok.inj h).symm⟩

/-- Every member path in a translated term makes a field. -/
theorem memberField_of_uses (hresolvers : s.resolvers = .empty) (hnamed : s.named = []) {t : Term}
    {e : Expr} (h : t.toExpr s = .ok e) {name : String} {attrs : List String}
    (huses : t.Uses name attrs) : ∃ path, s.memberField name attrs = .ok (.field path) := by
  induction huses generalizing e with
  | member hpath =>
    rw [Term.toExpr, hpath] at h
    obtain ⟨path, rfl⟩ := memberField_field h
    exact ⟨path, h⟩
  | @inside sub whole hsub _ ih =>
    have hmember : ∀ value attr, whole ≠ .attribute value attr := by
      rintro value attr rfl
      exact absurd hsub List.not_mem_nil
    obtain ⟨xs, hxs, -⟩ := toExpr_operands hresolvers hnamed hmember h
    obtain ⟨x, -, hx⟩ := exists_of_forall₂ hxs hsub
    exact ih hx

/-- The fields of a translation are those that the member paths in the term make. -/
theorem toExpr_fields_iff (hresolvers : s.resolvers = .empty) (hnamed : s.named = []) {t : Term}
    {e : Expr} (h : t.toExpr s = .ok e) (path : String) :
    e.HasField path ↔
      ∃ name attrs, t.Uses name attrs ∧ s.memberField name attrs = .ok (.field path) := by
  induction t using Term.induction generalizing e with
  | step t ih =>
    by_cases hmember : ∃ value attr, t = .attribute value attr
    · obtain ⟨value, attr, rfl⟩ := hmember
      rw [Term.toExpr] at h
      split at h
      · rename_i name attrs hpath
        obtain ⟨path', rfl⟩ := memberField_field h
        rw [hasField_field]
        constructor
        · rintro rfl
          exact ⟨name, attrs, .member hpath, h⟩
        · rintro ⟨name', attrs', huses, hfield⟩
          cases huses with
          | member hpath' =>
            cases hpath.symm.trans hpath'
            cases h.symm.trans hfield
            rfl
          | inside hsub _ => exact absurd hsub List.not_mem_nil
      · cases h
    · simp only [not_exists] at hmember
      obtain ⟨xs, hxs, hgathers⟩ := toExpr_operands hresolvers hnamed hmember h
      rw [hgathers path]
      constructor
      · rintro ⟨x, hx, hfield⟩
        obtain ⟨sub, hsub, htranslated⟩ := exists_of_forall₂ hxs.flip hx
        obtain ⟨name, attrs, huses, hmade⟩ := (ih sub hsub htranslated).1 hfield
        exact ⟨name, attrs, .inside hsub huses, hmade⟩
      · rintro ⟨name, attrs, huses, hmade⟩
        cases huses with
        | member _ => exact absurd rfl (hmember _ _)
        | inside hsub huses =>
          obtain ⟨x, hx, htranslated⟩ := exists_of_forall₂ hxs hsub
          exact ⟨x, hx, (ih _ hsub htranslated).2 ⟨name, attrs, huses, hmade⟩⟩

end Terms

end Closure

end Polyquery
