import Mathlib.Data.List.Forall2
import Polyquery.Error

/-!
# Outcomes that are as they should be

* `bind_eq_ok`, `map_eq_ok` - when something comes out of a computation that goes on from another;
* `exists_mapM` - a list is gone through item by item;
* `Gives` - whatever comes out of a computation that may fail has a property;
* `Gives.map`, `Gives.bind`, `Gives.mapM` - the same of computations made of others;
* `Settles` - the same with a property of its failures;
* `Restricts` - a computation gives the outcomes of another that have a property, and no others;
* `Restricts.bind`, `Restricts.step` - the same of computations that go on from others;
* `Matches` - two computations succeed together, with related outcomes, with `Matches.bind` and
  `Matches.continued`.
-/

namespace Polyquery

/-- Something comes out of a computation that goes on from another if something comes out of both. -/
theorem bind_eq_ok {α β : Type} {x : QueryResult α} {f : α → QueryResult β} {b : β} :
    x >>= f = .ok b ↔ ∃ a, x = .ok a ∧ f a = .ok b := by
  cases x with
  | ok a =>
    constructor
    · intro h
      exact ⟨a, rfl, h⟩
    · rintro ⟨a', ha, h⟩
      cases ha
      exact h
  | error e =>
    constructor
    · intro h
      cases h
    · rintro ⟨a, ha, -⟩
      cases ha

theorem map_eq_ok {α β : Type} {x : QueryResult α} {f : α → β} {b : β} :
    x.map f = .ok b ↔ ∃ a, x = .ok a ∧ b = f a := by
  cases x <;> simp [Except.map, eq_comm]

theorem toOption_eq_some {α : Type} {x : QueryResult α} {a : α} (h : x.toOption = some a) :
    x = .ok a := by
  cases x with
  | error _ => cases h
  | ok b => exact congrArg Except.ok (Option.some.inj h)

/-- Something comes out of a list if something comes out of each item, and it is related to the items
one by one. -/
theorem exists_mapM {α β : Type} {R : α → β → Prop} {f : α → QueryResult β} {items : List α}
    (h : ∀ a ∈ items, ∃ b, f a = .ok b ∧ R a b) :
    ∃ bs, items.mapM f = .ok bs ∧ List.Forall₂ R items bs := by
  induction items with
  | nil => exact ⟨[], rfl, .nil⟩
  | cons a rest ih =>
    obtain ⟨b, hb, hR⟩ := h a List.mem_cons_self
    obtain ⟨bs, hbs, hall⟩ := ih fun a' ha' => h a' (List.mem_cons_of_mem a ha')
    refine ⟨b :: bs, ?_, .cons hR hall⟩
    rw [List.mapM_cons, hb, hbs]
    rfl

/-- Whatever comes out of a computation that may fail has a property. -/
def Gives {α : Type} (P : α → Prop) (outcome : QueryResult α) : Prop := ∀ a, outcome = .ok a → P a

namespace Gives

variable {α β : Type} {P : α → Prop} {R : β → Prop}

theorem ok {a : α} (h : P a) : Gives P (.ok a) := by
  intro b hb
  cases hb
  exact h

theorem error (P : α → Prop) (e : QueryError) : Gives P (.error e) := by
  intro b hb
  cases hb

theorem imp {Q : α → Prop} {x : QueryResult α} (hx : Gives P x) (h : ∀ a, P a → Q a) : Gives Q x :=
  fun a ha => h a (hx a ha)

theorem map {x : QueryResult α} (hx : Gives P x) {f : α → β} (h : ∀ a, P a → R (f a)) :
    Gives R (x.map f) := by
  cases x with
  | ok a => exact .ok (h a (hx a rfl))
  | error e => exact .error R e

theorem bind {x : QueryResult α} (hx : Gives P x) {f : α → QueryResult β}
    (h : ∀ a, P a → Gives R (f a)) : Gives R (x >>= f) := by
  cases x with
  | ok a => exact h a (hx a rfl)
  | error e => exact .error R e

theorem any (x : QueryResult α) : Gives (fun _ => True) x := fun _ _ => trivial

theorem mapped {f : α → β} (h : ∀ a, R (f a)) (x : QueryResult α) : Gives R (x.map f) :=
  (any x).map fun a _ => h a

/-- Whatever comes out of a list item by item. -/
theorem mapM {f : α → QueryResult β} {items : List α} (h : ∀ a ∈ items, Gives R (f a)) :
    Gives (fun out => ∀ b ∈ out, R b) (items.mapM f) := by
  induction items with
  | nil => exact .ok fun b hb => absurd hb List.not_mem_nil
  | cons a rest ih =>
    rw [List.forall_mem_cons] at h
    rw [List.mapM_cons]
    refine .bind h.1 fun b hb => .bind (ih h.2) fun bs hbs => .ok ?_
    exact List.forall_mem_cons.2 ⟨hb, hbs⟩

end Gives

/-- Whatever comes out of a computation has one property, and its failure another. -/
def Settles {α : Type} (P : α → Prop) (E : QueryError → Prop) (outcome : QueryResult α) : Prop :=
  Gives P outcome ∧ ∀ e, outcome = .error e → E e

namespace Settles

variable {α β : Type} {P : α → Prop} {R : β → Prop} {E : QueryError → Prop}

theorem ok {a : α} (h : P a) : Settles P E (.ok a) := ⟨.ok h, fun e he => by cases he⟩

theorem error {e : QueryError} (h : E e) : Settles P E (.error e) :=
  ⟨.error P e, fun e' he => by
    cases he
    exact h⟩

theorem imp {Q : α → Prop} {x : QueryResult α} (hx : Settles P E x) (h : ∀ a, P a → Q a) :
    Settles Q E x :=
  ⟨hx.1.imp h, hx.2⟩

theorem bind {x : QueryResult α} (hx : Settles P E x) {f : α → QueryResult β}
    (h : ∀ a, P a → Settles R E (f a)) : Settles R E (x >>= f) := by
  cases x with
  | ok a => exact h a (hx.1 a rfl)
  | error e => exact .error (hx.2 e rfl)

theorem map {x : QueryResult α} (hx : Settles P E x) {f : α → β} (h : ∀ a, P a → R (f a)) :
    Settles R E (x.map f) :=
  hx.bind (f := fun a => .ok (f a)) fun a ha => .ok (h a ha)

end Settles

/-- A computation gives the outcomes of another that have a property, and no others. -/
def Restricts {α : Type} (P : α → Prop) (x y : QueryResult α) : Prop :=
  ∀ a, x = .ok a ↔ y = .ok a ∧ P a

namespace Restricts

variable {α β : Type} {P : α → Prop} {R : β → Prop} {x y : QueryResult α}

theorem refl (h : Gives P x) : Restricts P x x := fun a => ⟨fun ha => ⟨ha, h a ha⟩, And.left⟩

/-- A computation that fails where no outcome of the other has the property. -/
theorem error (e : QueryError) (h : Gives (fun a => ¬ P a) y) : Restricts P (.error e) y :=
  fun a => ⟨fun ha => (by cases ha), fun ⟨hy, ha⟩ => absurd ha (h a hy)⟩

theorem imp {Q : α → Prop} (h : Restricts P x y) (hiff : ∀ a, P a ↔ Q a) : Restricts Q x y :=
  fun a => (h a).trans (and_congr_right fun _ => hiff a)

/-- What goes on from an outcome of the other has the property only if that outcome has it. -/
theorem bind (h : Restricts P x y) {f g : α → QueryResult β}
    (hfg : ∀ a, P a → Restricts R (f a) (g a)) (hback : ∀ a, Gives (fun b => R b → P a) (g a)) :
    Restricts R (x >>= f) (y >>= g) := by
  intro b
  constructor
  · intro hb
    cases hx : x with
    | error e =>
      rw [hx] at hb
      cases hb
    | ok a =>
      rw [hx] at hb
      obtain ⟨hy, ha⟩ := (h a).1 hx
      rw [hy]
      exact (hfg a ha b).1 hb
  · rintro ⟨hb, hR⟩
    cases hy : y with
    | error e =>
      rw [hy] at hb
      cases hb
    | ok a =>
      rw [hy] at hb
      have ha : P a := hback a b hb hR
      rw [(h a).2 ⟨hy, ha⟩]
      exact (hfg a ha b).2 ⟨hb, hR⟩

/-- Two computations that go on from the same one. -/
theorem continued (x : QueryResult α) {f g : α → QueryResult β}
    (hfg : ∀ a, Restricts R (f a) (g a)) : Restricts R (x >>= f) (x >>= g) :=
  bind (refl (.any x)) (fun a _ => hfg a) fun a => (Gives.any (g a)).imp fun _ _ _ => trivial

/-- What goes on from a call that leaves a state, and fails where the call fails. -/
theorem step {σ : Type} {P : σ → Prop} {x y : σ × QueryResult α}
    (h : ∀ s a, x = (s, .ok a) ↔ y = (s, .ok a) ∧ P s) {f g : σ × QueryResult α → QueryResult β}
    (hf : ∀ s e, ∃ e', f (s, .error e) = .error e') (hg : ∀ s e, ∃ e', g (s, .error e) = .error e')
    (hfg : ∀ s a, P s → Restricts R (f (s, .ok a)) (g (s, .ok a)))
    (hback : ∀ s a, Gives (fun b => R b → P s) (g (s, .ok a))) : Restricts R (f x) (g y) := by
  obtain ⟨s, outcome⟩ := x
  obtain ⟨s', outcome'⟩ := y
  cases outcome with
  | ok a =>
    obtain ⟨hy, hs⟩ := (h s a).1 rfl
    rw [hy]
    exact hfg s a hs
  | error e =>
    obtain ⟨e₁, he⟩ := hf s e
    rw [he]
    refine .error e₁ ?_
    cases outcome' with
    | ok a =>
      refine (hback s' a).imp fun b hb hR => ?_
      have hx := (h s' a).2 ⟨rfl, hb hR⟩
      cases hx
    | error e' =>
      obtain ⟨e₂, he'⟩ := hg s' e'
      rw [he']
      exact .error _ e₂

end Restricts

/-- Two computations succeed together, with related outcomes. -/
inductive Matches {α β : Type} (R : α → β → Prop) : QueryResult α → QueryResult β → Prop where
  | ok {a : α} {b : β} : R a b → Matches R (.ok a) (.ok b)
  | error (e e' : QueryError) : Matches R (.error e) (.error e')

namespace Matches

variable {α β γ δ : Type} {R : α → β → Prop} {S : γ → δ → Prop} {x : QueryResult α}
  {y : QueryResult β}

theorem bind (h : Matches R x y) {f : α → QueryResult γ} {g : β → QueryResult δ}
    (hfg : ∀ a b, R a b → Matches S (f a) (g b)) : Matches S (x >>= f) (y >>= g) := by
  cases h with
  | ok hab => exact hfg _ _ hab
  | error e e' => exact .error e e'

/-- Two computations that go on from the same one. -/
theorem continued {P : α → Prop} {x : QueryResult α} (hx : Gives P x) {f : α → QueryResult γ}
    {g : α → QueryResult δ} (hfg : ∀ a, P a → Matches S (f a) (g a)) :
    Matches S (x >>= f) (x >>= g) := by
  cases x with
  | ok a => exact hfg a (hx a rfl)
  | error e => exact .error e e

theorem ok_iff {f : β → α} (h : Matches (fun a b => a = f b) x y) (a : α) :
    x = .ok a ↔ ∃ b, y = .ok b ∧ a = f b := by
  cases h with
  | ok hab => simp [hab, eq_comm]
  | error e e' => simp

end Matches

end Polyquery
