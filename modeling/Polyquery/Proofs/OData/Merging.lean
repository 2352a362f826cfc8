import Polyquery.Proofs.Expr.Equality
import Polyquery.Proofs.OData.Siblings

/-!
# What merging gives

An expansion that is merged into another takes over its options, and each of the expansions inside
goes into the one of its name or stands beside the others.

* `Agree` - no option is set to different values, with `conflict?_eq_none`;
* `Joined` - the expansions of two lists, those of one name merged;
* `mem_mergeAll`, `mergeAll_ok_iff` - what adding the expansions of a list gives, and when;
* `merge_options`, `mem_merge`, `merge_ok_iff` - the same of merging two nodes;
* `merge_eq_error` - merging fails for conflicts only;
* `At` - the nodes at a path of names.
-/

namespace Polyquery.OData.Node

/-! ### Agreement -/

/-- No option is set to different values by two nodes. -/
structure Agree (ours theirs : Node) : Prop where
  filter : ∀ f g, ours.query.filter = some f → theirs.query.filter = some g → f.eqv g = true
  ordering : ours.query.ordering ≠ [] → theirs.query.ordering ≠ [] →
    Query.eqvBy OrderTerm.eqv ours.query.ordering theirs.query.ordering = true
  grouping : ours.query.grouping ≠ [] → theirs.query.grouping ≠ [] →
    Query.eqvBy Expr.eqv ours.query.grouping theirs.query.grouping = true
  limit : 0 < ours.query.limit → 0 < theirs.query.limit → ours.query.limit = theirs.query.limit
  offset : 0 < ours.query.offset → 0 < theirs.query.offset →
    ours.query.offset = theirs.query.offset
  levels : ∀ k l, ours.levels = some k → theirs.levels = some l → k = l

theorem Agree.symm {a b : Node} (h : Agree a b) : Agree b a where
  filter f g hf hg := (Expr.isPartialEq g).symm f (h.filter g f hg hf)
  ordering hb ha := (OrderTerm.isPartialEq.eqvBy _).symm _ (h.ordering ha hb)
  grouping hb ha := (Expr.isPartialEq.eqvBy _).symm _ (h.grouping ha hb)
  limit hb ha := (h.limit ha hb).symm
  offset hb ha := (h.offset ha hb).symm
  levels k l hk hl := (h.levels l k hl hk).symm

theorem differ_eq_false {α : Type} {eq : α → α → Bool} {a b : List α} :
    differ eq a b = false ↔ (a ≠ [] → b ≠ [] → Query.eqvBy eq a b = true) := by
  cases a <;> cases b <;> simp [differ]

theorem boundsDiffer_eq_false {a b : Int64} :
    boundsDiffer a b = false ↔ (0 < a → 0 < b → a = b) := by
  simp [boundsDiffer]

/-- Nodes conflict unless they agree. -/
theorem conflict?_eq_none {ours theirs : Node} :
    conflict? ours theirs = none ↔ Agree ours theirs := by
  have hfilter : filtersDiffer ours.query.filter theirs.query.filter = false ↔
      ∀ f g, ours.query.filter = some f → theirs.query.filter = some g → f.eqv g = true := by
    cases ours.query.filter <;> cases theirs.query.filter <;> simp [filtersDiffer]
  have hlevels : levelsDiffer ours.levels theirs.levels = false ↔
      ∀ k l, ours.levels = some k → theirs.levels = some l → k = l := by
    cases ours.levels <;> cases theirs.levels <;> simp [levelsDiffer]
  have hfalse : conflict? ours theirs = none ↔
      filtersDiffer ours.query.filter theirs.query.filter = false ∧
      differ OrderTerm.eqv ours.query.ordering theirs.query.ordering = false ∧
      differ Expr.eqv ours.query.grouping theirs.query.grouping = false ∧
      boundsDiffer ours.query.limit theirs.query.limit = false ∧
      boundsDiffer ours.query.offset theirs.query.offset = false ∧
      levelsDiffer ours.levels theirs.levels = false := by
    unfold conflict?
    simp only [ite_eq_iff, reduceCtorEq, and_false, false_or, and_true, Bool.not_eq_true]
  rw [hfalse, hfilter, differ_eq_false, differ_eq_false, boundsDiffer_eq_false,
    boundsDiffer_eq_false, hlevels]
  constructor
  · rintro ⟨hf, ho, hg, hl, hs, hk⟩
    exact ⟨hf, ho, hg, hl, hs, hk⟩
  · rintro ⟨hf, ho, hg, hl, hs, hk⟩
    exact ⟨hf, ho, hg, hl, hs, hk⟩

/-! ### Names -/

theorem sameName_comm (a b : Node) : sameName a b = sameName b a := by
  rw [Bool.eq_iff_iff, sameName_iff, sameName_iff]
  exact exists_congr fun _ => and_comm

/-- Having the same name depends on nothing else. -/
theorem sameName_congr {a a' : Node} (h : a.name? = a'.name?) (b : Node) :
    sameName a b = sameName a' b := by
  unfold sameName
  rw [h]

theorem name_eq_of_sameName {a b : Node} (h : sameName a b = true) : a.name? = b.name? := by
  obtain ⟨name, ha, hb⟩ := sameName_iff.1 h
  rw [ha, hb]

/-- Siblings are apart if no two of them have the same name. -/
theorem apart_iff {siblings : List Node} :
    Apart siblings ↔ siblings.Pairwise fun a b => sameName a b = false := by
  have hnames : ∀ a b : Node, sameName a b = false ↔
      ∀ name, a.name? = some name → ∀ name', b.name? = some name' → name ≠ name' := by
    intro a b
    rw [← Bool.not_eq_true, sameName_iff]
    constructor
    · rintro h name ha name' hb rfl
      exact h ⟨name, ha, hb⟩
    · rintro h ⟨name, ha, hb⟩
      exact h name ha name hb rfl
  unfold Apart List.Nodup
  simp only [List.pairwise_filterMap, hnames]

/-- None of the siblings around a node has its name. -/
theorem Apart.around {before after : List Node} {x : Node} (h : Apart (before ++ x :: after)) :
    ∀ w ∈ before ++ after, sameName w x = false := by
  obtain ⟨-, hafter, hbefore⟩ := List.pairwise_append.1 (apart_iff.1 h)
  intro w hw
  rcases List.mem_append.1 hw with hw | hw
  · exact hbefore w hw x List.mem_cons_self
  · rw [sameName_comm]
    exact (List.pairwise_cons.1 hafter).1 w hw

/-- Of siblings that are apart, one alone has a name. -/
theorem Apart.eq {siblings : List Node} (h : Apart siblings) {a b : Node} (ha : a ∈ siblings)
    (hb : b ∈ siblings) (hname : sameName a b = true) : a = b := by
  obtain ⟨before, after, rfl⟩ := List.append_of_mem hb
  have ha' : a = b ∨ a ∈ before ++ after := by simpa [or_left_comm] using ha
  rcases ha' with rfl | ha'
  · rfl
  · rw [h.around a ha'] at hname
    cases hname

/-! ### Joined expansions -/

/-- An expansion is among those of two lists, those of one name merged. -/
def Joined (xs ys : List Node) (z : Node) : Prop :=
  (∃ x ∈ xs, ∃ y ∈ ys, sameName x y = true ∧ merge x y = .ok z) ∨
    (z ∈ xs ∧ ∀ y ∈ ys, sameName z y = false) ∨ (z ∈ ys ∧ ∀ x ∈ xs, sameName x z = false)

theorem joined_nil {xs : List Node} {z : Node} : Joined xs [] z ↔ z ∈ xs := by
  simp [Joined]

/-- Placing an expansion joins it to the others. -/
theorem mem_place_iff {xs siblings : List Node} {child : Node} (hxs : Apart xs)
    (h : place (sameName · child) (fun sibling => merge sibling child) child xs = .ok siblings)
    (z : Node) : z ∈ siblings ↔ Joined xs [child] z := by
  unfold Joined
  simp only [List.mem_singleton, exists_eq_left, forall_eq]
  rcases place_eq_ok.1 h with ⟨hnew, rfl⟩ | ⟨before, x, after, y, rfl, hbefore, hx, hy, rfl⟩
  · rw [List.mem_append, List.mem_singleton]
    constructor
    · rintro (hz | rfl)
      · exact .inr (.inl ⟨hz, hnew z hz⟩)
      · exact .inr (.inr ⟨rfl, hnew⟩)
    · rintro (⟨x, hx, hsame, -⟩ | ⟨hz, -⟩ | ⟨rfl, -⟩)
      · rw [hnew x hx] at hsame
        cases hsame
      · exact .inl hz
      · exact .inr rfl
  · have hmem : ∀ w v : Node, w ∈ before ++ v :: after ↔ w = v ∨ w ∈ before ++ after := by
      intro w v
      simp [or_left_comm]
    have hother : ∀ w ∈ before ++ after, sameName w child = false := by
      intro w hw
      rw [sameName_comm, ← sameName_congr (name_eq_of_sameName hx), sameName_comm]
      exact hxs.around w hw
    rw [hmem z y, hmem z x]
    constructor
    · rintro (rfl | hz)
      · exact .inl ⟨x, (hmem x x).2 (.inl rfl), hx, hy⟩
      · exact .inr (.inl ⟨.inr hz, hother z hz⟩)
    · rintro (⟨w, hw, hsame, hmerge⟩ | ⟨rfl | hz, hsame⟩ | ⟨rfl, hnone⟩)
      · rcases (hmem w x).1 hw with rfl | hw
        · exact .inl (Except.ok.inj (hmerge.symm.trans hy))
        · rw [hother w hw] at hsame
          cases hsame
      · rw [hx] at hsame
        cases hsame
      · exact .inr hz
      · rw [hnone x ((hmem x x).2 (.inl rfl))] at hx
        cases hx

/-- Joining the expansions of a list is joining the first and then the others. -/
theorem joined_cons {xs siblings rest : List Node} {child : Node}
    (hsiblings : ∀ w, w ∈ siblings ↔ Joined xs [child] w) (hapart : Apart (child :: rest))
    (z : Node) : Joined siblings rest z ↔ Joined xs (child :: rest) z := by
  have hrest : ∀ y ∈ rest, sameName child y = false :=
    (List.pairwise_cons.1 (apart_iff.1 hapart)).1
  have hlike : ∀ {x : Node}, sameName x child = true → ∀ y ∈ rest, sameName x y = false := by
    intro x hx y hy
    rw [sameName_congr (name_eq_of_sameName hx)]
    exact hrest y hy
  simp only [Joined, List.mem_singleton, exists_eq_left, forall_eq] at hsiblings
  have hmerged : ∀ {x w : Node}, x ∈ xs → sameName x child = true → merge x child = .ok w →
      w ∈ siblings ∧ ∀ y ∈ rest, sameName w y = false := by
    intro x w hx hsame hw
    refine ⟨(hsiblings w).2 (.inl ⟨x, hx, hsame, hw⟩), fun y hy => ?_⟩
    rw [sameName_congr (merge_name hw)]
    exact hlike hsame y hy
  constructor
  · rintro (⟨w, hw, y, hy, hsame, hz⟩ | ⟨hz, hnone⟩ | ⟨hz, hnone⟩)
    · rcases (hsiblings w).1 hw with ⟨x, hx, hxc, hmerge⟩ | ⟨hw, -⟩ | ⟨rfl, -⟩
      · rw [(hmerged hx hxc hmerge).2 y hy] at hsame
        cases hsame
      · exact .inl ⟨w, hw, y, List.mem_cons_of_mem child hy, hsame, hz⟩
      · rw [hrest y hy] at hsame
        cases hsame
    · rcases (hsiblings z).1 hz with ⟨x, hx, hxc, hmerge⟩ | ⟨hz, hzc⟩ | ⟨rfl, hxs⟩
      · exact .inl ⟨x, hx, child, List.mem_cons_self, hxc, hmerge⟩
      · exact .inr (.inl ⟨hz, List.forall_mem_cons.2 ⟨hzc, hnone⟩⟩)
      · exact .inr (.inr ⟨List.mem_cons_self, hxs⟩)
    · refine .inr (.inr ⟨List.mem_cons_of_mem child hz, fun x hx => ?_⟩)
      cases hxc : sameName x child with
      | true => exact hlike hxc z hz
      | false => exact hnone x ((hsiblings x).2 (.inr (.inl ⟨hx, hxc⟩)))
  · rintro (⟨x, hx, y, hy, hsame, hz⟩ | ⟨hz, hnone⟩ | ⟨hz, hnone⟩)
    · rcases List.mem_cons.1 hy with rfl | hy
      · exact .inr (.inl (hmerged hx hsame hz))
      · refine .inl ⟨x, (hsiblings x).2 (.inr (.inl ⟨hx, ?_⟩)), y, hy, hsame, hz⟩
        rw [← Bool.not_eq_true]
        intro hxc
        rw [hlike hxc y hy] at hsame
        cases hsame
    · rw [List.forall_mem_cons] at hnone
      exact .inr (.inl ⟨(hsiblings z).2 (.inr (.inl ⟨hz, hnone.1⟩)), hnone.2⟩)
    · rcases List.mem_cons.1 hz with rfl | hz'
      · exact .inr (.inl ⟨(hsiblings z).2 (.inr (.inr ⟨rfl, hnone⟩)), hrest⟩)
      · refine .inr (.inr ⟨hz', fun w hw => ?_⟩)
        rcases (hsiblings w).1 hw with ⟨x, hx, hxc, hmerge⟩ | ⟨hw, -⟩ | ⟨rfl, -⟩
        · exact (hmerged hx hxc hmerge).2 z hz'
        · exact hnone w hw
        · exact hrest z hz'

/-- Adding the expansions of a list joins them to those of the node. -/
theorem mem_mergeAll {n m : Node} {children : List Node} (hn : Apart n.expand)
    (hchildren : Apart children) (h : n.mergeAll children = .ok m) (z : Node) :
    z ∈ m.expand ↔ Joined n.expand children z := by
  induction children generalizing n with
  | nil =>
    rw [mergeAll_nil] at h
    cases h
    exact joined_nil.symm
  | cons child rest ih =>
    obtain ⟨siblings, hplace, hrest⟩ := mergeAll_cons_eq_ok.1 h
    have hsiblings : Apart siblings := hn.place (fun _ _ => merge_name) hplace
    have hapart : Apart rest := apart_iff.2 (List.pairwise_cons.1 (apart_iff.1 hchildren)).2
    rw [← joined_cons (mem_place_iff hn hplace) hchildren]
    exact @ih { n with expand := siblings } hsiblings hapart hrest

/-- An expansion can be placed if it can be merged into the one of its name. -/
theorem place_ok_iff {xs : List Node} {child : Node} (hxs : Apart xs) :
    (∃ siblings, place (sameName · child) (fun sibling => merge sibling child) child xs
        = .ok siblings) ↔
      ∀ x ∈ xs, sameName x child = true → ∃ z, merge x child = .ok z := by
  have hmap : ∀ {α β : Type} (r : QueryResult α) (f : α → β),
      (∃ b, r.map f = .ok b) ↔ ∃ a, r = .ok a := by
    intro α β r f
    cases r <;> simp [Except.map]
  induction xs with
  | nil => simp [place]
  | cons x rest ih =>
    have hapart := List.pairwise_cons.1 (apart_iff.1 hxs)
    rw [place, List.forall_mem_cons]
    by_cases hx : sameName x child = true
    · rw [if_pos hx, hmap]
      have hrest : ∀ w ∈ rest, sameName w child = true → ∃ z, merge w child = .ok z := by
        intro w hw hsame
        rw [sameName_comm, ← sameName_congr (name_eq_of_sameName hx), hapart.1 w hw] at hsame
        cases hsame
      exact ⟨fun h => ⟨fun _ => h, hrest⟩, fun h => h.1 hx⟩
    · rw [if_neg hx, hmap]
      have hiff := ih (apart_iff.2 hapart.2)
      exact ⟨fun h => ⟨fun hsame => absurd hsame hx, hiff.1 h⟩, fun h => hiff.2 h.2⟩

/-- Once an expansion is placed, those of other names meet what they would have met without it. -/
theorem forall_merge_place_iff {xs siblings rest : List Node} {child : Node} (hxs : Apart xs)
    (hapart : Apart (child :: rest))
    (hplace : place (sameName · child) (fun sibling => merge sibling child) child xs
      = .ok siblings) :
    (∀ x ∈ siblings, ∀ y ∈ rest, sameName x y = true → ∃ z, merge x y = .ok z) ↔
      ∀ x ∈ xs, ∀ y ∈ rest, sameName x y = true → ∃ z, merge x y = .ok z := by
  have hrest : ∀ y ∈ rest, sameName child y = false :=
    (List.pairwise_cons.1 (apart_iff.1 hapart)).1
  have hlike : ∀ {x : Node}, x.name? = child.name? → ∀ y ∈ rest, sameName x y = false := by
    intro x hx y hy
    rw [sameName_congr hx]
    exact hrest y hy
  have hmem := mem_place_iff hxs hplace
  simp only [Joined, List.mem_singleton, exists_eq_left, forall_eq] at hmem
  constructor
  · intro h x hx y hy hsame
    cases hxc : sameName x child with
    | true =>
      rw [hlike (name_eq_of_sameName hxc) y hy] at hsame
      cases hsame
    | false => exact h x ((hmem x).2 (.inr (.inl ⟨hx, hxc⟩))) y hy hsame
  · intro h w hw y hy hsame
    rcases (hmem w).1 hw with ⟨x, -, hxc, hmerge⟩ | ⟨hw, -⟩ | ⟨rfl, -⟩
    · rw [hlike ((merge_name hmerge).trans (name_eq_of_sameName hxc)) y hy] at hsame
      cases hsame
    · exact h w hw y hy hsame
    · rw [hrest y hy] at hsame
      cases hsame

/-- The expansions of a list can be added if each can be merged into the one of its name. -/
theorem mergeAll_ok_iff {n : Node} {children : List Node} (hn : Apart n.expand)
    (hchildren : Apart children) :
    (∃ m, n.mergeAll children = .ok m) ↔
      ∀ x ∈ n.expand, ∀ y ∈ children, sameName x y = true → ∃ z, merge x y = .ok z := by
  induction children generalizing n with
  | nil => simp [mergeAll_nil]
  | cons child rest ih =>
    have hrest : Apart rest := apart_iff.2 (List.pairwise_cons.1 (apart_iff.1 hchildren)).2
    have hstep : ∀ {siblings : List Node},
        place (sameName · child) (fun sibling => merge sibling child) child n.expand
          = .ok siblings →
        ((∃ m, mergeAll { n with expand := siblings } rest = .ok m) ↔
          ∀ x ∈ n.expand, ∀ y ∈ rest, sameName x y = true → ∃ z, merge x y = .ok z) := by
      intro siblings hplace
      have hsiblings : Apart siblings := hn.place (fun _ _ => merge_name) hplace
      exact (@ih { n with expand := siblings } hsiblings hrest).trans
        (forall_merge_place_iff hn hchildren hplace)
    constructor
    · rintro ⟨m, hm⟩ x hx y hy hsame
      obtain ⟨siblings, hplace, hm⟩ := mergeAll_cons_eq_ok.1 hm
      rcases List.mem_cons.1 hy with rfl | hy
      · exact (place_ok_iff hn).1 ⟨siblings, hplace⟩ x hx hsame
      · exact (hstep hplace).1 ⟨m, hm⟩ x hx y hy hsame
    · intro h
      obtain ⟨siblings, hplace⟩ :=
        (place_ok_iff hn).2 fun x hx => h x hx child List.mem_cons_self
      obtain ⟨m, hm⟩ := (hstep hplace).2
        fun x hx y hy => h x hx y (List.mem_cons_of_mem child hy)
      exact ⟨m, mergeAll_cons_eq_ok.2 ⟨siblings, hplace, hm⟩⟩

/-! ### Merged nodes -/

/-- What a merged node has besides its expansions. -/
theorem merge_options {ours theirs merged : Node} (h : merge ours theirs = .ok merged) :
    merged.query = mergeQuery ours.query theirs.query ∧
      merged.levels = (ours.levels <|> theirs.levels) ∧
      merged.count = (ours.count || theirs.count) := by
  obtain ⟨-, m, hall, rfl⟩ := merge_eq_ok.1 h
  rw [mergeAll_kept hall]
  exact ⟨rfl, rfl, rfl⟩

/-- The expansions of a merged node are those of both, joined. -/
theorem mem_merge {ours theirs merged : Node} (hours : Apart ours.expand)
    (htheirs : Apart theirs.expand) (h : merge ours theirs = .ok merged) (z : Node) :
    z ∈ merged.expand ↔ Joined ours.expand theirs.expand z := by
  obtain ⟨-, m, hall, rfl⟩ := merge_eq_ok.1 h
  exact mem_mergeAll hours htheirs hall z

/-- Nodes can be merged if they agree and the expansions of one name can be merged. -/
theorem merge_ok_iff {ours theirs : Node} (hours : Apart ours.expand)
    (htheirs : Apart theirs.expand) :
    (∃ merged, merge ours theirs = .ok merged) ↔
      Agree ours theirs ∧ ∀ x ∈ ours.expand, ∀ y ∈ theirs.expand, sameName x y = true →
        ∃ z, merge x y = .ok z := by
  rw [← mergeAll_ok_iff hours htheirs, ← conflict?_eq_none]
  simp only [merge_eq_ok]
  constructor
  · rintro ⟨merged, hagree, m, hall, -⟩
    exact ⟨hagree, m, hall⟩
  · rintro ⟨hagree, m, hall⟩
    exact ⟨_, hagree, m, hall, rfl⟩

/-- Adding an expansion merges it into the first of its name. -/
theorem expandWith_onto {n ours theirs : Node} {before after : List Node}
    (hn : n.expand = before ++ ours :: after)
    (hbefore : ∀ x ∈ before, sameName x theirs = false) (hname : sameName ours theirs = true) :
    n.expandWith theirs
      = (merge ours theirs).map fun m => { n with expand := before ++ m :: after } := by
  have hplace : ∀ before : List Node, (∀ x ∈ before, sameName x theirs = false) →
      place (sameName · theirs) (fun sibling => merge sibling theirs) theirs
          (before ++ ours :: after)
        = (merge ours theirs).map fun m => before ++ m :: after := by
    intro before hbefore
    induction before with
    | nil =>
      rw [List.nil_append, place, if_pos hname]
      rfl
    | cons x rest ih =>
      rw [List.forall_mem_cons] at hbefore
      rw [List.cons_append, place, if_neg (by simp [hbefore.1]), ih hbefore.2]
      cases merge ours theirs <;> rfl
  rw [expandWith_eq, hn, hplace before hbefore]
  cases merge ours theirs <;> rfl

/-! ### Conflicts -/

/-- An error tells of a conflict with a node inside another, on an option that the node it is to be
merged into sets to a different value. -/
def IsConflict (theirs : Node) (e : QueryError) : Prop :=
  ∃ x y option, Within theirs y ∧ sameName x y = true ∧ conflict? x y = some option ∧
    e = conflict option x

theorem IsConflict.inside {theirs child : Node} {e : QueryError} (h : IsConflict child e)
    (hchild : child ∈ theirs.expand) : IsConflict theirs e := by
  obtain ⟨x, y, option, hy, hname, hconflict, he⟩ := h
  exact ⟨x, y, option, hy.inside hchild, hname, hconflict, he⟩

/-- Placing fails where the change of an item that is like the new one fails. -/
theorem place_eq_error {α : Type} {like : α → Bool} {change : α → QueryResult α} {new : α}
    {xs : List α} {e : QueryError} (h : place like change new xs = .error e) :
    ∃ x ∈ xs, like x = true ∧ change x = .error e := by
  induction xs with
  | nil => cases h
  | cons x rest ih =>
    rw [place] at h
    split at h
    · rename_i hx
      cases hy : change x with
      | ok y =>
        rw [hy] at h
        cases h
      | error e' =>
        rw [hy] at h
        cases h
        exact ⟨x, List.mem_cons_self, hx, hy⟩
    · cases hrest : place like change new rest with
      | ok ys =>
        rw [hrest] at h
        cases h
      | error e' =>
        rw [hrest] at h
        cases h
        obtain ⟨w, hw, hlike, hchange⟩ := ih hrest
        exact ⟨w, List.mem_cons_of_mem x hw, hlike, hchange⟩

/-- Adding expansions fails where merging one of them fails. -/
theorem mergeAll_eq_error {n : Node} {children : List Node} {e : QueryError}
    (h : n.mergeAll children = .error e) :
    ∃ child ∈ children, ∃ x, sameName x child = true ∧ merge x child = .error e := by
  induction children generalizing n with
  | nil =>
    rw [mergeAll_nil] at h
    cases h
  | cons child rest ih =>
    rw [mergeAll_cons] at h
    cases hplace : place (sameName · child) (fun sibling => merge sibling child) child
        n.expand with
    | ok siblings =>
      rw [hplace] at h
      obtain ⟨c, hc, hmerge⟩ := ih h
      exact ⟨c, List.mem_cons_of_mem child hc, hmerge⟩
    | error e' =>
      rw [hplace] at h
      cases h
      obtain ⟨x, -, hmerge⟩ := place_eq_error hplace
      exact ⟨child, List.mem_cons_self, x, hmerge⟩

/-- Merging fails for conflicts only. -/
theorem merge_eq_error {ours theirs : Node} {e : QueryError} (hname : sameName ours theirs = true)
    (h : merge ours theirs = .error e) : IsConflict theirs e := by
  induction theirs using Node.induction generalizing ours with
  | mk query expand levels count ih =>
    rw [merge] at h
    cases hconflict : conflict? ours ⟨query, expand, levels, count⟩ with
    | some option =>
      rw [hconflict] at h
      cases h
      exact ⟨ours, _, option, .self, hname, hconflict, rfl⟩
    | none =>
      rw [hconflict] at h
      cases hall : mergeAll ours expand with
      | ok m =>
        simp only [hall] at h
        cases h
      | error e' =>
        simp only [hall] at h
        cases h
        obtain ⟨child, hmem, x, hx, hmerge⟩ := mergeAll_eq_error hall
        exact (ih child hmem hx hmerge).inside hmem

/-! ### Paths -/

/-- The nodes at a path of names, below a node. -/
def At : List String → Node → Node → Prop
  | [], n, m => m = n
  | name :: path, n, m => ∃ child ∈ n.expand, child.name? = some name ∧ At path child m

end Polyquery.OData.Node
