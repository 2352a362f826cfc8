import Polyquery.Proofs.OData.Merging
import Polyquery.Proofs.Query.Projection

/-!
# What a merged expansion keeps

Merging compares and takes over the current filter of a query only: what was set aside before, and
whether rows are distinct, is kept of the node that is merged into and lost of the other.

* `Covers` - a relation of two nodes and, at every level, of their expansions;
* `Shown`, `InForce` - the options of a node that another has, without and with what is set aside;
* `merge_covers` - everything but what is set aside is kept at every level;
* `FilterKept`, `enforced_mergeQuery_iff` - the queries whose filters are both kept;
* `merged_in_force_iff` - the nodes whose options are all kept.
-/

namespace Polyquery

/-! ### Filters -/

theorem Query.effectiveFilter_of_none {q : Query} (h : q.filter = none) :
    q.effectiveFilter = q.prepared := by
  rw [effectiveFilter, h]
  cases q.prepared <;> rfl

theorem Query.effectiveFilter_of_unprepared {q : Query} (h : q.prepared = none) :
    q.effectiveFilter = q.filter := by
  rw [effectiveFilter, h]
  cases q.filter <;> rfl

/-- A current filter is joined with what was set aside. -/
theorem Query.effectiveFilter_of_some {q : Query} {f : Expr} (h : q.filter = some f) :
    q.effectiveFilter = some (q.prepared.elim f fun p => p.and f) := by
  rw [effectiveFilter, h]
  cases q.prepared <;> rfl

/-- The filter of a query, what was set aside before included, is that of another. -/
def Query.Enforced (p q : Query) : Prop :=
  ∀ e, p.effectiveFilter = some e → ∃ f, q.effectiveFilter = some f ∧ e.Alike f

theorem Query.Enforced.refl (q : Query) : q.Enforced q := fun e he => ⟨e, he, .refl e⟩

theorem Query.Enforced.trans {p q r : Query} (h : p.Enforced q) (h' : q.Enforced r) :
    p.Enforced r := by
  intro e he
  obtain ⟨f, hf, hef⟩ := h e he
  obtain ⟨g, hg, hfg⟩ := h' f hf
  exact ⟨g, hg, hef.trans hfg⟩

/-- Two filters are both kept if the second query has none, or the first has none and the second has
set nothing aside, or they are the same and no current filter is added to one set aside. -/
def Query.FilterKept (ours theirs : Query) : Prop :=
  theirs.effectiveFilter = none ∨ ours.effectiveFilter = none ∧ theirs.prepared = none ∨
    ∃ e f, ours.effectiveFilter = some e ∧ theirs.effectiveFilter = some f ∧ e.Alike f ∧
      (theirs.filter ≠ none → ours.filter ≠ none)

namespace OData.Node

/-! ### Nodes that have everything of another -/

mutual

/-- A relation holds of two nodes, and of each expansion of the one and some expansion of the other,
at every level. -/
def Covers (R : Node → Node → Prop) : Node → Node → Prop
  | ⟨query, expand, levels, count⟩, m =>
    R ⟨query, expand, levels, count⟩ m ∧ CoversAll R expand m.expand

/-- Each node is covered by one of others. -/
def CoversAll (R : Node → Node → Prop) : List Node → List Node → Prop
  | [], _ => True
  | n :: rest, others => (∃ m ∈ others, Covers R n m) ∧ CoversAll R rest others

end

section Covers

variable {R : Node → Node → Prop}

theorem coversAll_iff {nodes others : List Node} :
    CoversAll R nodes others ↔ ∀ n ∈ nodes, ∃ m ∈ others, Covers R n m := by
  induction nodes with
  | nil => simp [CoversAll]
  | cons n rest ih => rw [CoversAll, ih, List.forall_mem_cons]

theorem covers_iff {n m : Node} :
    Covers R n m ↔ R n m ∧ ∀ child ∈ n.expand, ∃ d ∈ m.expand, Covers R child d := by
  obtain ⟨query, expand, levels, count⟩ := n
  rw [Covers, coversAll_iff]

theorem Covers.refl (hR : ∀ n, R n n) (n : Node) : Covers R n n := by
  induction n using expand_induction with
  | step n ih => exact covers_iff.2 ⟨hR n, fun child hchild => ⟨child, hchild, ih child hchild⟩⟩

theorem Covers.trans (hR : ∀ a b c, R a b → R b c → R a c) {a b c : Node} (hab : Covers R a b)
    (hbc : Covers R b c) : Covers R a c := by
  induction a using expand_induction generalizing b c with
  | step a ih =>
    obtain ⟨hab, hchildren⟩ := covers_iff.1 hab
    obtain ⟨hbc, hchildren'⟩ := covers_iff.1 hbc
    refine covers_iff.2 ⟨hR a b c hab hbc, fun child hchild => ?_⟩
    obtain ⟨d, hd, hcd⟩ := hchildren child hchild
    obtain ⟨e, he, hde⟩ := hchildren' d hd
    exact ⟨e, he, ih child hchild hcd hde⟩

theorem CoversAll.trans (hR : ∀ a b c, R a b → R b c → R a c) {xs ys zs : List Node}
    (h : CoversAll R xs ys) (h' : CoversAll R ys zs) : CoversAll R xs zs := by
  rw [coversAll_iff] at h h' ⊢
  intro x hx
  obtain ⟨y, hy, hxy⟩ := h x hx
  obtain ⟨z, hz, hyz⟩ := h' y hy
  exact ⟨z, hz, hxy.trans hR hyz⟩

end Covers

/-! ### Options that another node has -/

/-- What a node shows is shown by another: its name, the names of its fields, the current filter and
every other option that is set, but for duplicates. -/
structure Shown (n m : Node) : Prop where
  name : m.name? = n.name?
  fields : ∀ name ∈ n.query.fields.map Field.name, name ∈ m.query.fields.map Field.name
  filter : ∀ e, n.query.filter = some e → ∃ f, m.query.filter = some f ∧ e.Alike f
  ordering : n.query.ordering ≠ [] →
    Same (Query.eqvBy OrderTerm.eqv) n.query.ordering m.query.ordering
  grouping : n.query.grouping ≠ [] →
    Same (Query.eqvBy Expr.eqv) n.query.grouping m.query.grouping
  limit : 0 < n.query.limit → m.query.limit = n.query.limit
  offset : 0 < n.query.offset → m.query.offset = n.query.offset
  levels : ∀ l, n.levels = some l → m.levels = some l
  count : n.count = true → m.count = true

/-- Every option of a node is in force at another. -/
structure InForce (n m : Node) : Prop extends Shown n m where
  enforced : n.query.Enforced m.query
  distinct : n.query.distinct = true → m.query.distinct = true

theorem Shown.refl (n : Node) : Shown n n where
  name := rfl
  fields _ h := h
  filter e he := ⟨e, he, .refl e⟩
  ordering _ := .refl _ _
  grouping _ := .refl _ _
  limit _ := rfl
  offset _ := rfl
  levels _ h := h
  count h := h

theorem InForce.refl (n : Node) : InForce n n := ⟨.refl n, .refl n.query, id⟩

/-- A list that is the same as one with items has items. -/
theorem ne_nil_of_same {α : Type} {eq : α → α → Bool} {xs ys : List α}
    (h : Same (Query.eqvBy eq) xs ys) (hxs : xs ≠ []) : ys ≠ [] := by
  rintro rfl
  rcases h with rfl | h
  · exact hxs rfl
  · cases xs with
    | nil => exact hxs rfl
    | cons x xs => cases h

theorem Shown.trans {a b c : Node} (h : Shown a b) (h' : Shown b c) : Shown a c where
  name := h'.name.trans h.name
  fields name hname := h'.fields name (h.fields name hname)
  filter e he := by
    obtain ⟨f, hf, hef⟩ := h.filter e he
    obtain ⟨g, hg, hfg⟩ := h'.filter f hf
    exact ⟨g, hg, hef.trans hfg⟩
  ordering ha := by
    have hab := h.ordering ha
    exact hab.trans OrderTerm.isPartialEq.eqvBy (h'.ordering (ne_nil_of_same hab ha))
  grouping ha := by
    have hab := h.grouping ha
    exact hab.trans Expr.isPartialEq.eqvBy (h'.grouping (ne_nil_of_same hab ha))
  limit ha := (h'.limit (h.limit ha ▸ ha)).trans (h.limit ha)
  offset ha := (h'.offset (h.offset ha ▸ ha)).trans (h.offset ha)
  levels l hl := h'.levels l (h.levels l hl)
  count ha := h'.count (h.count ha)

/-! ### Options of a merged node -/

/-- Where no current filter is added, the filter of the merged query is that of the first. -/
theorem enforced_mergeQuery_left {ours theirs : Query}
    (hagree : ∀ f g, ours.filter = some f → theirs.filter = some g → f.Alike g)
    (hcurrent : theirs.filter ≠ none → ours.filter ≠ none) :
    ours.Enforced (mergeQuery ours theirs) ∧ (mergeQuery ours theirs).Enforced ours := by
  rw [mergeQuery_eq]
  cases hg : theirs.filter with
  | none => exact ⟨.refl ours, .refl ours⟩
  | some g =>
    obtain ⟨f, hf⟩ := Option.ne_none_iff_exists'.1 (hcurrent (by simp [hg]))
    have hfg := hagree f g hf hg
    unfold Query.Enforced
    rw [Query.effectiveFilter_of_some hf, Query.effectiveFilter_of_some (f := g) rfl]
    cases ours.prepared with
    | none => simp [hfg, hfg.symm]
    | some p =>
      have hand : (p.and f).Alike (p.and g) := .and (.refl p) hfg
      simp [hand, hand.symm]

/-- A current filter that is added to none is the filter of the merged query only if neither query
has set anything aside. -/
theorem enforced_mergeQuery_added {ours theirs : Query} {g : Expr} (hf : ours.filter = none)
    (hg : theirs.filter = some g) :
    ours.Enforced (mergeQuery ours theirs) ∧ theirs.Enforced (mergeQuery ours theirs) ↔
      ours.prepared = none ∧ theirs.prepared = none := by
  unfold Query.Enforced
  rw [mergeQuery_eq, Query.effectiveFilter_of_none hf, Query.effectiveFilter_of_some hg,
    Query.effectiveFilter_of_some (f := g) (by simp [hg])]
  cases ours.prepared with
  | none =>
    cases theirs.prepared with
    | none => simp [Expr.Alike.refl]
    | some q => simp [Expr.Alike.not_and_right]
  | some p =>
    have hnot : ¬ p.Alike (p.and g) := fun h => Expr.Alike.not_and_left p g h.symm
    simp [hnot]

/-- Merging keeps both filters in the cases of `FilterKept` only. -/
theorem enforced_mergeQuery_iff {ours theirs : Query}
    (hagree : ∀ f g, ours.filter = some f → theirs.filter = some g → f.Alike g) :
    ours.Enforced (mergeQuery ours theirs) ∧ theirs.Enforced (mergeQuery ours theirs) ↔
      ours.FilterKept theirs := by
  by_cases hcurrent : theirs.filter ≠ none → ours.filter ≠ none
  · obtain ⟨hfirst, hback⟩ := enforced_mergeQuery_left hagree hcurrent
    constructor
    · rintro ⟨-, h⟩
      cases hf : theirs.effectiveFilter with
      | none => exact .inl hf
      | some f =>
        obtain ⟨e, he, hfe⟩ := h.trans hback f hf
        exact .inr (.inr ⟨e, f, he, hf, hfe.symm, hcurrent⟩)
    · intro h
      refine ⟨hfirst, .trans (fun f hf => ?_) hfirst⟩
      rcases h with hnone | ⟨hnone, hprepared⟩ | ⟨e, f', he, hf', hef, -⟩
      · rw [hnone] at hf
        cases hf
      · cases hg : theirs.filter with
        | none =>
          rw [Query.effectiveFilter_of_none hg, hprepared] at hf
          cases hf
        | some g =>
          obtain ⟨e, he⟩ := Option.ne_none_iff_exists'.1 (hcurrent (by simp [hg]))
          rw [Query.effectiveFilter_of_some he] at hnone
          cases hnone
      · obtain rfl : f' = f := Option.some.inj (hf'.symm.trans hf)
        exact ⟨e, he, hef.symm⟩
  · obtain ⟨hadded, hf⟩ := Classical.not_imp.1 hcurrent
    obtain ⟨g, hg⟩ := Option.ne_none_iff_exists'.1 hadded
    have hnone : ours.filter = none := not_not.1 hf
    rw [enforced_mergeQuery_added hnone hg, Query.FilterKept,
      Query.effectiveFilter_of_none hnone, Query.effectiveFilter_of_some hg]
    simp [hg, hnone]

theorem Agree.filter_alike {a b : Node} (h : Agree a b) (f g : Expr)
    (hf : a.query.filter = some f) (hg : b.query.filter = some g) : f.Alike g :=
  .of_eqv (h.filter f g hf hg)

/-- A list that is taken over unless it is empty is the same as either of two that agree. -/
theorem same_of_takenOver {α : Type} {eq : α → α → Bool} {xs ys : List α}
    (h : xs ≠ [] → ys ≠ [] → Query.eqvBy eq xs ys = true) :
    (xs ≠ [] → Same (Query.eqvBy eq) xs (if ys.isEmpty then xs else ys)) ∧
      (ys ≠ [] → Same (Query.eqvBy eq) ys (if ys.isEmpty then xs else ys)) := by
  cases ys with
  | nil => exact ⟨fun _ => .refl _ xs, fun hys => absurd rfl hys⟩
  | cons y ys => exact ⟨fun hxs => .inr (h hxs (List.cons_ne_nil y ys)), fun _ => .refl _ _⟩

/-- A bound that is taken over if it is positive is either of two that agree. -/
theorem eq_of_takenOver {a b : Int64} (h : 0 < a → 0 < b → a = b) :
    (0 < a → (if 0 < b then b else a) = a) ∧ (0 < b → (if 0 < b then b else a) = b) := by
  by_cases hb : 0 < b
  · rw [if_pos hb]
    exact ⟨fun ha => (h ha hb).symm, fun _ => rfl⟩
  · rw [if_neg hb]
    exact ⟨fun _ => rfl, fun hb' => absurd hb' hb⟩

/-- A merged node shows what both nodes show. -/
theorem shown_of_merge {ours theirs merged : Node} (hname : sameName ours theirs = true)
    (h : merge ours theirs = .ok merged) : Shown ours merged ∧ Shown theirs merged := by
  have hagree : Agree ours theirs := conflict?_eq_none.1 (merge_eq_ok.1 h).1
  have hordering := same_of_takenOver hagree.ordering
  have hgrouping := same_of_takenOver hagree.grouping
  have hlimit := eq_of_takenOver hagree.limit
  have hoffset := eq_of_takenOver hagree.offset
  obtain ⟨hquery, hlevels, hcount⟩ := merge_options h
  rw [mergeQuery_eq] at hquery
  constructor
  · refine ⟨merge_name h, ?_, ?_, ?_, ?_, ?_, ?_, ?_, ?_⟩
    · intro name hmem
      rw [hquery]
      exact Query.mem_mergeFields_names.2 (.inl hmem)
    · intro f hf
      rw [hquery]
      cases hg : theirs.query.filter with
      | none => exact ⟨f, hf, .refl f⟩
      | some g => exact ⟨g, rfl, hagree.filter_alike f g hf hg⟩
    · rw [hquery]
      exact hordering.1
    · rw [hquery]
      exact hgrouping.1
    · rw [hquery]
      exact hlimit.1
    · rw [hquery]
      exact hoffset.1
    · intro l hl
      rw [hlevels, hl]
      rfl
    · intro hours
      rw [hcount, hours, Bool.true_or]
  · refine ⟨(merge_name h).trans (name_eq_of_sameName hname), ?_, ?_, ?_, ?_, ?_, ?_, ?_, ?_⟩
    · intro name hmem
      rw [hquery]
      exact Query.mem_mergeFields_names.2 (.inr hmem)
    · intro g hg
      rw [hquery, hg]
      exact ⟨g, rfl, .refl g⟩
    · rw [hquery]
      exact hordering.2
    · rw [hquery]
      exact hgrouping.2
    · rw [hquery]
      exact hlimit.2
    · rw [hquery]
      exact hoffset.2
    · intro l hl
      rw [hlevels]
      cases hk : ours.levels with
      | none => exact hl
      | some k =>
        rw [hagree.levels k l hk hl]
        rfl
    · intro htheirs
      rw [hcount, htheirs, Bool.or_true]

/-- The siblings of a placed expansion show what was there and what is new. -/
theorem place_covers {xs siblings : List Node} {child : Node}
    (hmerge : ∀ x y, sameName x child = true → merge x child = .ok y →
      Covers Shown x y ∧ Covers Shown child y)
    (h : place (sameName · child) (fun sibling => merge sibling child) child xs = .ok siblings) :
    CoversAll Shown xs siblings ∧ ∃ s ∈ siblings, Covers Shown child s := by
  rw [coversAll_iff]
  rcases place_eq_ok.1 h with ⟨-, rfl⟩ | ⟨before, x, after, y, rfl, -, hx, hy, rfl⟩
  · exact ⟨fun w hw => ⟨w, List.mem_append_left _ hw, .refl Shown.refl w⟩,
      child, by simp, .refl Shown.refl child⟩
  · obtain ⟨hxy, hchild⟩ := hmerge x y hx hy
    refine ⟨fun w hw => ?_, y, by simp, hchild⟩
    rw [List.mem_append, List.mem_cons] at hw
    rcases hw with hw | rfl | hw
    · exact ⟨w, by simp [hw], .refl Shown.refl w⟩
    · exact ⟨y, by simp, hxy⟩
    · exact ⟨w, by simp [hw], .refl Shown.refl w⟩

/-- A node with expansions added shows what was there and what is new. -/
theorem mergeAll_covers {n m : Node} {children : List Node}
    (hmerge : ∀ child ∈ children, ∀ x y, sameName x child = true → merge x child = .ok y →
      Covers Shown x y ∧ Covers Shown child y)
    (h : n.mergeAll children = .ok m) :
    CoversAll Shown n.expand m.expand ∧ CoversAll Shown children m.expand := by
  induction children generalizing n with
  | nil =>
    rw [mergeAll_nil] at h
    cases h
    exact ⟨coversAll_iff.2 fun x hx => ⟨x, hx, .refl Shown.refl x⟩, trivial⟩
  | cons child rest ih =>
    rw [List.forall_mem_cons] at hmerge
    obtain ⟨siblings, hplace, hrest⟩ := mergeAll_cons_eq_ok.1 h
    obtain ⟨hsiblings, hcovered⟩ := ih hmerge.2 hrest
    obtain ⟨hold, sibling, hsibling, hnew⟩ := place_covers hmerge.1 hplace
    obtain ⟨d, hd, hdcovers⟩ := coversAll_iff.1 hsiblings sibling hsibling
    exact ⟨hold.trans @Shown.trans hsiblings, ⟨d, hd, hnew.trans @Shown.trans hdcovers⟩, hcovered⟩

/-- A merged node shows, at every level, what both nodes show there. -/
theorem merge_covers {ours theirs merged : Node} (hname : sameName ours theirs = true)
    (h : merge ours theirs = .ok merged) :
    Covers Shown ours merged ∧ Covers Shown theirs merged := by
  induction theirs using expand_induction generalizing ours merged with
  | step theirs ih =>
    have hshown := shown_of_merge hname h
    obtain ⟨-, m, hall, rfl⟩ := merge_eq_ok.1 h
    have hcovered := mergeAll_covers (fun child hmem x y hx hy => ih child hmem hx hy) hall
    exact ⟨covers_iff.2 ⟨hshown.1, coversAll_iff.1 hcovered.1⟩,
      covers_iff.2 ⟨hshown.2, coversAll_iff.1 hcovered.2⟩⟩

/-! ### What is set aside -/

/-- Merging the second node into the first loses no filter and no lack of duplicates. -/
structure Lossless (ours theirs : Node) : Prop where
  filter : ours.query.FilterKept theirs.query
  distinct : theirs.query.distinct = true → ours.query.distinct = true

/-- The options of both nodes are in force at the merged one if nothing is lost. -/
theorem inForce_iff {ours theirs merged : Node} (hname : sameName ours theirs = true)
    (h : merge ours theirs = .ok merged) :
    InForce ours merged ∧ InForce theirs merged ↔ Lossless ours theirs := by
  have hagree : Agree ours theirs := conflict?_eq_none.1 (merge_eq_ok.1 h).1
  obtain ⟨hours, htheirs⟩ := shown_of_merge hname h
  have hquery := (merge_options h).1
  have hkept := enforced_mergeQuery_iff hagree.filter_alike
  have hdistinct : merged.query.distinct = ours.query.distinct := by
    rw [hquery, mergeQuery_eq]
  rw [← hquery] at hkept
  constructor
  · rintro ⟨hfirst, hsecond⟩
    exact ⟨hkept.1 ⟨hfirst.enforced, hsecond.enforced⟩, fun hd => hdistinct ▸ hsecond.distinct hd⟩
  · rintro ⟨hfilter, hrows⟩
    obtain ⟨hfirst, hsecond⟩ := hkept.2 hfilter
    refine ⟨⟨hours, hfirst, fun hd => hdistinct.trans hd⟩, htheirs, hsecond, fun hd => ?_⟩
    exact hdistinct.trans (hrows hd)

/-- A node is covered by one that has each of its expansions, or one that covers it where another
list has one of its name. -/
theorem covers_of_joined {R : Node → Node → Prop} (hrefl : ∀ n, R n n) {n m : Node}
    {others : List Node} (hhere : R n m)
    (hshared : ∀ x ∈ n.expand, ∀ y ∈ others, sameName x y = true → ∃ z ∈ m.expand, Covers R x z)
    (halone : ∀ x ∈ n.expand, (∀ y ∈ others, sameName x y = false) → x ∈ m.expand) :
    Covers R n m := by
  refine covers_iff.2 ⟨hhere, fun x hx => ?_⟩
  by_cases hname : ∃ y ∈ others, sameName x y = true
  · obtain ⟨y, hy, hsame⟩ := hname
    exact hshared x hx y hy hsame
  · exact ⟨x, halone x hx (by simpa using hname), .refl hrefl x⟩

/-- Where names are not repeated, an expansion is covered by the one of its name. -/
theorem Covers.onto {n m x z : Node} {name : String} (h : Covers InForce n m)
    (hapart : Apart m.expand) (hx : x ∈ n.expand) (hxname : x.name? = some name)
    (hz : z ∈ m.expand) (hzname : z.name? = some name) : Covers InForce x z := by
  obtain ⟨d, hd, hxd⟩ := (covers_iff.1 h).2 x hx
  have hdname : d.name? = some name := (covers_iff.1 hxd).1.name.trans hxname
  obtain rfl := hapart.eq hd hz (sameName_iff.2 ⟨name, hdname, hzname⟩)
  exact hxd

/-- The options of both nodes are in force at every level if nothing is lost at the top and those of
expansions of one name are in force where they are merged. -/
theorem covers_inForce_level_iff {ours theirs merged : Node} (hname : sameName ours theirs = true)
    (hours : Apart ours.expand) (htheirs : Apart theirs.expand) (hmerged : Apart merged.expand)
    (h : merge ours theirs = .ok merged) :
    Covers InForce ours merged ∧ Covers InForce theirs merged ↔
      Lossless ours theirs ∧ ∀ x ∈ ours.expand, ∀ y ∈ theirs.expand, sameName x y = true →
        ∀ z, merge x y = .ok z → Covers InForce x z ∧ Covers InForce y z := by
  have hmem := mem_merge hours htheirs h
  constructor
  · rintro ⟨hfirst, hsecond⟩
    refine ⟨(inForce_iff hname h).1 ⟨(covers_iff.1 hfirst).1, (covers_iff.1 hsecond).1⟩, ?_⟩
    intro x hx y hy hsame z hz
    obtain ⟨name, hxname, hyname⟩ := sameName_iff.1 hsame
    have hzmem : z ∈ merged.expand := (hmem z).2 (.inl ⟨x, hx, y, hy, hsame, hz⟩)
    have hzname : z.name? = some name := (merge_name hz).trans hxname
    exact ⟨hfirst.onto hmerged hx hxname hzmem hzname, hsecond.onto hmerged hy hyname hzmem hzname⟩
  · rintro ⟨hlossless, hjoined⟩
    obtain ⟨hfirst, hsecond⟩ := (inForce_iff hname h).2 hlossless
    have hboth : ∀ x ∈ ours.expand, ∀ y ∈ theirs.expand, sameName x y = true →
        ∃ z ∈ merged.expand, Covers InForce x z ∧ Covers InForce y z := by
      intro x hx y hy hsame
      obtain ⟨z, hz⟩ := ((merge_ok_iff hours htheirs).1 ⟨merged, h⟩).2 x hx y hy hsame
      exact ⟨z, (hmem z).2 (.inl ⟨x, hx, y, hy, hsame, hz⟩), hjoined x hx y hy hsame z hz⟩
    constructor
    · refine covers_of_joined InForce.refl hfirst (fun x hx y hy hsame => ?_) fun x hx hnone =>
        (hmem x).2 (.inr (.inl ⟨hx, hnone⟩))
      obtain ⟨z, hz, hcovers, -⟩ := hboth x hx y hy hsame
      exact ⟨z, hz, hcovers⟩
    · refine covers_of_joined InForce.refl hsecond (fun y hy x hx hsame => ?_) fun y hy hnone =>
        (hmem y).2 (.inr (.inr ⟨hy, fun x hx => (sameName_comm x y).trans (hnone x hx)⟩))
      obtain ⟨z, hz, -, hcovers⟩ := hboth x hx y hy ((sameName_comm x y).trans hsame)
      exact ⟨z, hz, hcovers⟩

/-- The options of both nodes are in force at every level if nothing is lost at any path of both. -/
theorem covers_inForce_iff {ours theirs merged : Node} (hname : sameName ours theirs = true)
    (hours : ours.Unrepeated) (htheirs : theirs.Unrepeated)
    (h : merge ours theirs = .ok merged) :
    Covers InForce ours merged ∧ Covers InForce theirs merged ↔
      ∀ path x y, At path ours x → At path theirs y → Lossless x y := by
  induction theirs using expand_induction generalizing ours merged with
  | step theirs ih =>
    obtain ⟨hoursHere, hoursBelow⟩ := everywhere_iff.1 hours
    obtain ⟨htheirsHere, htheirsBelow⟩ := everywhere_iff.1 htheirs
    have hmerged : Apart merged.expand :=
      (everywhere_iff.1 (keeps_apart.merge hours htheirs h)).1
    rw [covers_inForce_level_iff hname hoursHere htheirsHere hmerged h]
    constructor
    · rintro ⟨hlossless, hjoined⟩ path u v hu hv
      cases path with
      | nil =>
        cases hu
        cases hv
        exact hlossless
      | cons name path =>
        obtain ⟨x, hx, hxname, hu⟩ := hu
        obtain ⟨y, hy, hyname, hv⟩ := hv
        have hsame := sameName_iff.2 ⟨name, hxname, hyname⟩
        obtain ⟨z, hz⟩ :=
          ((merge_ok_iff hoursHere htheirsHere).1 ⟨merged, h⟩).2 x hx y hy hsame
        have hiff := ih y hy hsame (hoursBelow x hx) (htheirsBelow y hy) hz
        exact hiff.1 (hjoined x hx y hy hsame z hz) path u v hu hv
    · intro hlossless
      refine ⟨hlossless [] ours theirs rfl rfl, fun x hx y hy hsame z hz => ?_⟩
      obtain ⟨name, hxname, hyname⟩ := sameName_iff.1 hsame
      have hiff := ih y hy hsame (hoursBelow x hx) (htheirsBelow y hy) hz
      refine hiff.2 fun path u v hu hv => ?_
      exact hlossless (name :: path) u v ⟨x, hx, hxname, hu⟩ ⟨y, hy, hyname, hv⟩

/-- A node has set no filter aside, and keeps duplicates. -/
structure Plain (n : Node) : Prop where
  prepared : n.query.prepared = none
  distinct : n.query.distinct = false

/-- Merging plain nodes gives plain nodes. -/
theorem keeps_plain : Keeps Plain where
  grown hn _ _ _ := ⟨hn.prepared, hn.distinct⟩
  merged := by
    intro n theirs hn _
    constructor
    · show (mergeQuery n.query theirs.query).prepared = none
      rw [mergeQuery_eq]
      exact hn.prepared
    · show (mergeQuery n.query theirs.query).distinct = false
      rw [mergeQuery_eq]
      exact hn.distinct

/-- What plain nodes show is all that is in force. -/
theorem Covers.inForce {n m : Node} (h : Covers Shown n m) (hn : Everywhere Plain n)
    (hm : Everywhere Plain m) : Covers InForce n m := by
  induction n using expand_induction generalizing m with
  | step n ih =>
    obtain ⟨hshown, hchildren⟩ := covers_iff.1 h
    obtain ⟨hnHere, hnBelow⟩ := everywhere_iff.1 hn
    obtain ⟨hmHere, hmBelow⟩ := everywhere_iff.1 hm
    refine covers_iff.2 ⟨⟨hshown, fun e he => ?_, fun hd => ?_⟩, fun child hchild => ?_⟩
    · rw [Query.effectiveFilter_of_unprepared hnHere.prepared] at he
      rw [Query.effectiveFilter_of_unprepared hmHere.prepared]
      exact hshown.filter e he
    · rw [hnHere.distinct] at hd
      cases hd
    · obtain ⟨d, hd, hcovers⟩ := hchildren child hchild
      exact ⟨d, hd, ih child hchild hcovers (hnBelow child hchild) (hmBelow d hd)⟩

end OData.Node

namespace OData

open Node

/-- An expansion that is added where one of its name stands conflicts with it, or is merged into it.
The merged node shows at every level what both nodes show there.  Every option of both is in force
there as well, the filters that were set aside and the lack of duplicates among them, where nothing
is set aside and duplicates are kept, and otherwise, unless names are repeated, just where no two
nodes at a path of both make merging lose one. -/
theorem merged_in_force_iff {n ours theirs : Node} {before after : List Node}
    (hn : n.expand = before ++ ours :: after)
    (hbefore : ∀ x ∈ before, sameName x theirs = false) (hname : sameName ours theirs = true) :
    (∃ e, n.expandWith theirs = .error e ∧ IsConflict theirs e) ∨
    ∃ merged, n.expandWith theirs = .ok { n with expand := before ++ merged :: after } ∧
      (Covers Shown ours merged ∧ Covers Shown theirs merged) ∧
      (Everywhere Plain ours → Everywhere Plain theirs →
        Covers InForce ours merged ∧ Covers InForce theirs merged) ∧
      (ours.Unrepeated → theirs.Unrepeated →
        (Covers InForce ours merged ∧ Covers InForce theirs merged ↔
          ∀ path x y, At path ours x → At path theirs y → Lossless x y)) := by
  rw [expandWith_onto hn hbefore hname]
  cases h : merge ours theirs with
  | error e => exact .inl ⟨e, rfl, merge_eq_error hname h⟩
  | ok merged =>
    obtain ⟨hours, htheirs⟩ := merge_covers hname h
    refine .inr ⟨merged, rfl, ⟨hours, htheirs⟩, fun hplain hplain' => ?_, fun hapart hapart' => ?_⟩
    · have hmerged := keeps_plain.merge hplain hplain' h
      exact ⟨hours.inForce hplain hmerged, htheirs.inForce hplain' hmerged⟩
    · exact covers_inForce_iff hname hapart hapart' h

/-- Five items, merged with those in stock. -/
theorem merged_in_force_iff_items :
    let inStock : Expr := .compare .gt (.field "stock") (.literal (.int 0))
    let ours := ofQuery ((navigation "items").query.take 5)
    let theirs := ofQuery ((navigation "items").query.whereExpr inStock)
    let n := { navigation "Order" with expand := [ours] }
    n.expand = [] ++ ours :: [] ∧ (∀ x ∈ ([] : List Node), sameName x theirs = false) ∧
      sameName ours theirs = true ∧
      ∃ merged, n.expandWith theirs = .ok { n with expand := [merged] } ∧
        Covers InForce ours merged ∧ Covers InForce theirs merged := by
  intro inStock ours theirs n
  have hn : n.expand = [] ++ ours :: [] := rfl
  have hbefore : ∀ x ∈ ([] : List Node), sameName x theirs = false :=
    fun x hx => absurd hx List.not_mem_nil
  have hname : sameName ours theirs = true := by decide
  have hplain : ∀ q : Query, q.prepared = none → q.distinct = false →
      Everywhere Plain (ofQuery q) := fun q hprepared hdistinct =>
    everywhere_iff.2 ⟨⟨hprepared, hdistinct⟩, fun c hc => absurd hc List.not_mem_nil⟩
  refine ⟨hn, hbefore, hname, ?_⟩
  rcases merged_in_force_iff hn hbefore hname with ⟨e, he, -⟩ | ⟨merged, hm, -, hkept, -⟩
  · cases he
  · exact ⟨merged, hm, hkept (hplain _ rfl rfl) (hplain _ rfl rfl)⟩

/-- A condition that was set aside on the node that is merged is in force no more. -/
theorem merging_loses_condition_set_aside :
    let inStock : Expr := .compare .gt (.field "stock") (.literal (.int 0))
    let theirs := ofQuery (((navigation "items").query.whereExpr inStock).prepare false)
    ∃ merged, (navigation "Order").expandAll [navigation "items", theirs]
        = ({ navigation "Order" with expand := [merged] }, .ok ()) ∧
      theirs.query.effectiveFilter = some inStock ∧ merged.query.effectiveFilter = none := by
  exact ⟨_, rfl, rfl, rfl⟩

end OData

end Polyquery
