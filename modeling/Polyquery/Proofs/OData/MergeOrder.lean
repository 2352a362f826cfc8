import Polyquery.Proofs.OData.Merging
import Polyquery.Proofs.OData.RegularNodes

/-!
# The order of merging

Expansions that were read from options give the same node in whichever order they are added, up to
the order of what is unordered.

* `exists_perm_forall₂` - lists with keys of their own are the same up to order;
* `Query.Alike`, `Node.Alike` - equal up to the order of fields and expansions;
* `FieldsAgree` - a name is projected with one expression at each path;
* `Parsed` - the nodes that are read;
* `merge_tally` - merging two nodes either way fails, or gives nodes that are alike;
* `expandWith_tally` - so does adding two nodes of one collection in either order;
* `expansions_in_any_order` - the expansions that were read, none of which has an alias;
* `queries_in_any_order` - the nodes that were read for one collection, under an alias or not.
-/

namespace Polyquery

/-! ### Up to order -/

/-- Two lists whose items have keys of their own are the same up to order and a relation, if the
items of one key are related. -/
theorem exists_perm_forall₂ {α κ : Type} (key : α → κ) {R : α → α → Prop} {xs ys : List α}
    (hxs : (xs.map key).Nodup) (hys : (ys.map key).Nodup)
    (hkeys : ∀ x ∈ xs, ∃ y ∈ ys, key y = key x)
    (hrel : ∀ y ∈ ys, ∃ x ∈ xs, key x = key y ∧ R x y) :
    ∃ l, xs.Perm l ∧ List.Forall₂ R l ys := by
  induction ys generalizing xs with
  | nil =>
    cases xs with
    | nil => exact ⟨[], .nil, .nil⟩
    | cons x xs =>
      obtain ⟨y, hy, -⟩ := hkeys x List.mem_cons_self
      exact absurd hy List.not_mem_nil
  | cons y ys ih =>
    obtain ⟨x, hx, hxy, hR⟩ := hrel y List.mem_cons_self
    obtain ⟨before, after, rfl⟩ := List.append_of_mem hx
    have hperm : (before ++ x :: after).Perm (x :: (before ++ after)) := List.perm_middle
    rw [(hperm.map key).nodup_iff, List.map_cons, List.nodup_cons] at hxs
    rw [List.map_cons, List.nodup_cons] at hys
    obtain ⟨l, hl, hall⟩ := @ih (before ++ after) hxs.2 hys.2
      (by
        intro w hw
        obtain ⟨v, hv, hvw⟩ := hkeys w (hperm.mem_iff.2 (List.mem_cons_of_mem x hw))
        rcases List.mem_cons.1 hv with rfl | hv
        · refine absurd ?_ hxs.1
          rw [hxy, hvw]
          exact List.mem_map_of_mem hw
        · exact ⟨v, hv, hvw⟩)
      (by
        intro v hv
        obtain ⟨w, hw, hwv, hRv⟩ := hrel v (List.mem_cons_of_mem y hv)
        rcases List.mem_cons.1 (hperm.mem_iff.1 hw) with rfl | hw
        · refine absurd ?_ hys.1
          rw [← hxy, hwv]
          exact List.mem_map_of_mem hv
        · exact ⟨w, hw, hwv, hRv⟩)
    exact ⟨x :: l, hperm.trans (hl.cons x), .cons hR hall⟩

/-- The rows that a bound stands for: none unless it is positive. -/
def boundedRows (k : Int64) : Int64 := if 0 < k then k else 0

/-- Two queries are equal up to the order of fields, up to bounds that bound nothing, and up to
numerical equality of constants in what is projected, filtered, sorted and grouped. -/
structure Query.Alike (p q : Query) : Prop where
  fields : ∃ l, p.fields.Perm l ∧ List.Forall₂ (Same Field.eqv) l q.fields
  filter : Same Expr.eqvOption p.filter q.filter
  ordering : Same (Query.eqvBy OrderTerm.eqv) p.ordering q.ordering
  grouping : Same (Query.eqvBy Expr.eqv) p.grouping q.grouping
  limit : boundedRows p.limit = boundedRows q.limit
  offset : boundedRows p.offset = boundedRows q.offset
  others : { q with
    fields := p.fields
    filter := p.filter
    ordering := p.ordering
    grouping := p.grouping
    limit := p.limit
    offset := p.offset } = p

theorem Query.Alike.refl (q : Query) : q.Alike q where
  fields := ⟨q.fields, .refl _, List.forall₂_same.2 fun f _ => .refl _ f⟩
  filter := .refl _ _
  ordering := .refl _ _
  grouping := .refl _ _
  limit := rfl
  offset := rfl
  others := by cases q; rfl

namespace OData.Node

/-- Two nodes are equal up to the order of fields and expansions at each level, up to bounds that
bound nothing, and up to numerical equality of constants. -/
inductive Alike : Node → Node → Prop where
  | mk {m n : Node} (l : List Node) : m.query.Alike n.query → m.levels = n.levels →
      m.count = n.count → m.expand.Perm l → List.Forall₂ Alike l n.expand → Alike m n

theorem Alike.refl (n : Node) : n.Alike n := by
  induction n using Node.induction with
  | mk query expand levels count ih =>
    exact .mk expand (.refl query) rfl rfl (.refl expand) (List.forall₂_same.2 ih)

/-- No name is projected with two different expressions at a path of both nodes. -/
def FieldsAgree (a b : Node) : Prop :=
  ∀ path x y, At path a x → At path b y →
    ∀ f ∈ x.query.fields, ∀ g ∈ y.query.fields, f.name = g.name → Same Field.eqv f g

theorem FieldsAgree.inside {a b x y : Node} (h : FieldsAgree a b) (hx : x ∈ a.expand)
    (hy : y ∈ b.expand) (hname : sameName x y = true) : FieldsAgree x y := by
  obtain ⟨name, hxname, hyname⟩ := sameName_iff.1 hname
  intro path u v hu hv
  exact h (name :: path) u v ⟨x, hx, hxname, hu⟩ ⟨y, hy, hyname, hv⟩

/-- Siblings that are apart and have names have different names. -/
theorem Apart.nodup_names {siblings : List Node} (h : Apart siblings)
    (hnamed : ∀ n ∈ siblings, n.IsNavigation) : (siblings.map name?).Nodup := by
  refine List.pairwise_map.2 ((apart_iff.1 h).imp_of_mem ?_)
  intro a b ha _ hab heq
  obtain ⟨name, hname⟩ := Option.ne_none_iff_exists'.1 (hnamed a ha).name
  rw [sameName_iff.2 ⟨name, hname, heq ▸ hname⟩] at hab
  cases hab

/-! ### Options taken over -/

theorem boundedRows_takenOver {a b : Int64} (h : 0 < a → 0 < b → a = b) :
    boundedRows (if 0 < b then b else a) = boundedRows (if 0 < a then a else b) := by
  by_cases ha : 0 < a
  · by_cases hb : 0 < b
    · rw [if_pos hb, if_pos ha, h ha hb]
    · rw [if_neg hb, if_pos ha]
  · by_cases hb : 0 < b
    · rw [if_pos hb, if_neg ha]
    · rw [if_neg hb, if_neg ha, boundedRows, boundedRows, if_neg ha, if_neg hb]

/-- Of two lists that are equal if both are there, it does not matter which is taken. -/
theorem same_takenOver {α : Type} {eq : α → α → Bool} {xs ys : List α}
    (h : xs ≠ [] → ys ≠ [] → Query.eqvBy eq ys xs = true) :
    Same (Query.eqvBy eq) (if ys.isEmpty then xs else ys) (if xs.isEmpty then ys else xs) := by
  cases xs with
  | nil => cases ys <;> exact .refl _ _
  | cons x xs =>
    cases ys with
    | nil => exact .refl _ _
    | cons y ys => exact .inr (h (List.cons_ne_nil x xs) (List.cons_ne_nil y ys))

/-- Fields are the same up to order, whichever are merged into which. -/
theorem mergeFields_alike {fields more : List Field} (hfields : (fields.map Field.name).Nodup)
    (hmore : (more.map Field.name).Nodup)
    (h : ∀ f ∈ fields, ∀ g ∈ more, f.name = g.name → Same Field.eqv f g) :
    ∃ l, (Query.mergeFields fields more).Perm l ∧
      List.Forall₂ (Same Field.eqv) l (Query.mergeFields more fields) := by
  refine exists_perm_forall₂ Field.name (Query.mergeFields_nodup hfields more)
    (Query.mergeFields_nodup hmore fields) (fun f hf => ?_) (fun g hg => ?_)
  · have hname := List.mem_map_of_mem (f := Field.name) hf
    rw [Query.mem_mergeFields_names, or_comm, ← Query.mem_mergeFields_names] at hname
    exact List.mem_map.1 hname
  · rcases (Query.mem_mergeFields hmore hfields).1 hg with hg | ⟨hg, -⟩
    · by_cases hname : g.name ∈ more.map Field.name
      · obtain ⟨f, hf, hfg⟩ := List.mem_map.1 hname
        refine ⟨f, (Query.mem_mergeFields hfields hmore).2 (.inl hf), hfg, ?_⟩
        exact (h g hg f hf hfg.symm).symm Field.isPartialEq
      · exact ⟨g, (Query.mem_mergeFields hfields hmore).2 (.inr ⟨hg, hname⟩), rfl, .refl _ g⟩
    · exact ⟨g, (Query.mem_mergeFields hfields hmore).2 (.inl hg), rfl, .refl _ g⟩

/-- Queries that agree are merged to queries that are alike. -/
theorem mergeQuery_alike {a b : Node} (ha : OptionsOnly a.query) (hb : OptionsOnly b.query)
    (hcollection : a.query.collection = b.query.collection) (hagree : Agree a b)
    (hfields : ∀ f ∈ a.query.fields, ∀ g ∈ b.query.fields, f.name = g.name → Same Field.eqv f g) :
    (mergeQuery a.query b.query).Alike (mergeQuery b.query a.query) := by
  rw [mergeQuery_eq, mergeQuery_eq]
  constructor
  · exact mergeFields_alike ha.fieldNames hb.fieldNames hfields
  · show Same Expr.eqvOption (b.query.filter <|> a.query.filter)
      (a.query.filter <|> b.query.filter)
    cases hf : a.query.filter with
    | none => cases b.query.filter <;> exact .refl _ _
    | some f =>
      cases hg : b.query.filter with
      | none => exact .refl _ _
      | some g =>
        refine .inr (show Expr.eqvOption (some g) (some f) = true from ?_)
        rw [Expr.eqvOption]
        exact hagree.symm.filter g f hg hf
  · exact same_takenOver fun hxs hys => hagree.symm.ordering hys hxs
  · exact same_takenOver fun hxs hys => hagree.symm.grouping hys hxs
  · exact boundedRows_takenOver hagree.limit
  · exact boundedRows_takenOver hagree.offset
  · simp [hcollection, ha.prepared, hb.prepared, ha.lookups, hb.lookups, ha.distinct, hb.distinct,
      ha.pending, hb.pending, ha.connective, hb.connective, ha.staged, hb.staged, ha.resolvers,
      hb.resolvers]

/-! ### Merging either way -/

/-- Two computations both fail, or give nodes that are alike. -/
structure Tally (x y : QueryResult Node) : Prop where
  ok_iff : (∃ m, x = .ok m) ↔ ∃ m, y = .ok m
  alike : ∀ m m', x = .ok m → y = .ok m' → m.Alike m'

/-- Both computations fail, or both succeed. -/
theorem Tally.fail_or_alike {x y : QueryResult Node} (h : Tally x y) :
    ((∃ e, x = .error e) ∧ ∃ e, y = .error e) ∨
      ∃ m m', x = .ok m ∧ y = .ok m' ∧ m.Alike m' := by
  cases x with
  | error e =>
    cases y with
    | error e' => exact .inl ⟨⟨e, rfl⟩, e', rfl⟩
    | ok m' =>
      obtain ⟨m, hm⟩ := h.ok_iff.2 ⟨m', rfl⟩
      cases hm
  | ok m =>
    obtain ⟨m', rfl⟩ := h.ok_iff.1 ⟨m, rfl⟩
    exact .inr ⟨m, m', rfl, rfl, h.alike m m' rfl rfl⟩

/-- Nodes that are alike stay so inside a node. -/
theorem Tally.map {x y : QueryResult Node} (h : Tally x y) {f : Node → Node}
    (hf : ∀ m m', m.Alike m' → (f m).Alike (f m')) : Tally (x.map f) (y.map f) := by
  rcases h.fail_or_alike with ⟨⟨e, rfl⟩, e', rfl⟩ | ⟨m, m', rfl, rfl, halike⟩
  · exact ⟨by simp [Except.map], by simp [Except.map]⟩
  · refine ⟨⟨fun _ => ⟨f m', rfl⟩, fun _ => ⟨f m, rfl⟩⟩, fun k k' hk hk' => ?_⟩
    cases hk
    cases hk'
    exact hf m m' halike

/-- Joining the other way gives an expansion of the same name, related as merging either way
relates expansions. -/
theorem Joined.swap {R : Node → Node → Prop} {xs ys : List Node} {z : Node} (h : Joined xs ys z)
    (hmerge : ∀ x ∈ xs, ∀ y ∈ ys, sameName x y = true → merge x y = .ok z →
      ∃ w, merge y x = .ok w ∧ R w z)
    (hrefl : R z z) : ∃ w, Joined ys xs w ∧ w.name? = z.name? ∧ R w z := by
  rcases h with ⟨x, hx, y, hy, hsame, hz⟩ | ⟨hz, hnone⟩ | ⟨hz, hnone⟩
  · obtain ⟨w, hw, hR⟩ := hmerge x hx y hy hsame hz
    rw [sameName_comm] at hsame
    refine ⟨w, .inl ⟨y, hy, x, hx, hsame, hw⟩, ?_, hR⟩
    rw [merge_name hw, merge_name hz, name_eq_of_sameName hsame]
  · refine ⟨z, .inr (.inr ⟨hz, fun y hy => ?_⟩), rfl, hrefl⟩
    rw [sameName_comm]
    exact hnone y hy
  · refine ⟨z, .inr (.inl ⟨hz, fun x hx => ?_⟩), rfl, hrefl⟩
    rw [sameName_comm]
    exact hnone x hx

/-- The expansions of two merged nodes are alike up to order, if merging either way gives nodes that
are alike. -/
theorem joined_alike {xs ys zs ws : List Node}
    (hpair : ∀ x ∈ xs, ∀ y ∈ ys, sameName x y = true → Tally (merge x y) (merge y x))
    (hzs : ∀ z, z ∈ zs ↔ Joined xs ys z) (hws : ∀ w, w ∈ ws ↔ Joined ys xs w)
    (hzsNames : (zs.map name?).Nodup) (hwsNames : (ws.map name?).Nodup) :
    ∃ l, zs.Perm l ∧ List.Forall₂ Alike l ws := by
  refine exists_perm_forall₂ name? hzsNames hwsNames (fun z hz => ?_) (fun w hw => ?_)
  · obtain ⟨w, hw, hname, -⟩ := @Joined.swap (fun _ _ => True) _ _ _ ((hzs z).1 hz)
      (fun x hx y hy hsame hz => by
        obtain ⟨w, hw⟩ := (hpair x hx y hy hsame).ok_iff.1 ⟨z, hz⟩
        exact ⟨w, hw, trivial⟩) trivial
    exact ⟨w, (hws w).2 hw, hname⟩
  · obtain ⟨z, hz, hname, halike⟩ := ((hws w).1 hw).swap
      (fun y hy x hx hsame hw => by
        rw [sameName_comm] at hsame
        obtain ⟨z, hz⟩ := (hpair x hx y hy hsame).ok_iff.2 ⟨w, hw⟩
        exact ⟨z, hz, (hpair x hx y hy hsame).alike z w hz hw⟩) (Alike.refl w)
    exact ⟨z, (hzs z).2 hz, hname, halike⟩

theorem Agree.levels_comm {a b : Node} (h : Agree a b) :
    (a.levels <|> b.levels) = (b.levels <|> a.levels) := by
  cases hk : a.levels with
  | none => cases b.levels <;> rfl
  | some k =>
    cases hl : b.levels with
    | none => rfl
    | some l => rw [h.levels k l hk hl]

/-- Merging two nodes that were read either way fails, or gives nodes that are alike. -/
theorem merge_tally {a b : Node} (ha : Everywhere Regular a) (hb : Everywhere Regular b)
    (hcollection : a.query.collection = b.query.collection) (hfields : FieldsAgree a b) :
    Tally (merge a b) (merge b a) := by
  induction b using expand_induction generalizing a with
  | step b ih =>
    obtain ⟨haHere, haBelow⟩ := everywhere_iff.1 ha
    obtain ⟨hbHere, hbBelow⟩ := everywhere_iff.1 hb
    have hpair : ∀ x ∈ a.expand, ∀ y ∈ b.expand, sameName x y = true →
        Tally (merge x y) (merge y x) := by
      intro x hx y hy hsame
      refine ih y hy (haBelow x hx) (hbBelow y hy) ?_ (hfields.inside hx hy hsame)
      exact (haHere.named x hx).collection_eq (hbHere.named y hy) (name_eq_of_sameName hsame)
    have hagree : Agree a b ↔ Agree b a := ⟨.symm, .symm⟩
    constructor
    · rw [merge_ok_iff haHere.apart hbHere.apart, merge_ok_iff hbHere.apart haHere.apart, hagree]
      refine and_congr_right fun _ => ⟨fun h y hy x hx hsame => ?_, fun h x hx y hy hsame => ?_⟩
      · rw [sameName_comm] at hsame
        exact (hpair x hx y hy hsame).ok_iff.1 (h x hx y hy hsame)
      · refine (hpair x hx y hy hsame).ok_iff.2 (h y hy x hx ?_)
        rw [sameName_comm]
        exact hsame
    · intro m m' hm hm'
      have hab : Agree a b := ((merge_ok_iff haHere.apart hbHere.apart).1 ⟨m, hm⟩).1
      have hmRegular := (everywhere_iff.1 (keeps_regular.merge ha hb hm)).1
      have hmRegular' := (everywhere_iff.1 (keeps_regular.merge hb ha hm')).1
      obtain ⟨hquery, hlevels, hcount⟩ := merge_options hm
      obtain ⟨hquery', hlevels', hcount'⟩ := merge_options hm'
      obtain ⟨l, hperm, hall⟩ := joined_alike hpair (mem_merge haHere.apart hbHere.apart hm)
        (mem_merge hbHere.apart haHere.apart hm') (hmRegular.apart.nodup_names hmRegular.named)
        (hmRegular'.apart.nodup_names hmRegular'.named)
      refine .mk l ?_ ?_ ?_ hperm hall
      · rw [hquery, hquery']
        exact mergeQuery_alike haHere.options hbHere.options hcollection hab
          (hfields [] a b rfl rfl)
      · rw [hlevels, hlevels', hab.levels_comm]
      · rw [hcount, hcount', Bool.or_comm]

theorem expandWith_of_leaf {n child : Node} (hn : n.expand = []) :
    n.expandWith child = .ok { n with expand := [child] } := by
  rw [expandWith_eq, hn]
  rfl

/-- Two expansions of one name, added to a node without expansions. -/
theorem expandWith_twice {n a b : Node} (hn : n.expand = []) (hname : sameName a b = true) :
    n.expandWith a >>= (·.expandWith b) = (merge a b).map fun m => { n with expand := [m] } := by
  rw [expandWith_of_leaf hn]
  exact @expandWith_onto { n with expand := [a] } a b [] [] rfl
    (fun x hx => absurd hx List.not_mem_nil) hname

/-- Two regular nodes of one collection, its alias included, are added to a node without expansions
in either order with results that are alike.  The collection is that of the node added first
(`merge_collection`), so under two aliases the orders would differ. -/
theorem expandWith_tally {a b n : Node} (ha : Everywhere Regular a) (hb : Everywhere Regular b)
    (hcollection : a.query.collection = b.query.collection) (hnamed : a.name? ≠ none)
    (hfields : FieldsAgree a b) (hn : n.expand = []) :
    Tally (n.expandWith a >>= (·.expandWith b)) (n.expandWith b >>= (·.expandWith a)) := by
  have hsame : sameName a b = true := by
    obtain ⟨name, hna⟩ := Option.ne_none_iff_exists'.1 hnamed
    refine sameName_iff.2 ⟨name, hna, ?_⟩
    rw [name?, ← hcollection]
    exact hna
  rw [expandWith_twice hn hsame, expandWith_twice hn ((sameName_comm b a).trans hsame)]
  refine (merge_tally ha hb hcollection hfields).map fun m m' halike => ?_
  exact .mk [m] (.refl n.query) rfl rfl (.refl _) (.cons halike .nil)

end OData.Node

namespace OData

open Node

/-- The nodes that are read: the expansions of a text, the node of a collection and its options, a
node after an option, whether the option was applied or not, and the expansions inside.  Nothing
that is read names a collection by an alias. -/
inductive Parsed : Node → Prop where
  | expansion {r : Reader} {text : List Char} {nodes : List Node} {n : Node} :
      r.parseExpand text = .ok nodes → n ∈ nodes → Parsed n
  | query {r : Reader} {name : String} {options : List (String × String)} {n : Node} :
      r.parseQuery (Entity.named name) options = .ok n → Parsed n
  | option {n : Node} (r : Reader) (name value : String) : Parsed n →
      Parsed (r.applyOption n name value).1
  | inside {n child : Node} : Parsed n → child ∈ n.expand → Parsed child

theorem Parsed.isExpansion {n : Node} (h : Parsed n) : n.IsExpansion := by
  induction h with
  | expansion hread hmem => exact Reader.expansions_regular _ _ _ _ hread _ hmem
  | @query r name options n hread =>
    obtain ⟨hregular, hcollection⟩ := r.parseQuery_regular _ _ _ hread
    exact ⟨hregular, name, hcollection⟩
  | option r name value _ ih =>
    obtain ⟨hregular, hsame⟩ := Reader.applyOption_regular r ih.1 name value
    obtain ⟨collection, hcollection⟩ := ih.2
    exact ⟨hregular, collection, hsame.trans hcollection⟩
  | inside _ hmem ih =>
    obtain ⟨hhere, hbelow⟩ := everywhere_iff.1 ih.1
    exact ⟨hbelow _ hmem, hhere.named _ hmem⟩

/-- Two expansions of one name that were read, and that project no name differently, can be added to
a node without expansions in either order or in neither, and either order gives the same node up to
the order of fields and expansions and up to bounds that bound nothing.  The name alone is asked
for, since nothing that is `Parsed` has an alias; for nodes of an aliased collection see
`queries_in_any_order`. -/
theorem expansions_in_any_order {a b n : Node} (ha : Parsed a) (hb : Parsed b)
    (hname : a.name? = b.name?) (hfields : FieldsAgree a b) (hn : n.expand = []) :
    ((∃ e, n.expandWith a >>= (·.expandWith b) = .error e) ∧
      ∃ e, n.expandWith b >>= (·.expandWith a) = .error e) ∨
    ∃ m m', n.expandWith a >>= (·.expandWith b) = .ok m ∧
      n.expandWith b >>= (·.expandWith a) = .ok m' ∧ m.Alike m' := by
  obtain ⟨haRegular, haNamed⟩ := ha.isExpansion
  obtain ⟨hbRegular, hbNamed⟩ := hb.isExpansion
  exact (expandWith_tally haRegular hbRegular (haNamed.collection_eq hbNamed hname) haNamed.name
    hfields hn).fail_or_alike

/-- The first five items with their products, and the numbers of items with their products, two
levels of them, and their suppliers. -/
theorem expansions_in_any_order_items : ∃ a b m m' : Node,
    Reader.parseExpand ⟨.empty, 8⟩ "items($top=5;$expand=product)".toList = .ok [a] ∧
    Reader.parseExpand ⟨.empty, 8⟩ "items($select=sku;$expand=product($levels=2),supplier)".toList
      = .ok [b] ∧
    a.name? = b.name? ∧ FieldsAgree a b ∧ (navigation "Order").expand = [] ∧
    (navigation "Order").expandWith a >>= (·.expandWith b) = .ok m ∧
    (navigation "Order").expandWith b >>= (·.expandWith a) = .ok m' ∧ m.Alike m' := by
  have hfirst : (Reader.parseExpand ⟨.empty, 8⟩ "items($top=5;$expand=product)".toList).toOption.map
      (·.map fun n => (n.name?, n.query.fields.map Field.name,
        n.expand.map fun c => (c.query.fields.map Field.name, c.expand.length)))
      = some [(some "items", [], [([], 0)])] := by decide +kernel
  have hsecond : (Reader.parseExpand ⟨.empty, 8⟩
      "items($select=sku;$expand=product($levels=2),supplier)".toList).toOption.map
      (·.map name?) = some [some "items"] := by decide +kernel
  have hboth : (Reader.parseExpand ⟨.empty, 8⟩ "items($top=5;$expand=product)".toList >>= fun as =>
      Reader.parseExpand ⟨.empty, 8⟩
        "items($select=sku;$expand=product($levels=2),supplier)".toList >>= fun bs =>
      (navigation "Order").expandWith (as.headD default) >>=
        (·.expandWith (bs.headD default))).toOption.isSome = true := by decide +kernel
  obtain ⟨as, hasRead, hshapes⟩ := Option.map_eq_some_iff.1 hfirst
  obtain ⟨bs, hbsRead, hnames⟩ := Option.map_eq_some_iff.1 hsecond
  obtain ⟨a, rfl, hshape⟩ := List.map_eq_singleton_iff.1 hshapes
  obtain ⟨b, rfl, hbname⟩ := List.map_eq_singleton_iff.1 hnames
  have has := toOption_eq_some hasRead
  have hbs := toOption_eq_some hbsRead
  simp only [Prod.mk.injEq, List.map_eq_nil_iff, List.map_eq_singleton_iff,
    List.length_eq_zero_iff] at hshape
  obtain ⟨haname, hafields, c, hexpand, hcfields, hcexpand⟩ := hshape
  have hname : a.name? = b.name? := haname.trans hbname.symm
  have hunprojected : ∀ path x, At path a x → x.query.fields = [] := by
    intro path x hx
    cases path with
    | nil =>
      cases hx
      exact hafields
    | cons name path =>
      obtain ⟨c', hc', -, hx⟩ := hx
      rw [hexpand, List.mem_singleton] at hc'
      subst hc'
      cases path with
      | nil =>
        cases hx
        exact hcfields
      | cons name' path =>
        obtain ⟨d, hd, -⟩ := hx
        rw [hcexpand] at hd
        exact absurd hd List.not_mem_nil
  have hfields : FieldsAgree a b := by
    intro path x y hx _ f hf
    rw [hunprojected path x hx] at hf
    exact absurd hf List.not_mem_nil
  have ha : Parsed a := .expansion has List.mem_cons_self
  have hb : Parsed b := .expansion hbs List.mem_cons_self
  rw [has, hbs] at hboth
  rcases expansions_in_any_order ha hb hname hfields (n := navigation "Order") rfl with
    ⟨⟨e, he⟩, -⟩ | ⟨m, m', hm, hm', halike⟩
  · change ((navigation "Order").expandWith a >>= (·.expandWith b)).toOption.isSome = true at hboth
    rw [he] at hboth
    cases hboth
  · exact ⟨a, b, m, m', has, hbs, hname, hfields, rfl, hm, hm', halike⟩

/-- Two nodes that were read for one collection, under an alias or not, and that project no name
differently, are added to a node without expansions in either order with results that are alike. -/
theorem queries_in_any_order {r r' : Reader} {collection : Entity}
    {options options' : List (String × String)} {a b n : Node}
    (ha : r.parseQuery collection options = .ok a)
    (hb : r'.parseQuery collection options' = .ok b) (hfields : FieldsAgree a b)
    (hn : n.expand = []) :
    Tally (n.expandWith a >>= (·.expandWith b)) (n.expandWith b >>= (·.expandWith a)) := by
  obtain ⟨haRegular, haCollection⟩ := r.parseQuery_regular collection options a ha
  obtain ⟨hbRegular, hbCollection⟩ := r'.parseQuery_regular collection options' b hb
  have hnamed : a.name? ≠ none := by
    rw [name?, haCollection]
    exact Option.some_ne_none _
  exact expandWith_tally haRegular hbRegular (haCollection.trans hbCollection.symm) hnamed hfields
    hn

end OData

end Polyquery
