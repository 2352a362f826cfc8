import Polyquery.Proofs.OData.FailingCalls

/-!
# Siblings stay apart

Expansions of one name are merged, so that of the expansions of a node no two have the same name,
and so on below each of them.

* `Within`, `Everywhere` - the nodes inside a node, and what holds of all of them;
* `Unrepeated`, `AllNamed` - no two named siblings are alike, and no expansion is without a name;
* `place_eq_ok`, `merge_eq_ok` - what placing and merging give;
* `Keeps` - properties of nodes that merging keeps, with `Keeps.merge` and `Keeps.expandWith`;
* `Unrepeated.expandWith`, `Unrepeated.expandPath` - no way to add expansions repeats a sibling.
-/

namespace Polyquery.OData.Node

/-! ### Nodes inside a node -/

/-- Induction over a node by its expansions. -/
theorem expand_induction {P : Node → Prop} (step : ∀ n, (∀ child ∈ n.expand, P child) → P n)
    (n : Node) : P n :=
  Node.induction (fun _ _ _ _ ih => step _ ih) n

/-- A node stands at some level inside another, or is that node. -/
inductive Within (n : Node) : Node → Prop where
  | self : Within n n
  | expansion {m child : Node} : Within n m → child ∈ m.expand → Within n child

theorem Within.inside {n child m : Node} (hchild : child ∈ n.expand) (h : Within child m) :
    Within n m := by
  induction h with
  | self => exact .expansion .self hchild
  | expansion _ hmem ih => exact .expansion ih hmem

theorem within_iff {n m : Node} : Within n m ↔ m = n ∨ ∃ child ∈ n.expand, Within child m := by
  constructor
  · intro h
    induction h with
    | self => exact .inl rfl
    | @expansion parent child _ hmem ih =>
      right
      rcases ih with rfl | ⟨first, hfirst, hinside⟩
      · exact ⟨child, hmem, .self⟩
      · exact ⟨first, hfirst, .expansion hinside hmem⟩
  · rintro (rfl | ⟨child, hchild, h⟩)
    · exact .self
    · exact h.inside hchild

/-- Every node inside a node has a property, that node included. -/
def Everywhere (P : Node → Prop) (n : Node) : Prop := ∀ m, Within n m → P m

theorem everywhere_iff {P : Node → Prop} {n : Node} :
    Everywhere P n ↔ P n ∧ ∀ child ∈ n.expand, Everywhere P child := by
  constructor
  · intro h
    exact ⟨h n .self, fun child hchild m hm => h m (hm.inside hchild)⟩
  · rintro ⟨hn, hchildren⟩ m hm
    rcases within_iff.1 hm with rfl | ⟨child, hchild, hinside⟩
    · exact hn
    · exact hchildren child hchild m hinside

theorem Everywhere.imp {P Q : Node → Prop} {n : Node} (h : Everywhere P n)
    (himp : ∀ m, P m → Q m) : Everywhere Q n :=
  fun m hm => himp m (h m hm)

/-- No two siblings that have a name have the same one. -/
def Apart (siblings : List Node) : Prop := (siblings.filterMap name?).Nodup

/-- At no level do two siblings have the same name. -/
def Unrepeated (n : Node) : Prop := Everywhere (fun m => Apart m.expand) n

/-- Every expansion at every level has a name. -/
def AllNamed (n : Node) : Prop := Everywhere (fun m => ∀ child ∈ m.expand, child.name? ≠ none) n

/-! ### Placing, adding and merging -/

/-- Two nodes have the same name if there is a name that both have. -/
theorem sameName_iff {a b : Node} :
    sameName a b = true ↔ ∃ name, a.name? = some name ∧ b.name? = some name := by
  unfold sameName
  cases a.name? with
  | none => simp
  | some name =>
    simp only [Option.isSome_some, Bool.true_and, beq_iff_eq, Option.some.injEq]
    exact ⟨fun h => ⟨name, rfl, h.symm⟩, fun ⟨_, hname, h⟩ => hname ▸ h.symm⟩

/-- A new item is put at the end, or the first item that is like it is changed. -/
theorem place_eq_ok {α : Type} {like : α → Bool} {change : α → QueryResult α} {new : α}
    {xs ys : List α} :
    place like change new xs = .ok ys ↔
      ((∀ x ∈ xs, like x = false) ∧ ys = xs ++ [new]) ∨
      ∃ before x after y, xs = before ++ x :: after ∧ (∀ z ∈ before, like z = false) ∧
        like x = true ∧ change x = .ok y ∧ ys = before ++ y :: after := by
  induction xs generalizing ys with
  | nil =>
    rw [place, Except.ok.injEq]
    constructor
    · rintro rfl
      exact .inl ⟨fun x hx => absurd hx List.not_mem_nil, rfl⟩
    · rintro (⟨-, rfl⟩ | ⟨before, x, after, y, hxs, -⟩)
      · rfl
      · simp at hxs
  | cons x xs ih =>
    rw [place]
    by_cases hx : like x = true
    · rw [if_pos hx]
      constructor
      · intro h
        obtain ⟨y, hy, hys⟩ := bind_eq_ok.1 h
        cases hys
        exact .inr ⟨[], x, xs, y, rfl, fun z hz => absurd hz List.not_mem_nil, hx, hy, rfl⟩
      · rintro (⟨hall, -⟩ | ⟨before, x', after, y, hxs, hbefore, hx', hy, rfl⟩)
        · rw [hall x List.mem_cons_self] at hx
          cases hx
        · cases before with
          | nil =>
            obtain ⟨rfl, rfl⟩ := List.cons.inj hxs
            rw [hy]
            rfl
          | cons z before =>
            obtain ⟨rfl, -⟩ := List.cons.inj hxs
            rw [hbefore x List.mem_cons_self] at hx
            cases hx
    · have hx' : like x = false := by simpa using hx
      rw [if_neg hx]
      constructor
      · intro h
        obtain ⟨zs, hrest, hys⟩ := bind_eq_ok.1 h
        cases hys
        rcases ih.1 hrest with ⟨hall, rfl⟩ | ⟨before, z, after, y, rfl, hbefore, hz, hy, rfl⟩
        · exact .inl ⟨List.forall_mem_cons.2 ⟨hx', hall⟩, rfl⟩
        · exact .inr ⟨x :: before, z, after, y, rfl, List.forall_mem_cons.2 ⟨hx', hbefore⟩, hz,
            hy, rfl⟩
      · rintro (⟨hall, rfl⟩ | ⟨before, z, after, y, hxs, hbefore, hz, hy, rfl⟩)
        · rw [ih.2 (.inl ⟨(List.forall_mem_cons.1 hall).2, rfl⟩)]
          rfl
        · cases before with
          | nil =>
            obtain ⟨rfl, -⟩ := List.cons.inj hxs
            exact absurd hz hx
          | cons first before =>
            obtain ⟨rfl, rfl⟩ := List.cons.inj hxs
            rw [ih.2 (.inr ⟨before, z, after, y, rfl, (List.forall_mem_cons.1 hbefore).2, hz, hy,
              rfl⟩)]
            rfl

/-- What is among the placed items was there, is new, or is changed. -/
theorem mem_of_place {α : Type} {like : α → Bool} {change : α → QueryResult α} {new : α}
    {xs ys : List α} (h : place like change new xs = .ok ys) {y : α} (hy : y ∈ ys) :
    y ∈ xs ∨ y = new ∨ ∃ x ∈ xs, like x = true ∧ change x = .ok y := by
  rcases place_eq_ok.1 h with ⟨-, rfl⟩ | ⟨before, x, after, z, rfl, -, hx, hz, rfl⟩
  · rcases List.mem_append.1 hy with hy | hy
    · exact .inl hy
    · exact .inr (.inl (List.mem_singleton.1 hy))
  · rw [List.mem_append, List.mem_cons] at hy
    rcases hy with hy | rfl | hy
    · exact .inl (List.mem_append_left _ hy)
    · exact .inr (.inr ⟨x, by simp, hx, hz⟩)
    · exact .inl (List.mem_append_right _ (List.mem_cons_of_mem x hy))

/-- Where names are kept, placing an expansion keeps siblings apart. -/
theorem Apart.place {child : Node} {change : Node → QueryResult Node} {xs ys : List Node}
    (hxs : Apart xs) (hchange : ∀ x y, change x = .ok y → y.name? = x.name?)
    (h : place (sameName · child) change child xs = .ok ys) : Apart ys := by
  unfold Apart at hxs ⊢
  rcases place_eq_ok.1 h with ⟨hnew, rfl⟩ | ⟨before, x, after, y, rfl, -, -, hy, rfl⟩
  · rw [List.filterMap_append, List.nodup_append]
    cases hname : child.name? with
    | none => simp [hname, hxs]
    | some name =>
      refine ⟨hxs, by simp [hname], fun a ha b hb => ?_⟩
      obtain ⟨x, hx, hxa⟩ := List.mem_filterMap.1 ha
      obtain rfl : name = b := by simpa [hname, eq_comm] using hb
      rintro rfl
      exact absurd (sameName_iff.2 ⟨a, hxa, hname⟩) (by simp [hnew x hx])
  · have hsame : (before ++ y :: after).filterMap name?
        = (before ++ x :: after).filterMap name? := by
      rw [List.filterMap_append, List.filterMap_append, List.filterMap_cons, List.filterMap_cons,
        hchange x y hy]
    rw [hsame]
    exact hxs

/-- What each clause is where the clauses of another query are added. -/
theorem mergeQuery_eq (ours theirs : Query) : mergeQuery ours theirs = { ours with
    fields := Query.mergeFields ours.fields theirs.fields
    filter := theirs.filter <|> ours.filter
    ordering := if theirs.ordering.isEmpty then ours.ordering else theirs.ordering
    grouping := if theirs.grouping.isEmpty then ours.grouping else theirs.grouping
    limit := if 0 < theirs.limit then theirs.limit else ours.limit
    offset := if 0 < theirs.offset then theirs.offset else ours.offset
    payload := none
    pending := if theirs.filter.isSome then none else ours.pending
    connective := if theirs.filter.isSome then none else ours.connective } := by
  have hordering : ∀ q : Query, (if theirs.ordering.isEmpty then q
      else q.orderByTerms theirs.ordering) = { q with
        ordering := if theirs.ordering.isEmpty then q.ordering else theirs.ordering } := by
    intro q
    cases q
    split <;> rfl
  have hgrouping : ∀ q : Query, (if theirs.grouping.isEmpty then q
      else q.groupByExprs theirs.grouping) = { q with
        grouping := if theirs.grouping.isEmpty then q.grouping else theirs.grouping } := by
    intro q
    cases q
    split <;> rfl
  have hlimit : ∀ q : Query, (if 0 < theirs.limit then q.take theirs.limit else q) = { q with
      limit := if 0 < theirs.limit then theirs.limit else q.limit } := by
    intro q
    cases q
    split <;> rfl
  have hoffset : ∀ q : Query, (if 0 < theirs.offset then q.skip theirs.offset else q) = { q with
      offset := if 0 < theirs.offset then theirs.offset else q.offset } := by
    intro q
    cases q
    split <;> rfl
  unfold mergeQuery
  simp only [hordering, hgrouping, hlimit, hoffset]
  cases theirs.filter <;> rfl

/-- Two nodes merge if they agree and the expansions of the one can be added to the other. -/
theorem merge_eq_ok {ours theirs merged : Node} :
    merge ours theirs = .ok merged ↔
      conflict? ours theirs = none ∧
      ∃ m, mergeAll ours theirs.expand = .ok m ∧ mergeOptions m theirs = merged := by
  obtain ⟨query, expand, levels, count⟩ := theirs
  rw [merge]
  cases conflict? ours ⟨query, expand, levels, count⟩ with
  | some option => simp
  | none =>
    rw [bind_eq_ok]
    simp only [true_and, Except.ok.injEq]

/-! ### What merging keeps everywhere -/

/-- A property of nodes that is kept by adding an expansion of another such node, and by taking over
options. -/
structure Keeps (P : Node → Prop) : Prop where
  grown : ∀ {n owner child : Node} {siblings : List Node}, P n → P owner → child ∈ owner.expand →
    place (sameName · child) (fun sibling => merge sibling child) child n.expand = .ok siblings →
    P { n with expand := siblings }
  merged : ∀ {n theirs : Node}, P n → P theirs → P (mergeOptions n theirs)

namespace Keeps

variable {P : Node → Prop}

/-- Adding one expansion keeps the property, if merging that expansion does. -/
theorem place (hP : Keeps P) {n owner child : Node} {siblings : List Node} (hn : Everywhere P n)
    (howner : P owner) (hmem : child ∈ owner.expand) (hchild : Everywhere P child)
    (hmerge : ∀ ours merged, Everywhere P ours → merge ours child = .ok merged →
      Everywhere P merged)
    (h : Node.place (sameName · child) (fun sibling => merge sibling child) child n.expand
      = .ok siblings) : Everywhere P { n with expand := siblings } := by
  obtain ⟨hhere, hbelow⟩ := everywhere_iff.1 hn
  refine everywhere_iff.2 ⟨hP.grown hhere howner hmem h, fun sibling hsibling => ?_⟩
  rcases mem_of_place h hsibling with hold | rfl | ⟨ours, hours, -, hmerged⟩
  · exact hbelow sibling hold
  · exact hchild
  · exact hmerge ours sibling (hbelow ours hours) hmerged

/-- Adding expansions of another such node keeps the property, if merging them does. -/
theorem mergeAll (hP : Keeps P) {n owner m : Node} {children : List Node} (hn : Everywhere P n)
    (howner : P owner) (hmem : ∀ child ∈ children, child ∈ owner.expand)
    (hchildren : ∀ child ∈ children, Everywhere P child)
    (hmerge : ∀ child ∈ children, ∀ ours merged, Everywhere P ours →
      merge ours child = .ok merged → Everywhere P merged)
    (h : n.mergeAll children = .ok m) : Everywhere P m := by
  induction children generalizing n with
  | nil =>
    rw [mergeAll_nil] at h
    cases h
    exact hn
  | cons child rest ih =>
    rw [List.forall_mem_cons] at hmem hchildren hmerge
    obtain ⟨siblings, hplace, hrest⟩ := mergeAll_cons_eq_ok.1 h
    exact ih (hP.place hn howner hmem.1 hchildren.1 hmerge.1 hplace) hmem.2 hchildren.2 hmerge.2
      hrest

/-- Merging keeps the property. -/
theorem merge (hP : Keeps P) {ours theirs merged : Node} (hours : Everywhere P ours)
    (htheirs : Everywhere P theirs) (h : merge ours theirs = .ok merged) :
    Everywhere P merged := by
  induction theirs using expand_induction generalizing ours merged with
  | step theirs ih =>
    obtain ⟨-, m, hall, rfl⟩ := merge_eq_ok.1 h
    obtain ⟨hhere, hbelow⟩ := everywhere_iff.1 htheirs
    have hm := everywhere_iff.1 <| hP.mergeAll hours hhere (fun _ hmem => hmem) hbelow
      (fun child hmem _ _ hours hmerge => ih child hmem hours (hbelow child hmem) hmerge) hall
    exact everywhere_iff.2 ⟨hP.merged hm.1 hhere, hm.2⟩

/-- Adding an expansion that another such node may have keeps the property. -/
theorem expandWith (hP : Keeps P) {n owner child m : Node} (hn : Everywhere P n)
    (howner : P owner) (hmem : child ∈ owner.expand) (hchild : Everywhere P child)
    (h : n.expandWith child = .ok m) : Everywhere P m := by
  obtain ⟨siblings, hplace, rfl⟩ := expandWith_eq_ok.1 h
  exact hP.place hn howner hmem hchild (fun _ _ hours => hP.merge hours hchild) hplace

end Keeps

/-- Merging keeps siblings apart. -/
theorem keeps_apart : Keeps fun n => Apart n.expand where
  grown hn _ _ hplace := hn.place (fun _ _ => merge_name) hplace
  merged hn _ := hn

theorem apart_singleton (n : Node) : Apart [n] := by
  unfold Apart
  cases hname : n.name? <;> simp [hname]

theorem Unrepeated.expandWith {n child m : Node} (hn : n.Unrepeated) (hchild : child.Unrepeated)
    (h : n.expandWith child = .ok m) : m.Unrepeated := by
  have howner : Apart ({ n with expand := [child] } : Node).expand := apart_singleton child
  exact keeps_apart.expandWith hn howner List.mem_cons_self hchild h

theorem unrepeated_navigation (name : String) : (navigation name).Unrepeated :=
  everywhere_iff.2 ⟨List.nodup_nil, fun _ hchild => absurd hchild List.not_mem_nil⟩

/-- A chain of expansions has a property everywhere if its last node has it everywhere, and each
node in front has it because of what its only expansion is. -/
theorem everywhere_nest {P Q : Node → Prop}
    (hP : ∀ name inner, Q inner → P { navigation name with expand := [inner] })
    (hQ : ∀ name inner, Q { navigation name with expand := [inner] }) (names : List String)
    {leaf : Node} (hleaf : Everywhere P leaf) (hkind : Q leaf) :
    Everywhere P (nest names leaf) ∧ Q (nest names leaf) := by
  induction names with
  | nil => exact ⟨hleaf, hkind⟩
  | cons name rest ih =>
    refine ⟨everywhere_iff.2 ⟨hP name _ ih.2, fun child hchild => ?_⟩, hQ name _⟩
    rw [List.mem_singleton.1 hchild]
    exact ih.1

theorem unrepeated_nest (names : List String) (last : String) :
    (nest names (navigation last)).Unrepeated := by
  refine (everywhere_nest (Q := fun _ => True) ?_ ?_ names (unrepeated_navigation last) trivial).1
  · exact fun _ inner _ => apart_singleton inner
  · exact fun _ _ => trivial

theorem Unrepeated.expandPath {n m : Node} {path : String} (hn : n.Unrepeated)
    (h : n.expandPath path = .ok m) : m.Unrepeated := by
  rw [Node.expandPath] at h
  split at h
  · cases h
  · exact hn.expandWith (unrepeated_nest _ _) h

theorem Unrepeated.expandPaths {n : Node} (hn : n.Unrepeated) (paths : List String) :
    (n.expandPaths paths).1.Unrepeated := by
  induction paths generalizing n with
  | nil => exact hn
  | cons path rest ih =>
    rw [Node.expandPaths]
    cases hpath : n.expandPath path with
    | ok m => exact ih (hn.expandPath hpath)
    | error e => exact hn

/-- A closure keeps siblings apart, also where it stops at a path that is refused. -/
theorem Unrepeated.expandClosure {n : Node} (hn : n.Unrepeated) (f : Closure.Lambda) :
    (n.expandClosure f).1.Unrepeated := by
  rw [Node.expandClosure]
  split
  · exact hn.expandPaths _
  · exact hn

end Polyquery.OData.Node
