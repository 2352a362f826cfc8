import Polyquery.Proofs.OData.Expressible
import Polyquery.Proofs.OData.FailingCalls
import Polyquery.Proofs.Outcome

/-!
# The limit on expansions

Reading under a limit gives what reading under any wider limit gives, as long as the expansions of
the result nest no deeper than the limit; otherwise it fails.

* `merge_depth`, `expandWith_depth`, `expandAll_depth` - how deep a node is after an expansion;
* `nodeOptions_restricts`, `expandEntry_restricts` - one expansion under two limits;
* `expansions_restricts` - the expansions of a text under two limits, by induction on the limit;
* `parseQuery_ok_iff_depth_le` - the limit on the expansions of a query is exact.
-/

namespace Polyquery.OData

namespace Node

/-! ### The depth of a node -/

theorem depth_eq (n : Node) : n.depth = depthBelow n.expand := by
  cases n
  rfl

theorem depthBelow_le_iff {expand : List Node} {k : Nat} :
    depthBelow expand ≤ k ↔ ∀ child ∈ expand, child.depth < k := by
  induction expand with
  | nil => simp [depthBelow]
  | cons first rest ih =>
    rw [depthBelow, List.forall_mem_cons, ← ih]
    omega

theorem depth_withQuery (n : Node) (q : Query) : (n.withQuery q).depth = n.depth := by
  rw [depth_eq, depth_eq]
  rfl

theorem depth_navigation (name : String) : (navigation name).depth = 0 := rfl

/-- Each name in front of a node puts it one level deeper. -/
theorem nest_depth (names : List String) (leaf : Node) :
    (nest names leaf).depth = names.length + leaf.depth := by
  induction names with
  | nil => simp [nest]
  | cons name rest ih =>
    have hcons : (nest (name :: rest) leaf).depth = depthBelow [nest rest leaf] := rfl
    rw [hcons, depthBelow, depthBelow, ih, List.length_cons]
    omega

/-! ### The depth of what is merged -/

/-- A new expansion counts in full, also where it is merged into one of its name. -/
theorem place_depth {like : Node → Bool} {change : Node → QueryResult Node} {new : Node}
    (hchange : ∀ x, Gives (fun y => y.depth = max x.depth new.depth) (change x))
    (xs : List Node) :
    Gives (fun ys => depthBelow ys = max (depthBelow xs) (new.depth + 1))
      (place like change new xs) := by
  induction xs with
  | nil => exact .ok (by simp [depthBelow])
  | cons x rest ih =>
    rw [place]
    split
    · refine (hchange x).map fun y hy => ?_
      rw [depthBelow, depthBelow, hy]
      omega
    · refine ih.map fun ys hys => ?_
      rw [depthBelow, depthBelow, hys]
      omega

theorem mergeAll_depth {children : List Node}
    (hmerge : ∀ child ∈ children, ∀ ours,
      Gives (fun merged => merged.depth = max ours.depth child.depth) (merge ours child))
    (n : Node) : Gives (fun m => m.depth = max n.depth (depthBelow children))
      (n.mergeAll children) := by
  induction children generalizing n with
  | nil =>
    rw [mergeAll]
    exact .ok (by simp [depthBelow])
  | cons child rest ih =>
    rw [List.forall_mem_cons] at hmerge
    rw [mergeAll_cons]
    refine .bind (place_depth hmerge.1 n.expand) fun siblings hsiblings => ?_
    refine (ih hmerge.2 { n with expand := siblings }).imp fun m hm => ?_
    have hn : ({ n with expand := siblings } : Node).depth = depthBelow siblings := rfl
    rw [hm, hn, hsiblings, depthBelow, depth_eq n]
    omega

/-- Merging two nodes gives one as deep as the deeper of them. -/
theorem merge_depth (theirs ours : Node) :
    Gives (fun merged => merged.depth = max ours.depth theirs.depth) (merge ours theirs) := by
  induction theirs using Node.induction generalizing ours with
  | mk query expand levels count ih =>
    rw [merge]
    split
    · exact .error _ _
    · refine .bind (mergeAll_depth ih ours) fun m hm => .ok ?_
      rw [depth_eq] at hm
      exact hm

theorem expandWith_depth (n child : Node) :
    Gives (fun m => m.depth = max n.depth (child.depth + 1)) (n.expandWith child) := by
  have hmerge : ∀ c ∈ [child], ∀ ours,
      Gives (fun merged => merged.depth = max ours.depth c.depth) (merge ours c) :=
    fun c _ => merge_depth c
  refine (mergeAll_depth hmerge n).imp fun m hm => ?_
  simpa [depthBelow] using hm

theorem expandAll_depth {children : List Node} {n m : Node}
    (h : n.expandAll children = (m, .ok ())) : m.depth = max n.depth (depthBelow children) := by
  induction children generalizing n with
  | nil =>
    cases h
    simp [depthBelow]
  | cons child rest ih =>
    rw [expandAll] at h
    split at h
    · rename_i n' hchild
      rw [ih h, expandWith_depth n child n' hchild, depthBelow]
      omega
    · cases h

/-! ### Options -/

/-- A change happens if what it depends on is there. -/
theorem changed_map_eq_ok {α : Type} {n m : Node} {x : QueryResult α} {f : α → Node} :
    n.changed (x.map f) = (m, .ok ()) ↔ ∃ a, x = .ok a ∧ m = f a := by
  cases x <;> simp [changed, Except.map, eq_comm]

/-- Only `$expand` makes a node deeper. -/
theorem setOption_depth {n m : Node} {rs : Resolvers}
    {expansions : List Char → QueryResult (List Node)} {name : OptionName} {text : List Char}
    (hname : name ≠ .expand) (h : n.setOption rs expansions name text = (m, .ok ())) :
    m.depth = n.depth := by
  cases name with
  | expand => exact absurd rfl hname
  | filter | select | orderby | groupby | top | skip =>
    obtain ⟨a, -, rfl⟩ := changed_map_eq_ok.1 h
    exact depth_withQuery n _
  | count | levels =>
    obtain ⟨a, -, rfl⟩ := changed_map_eq_ok.1 h
    rw [depth_eq, depth_eq]

theorem setOption_congr {name : OptionName} (hname : name ≠ .expand) (n : Node) (rs : Resolvers)
    (expansions expansions' : List Char → QueryResult (List Node)) (text : List Char) :
    n.setOption rs expansions name text = n.setOption rs expansions' name text := by
  cases name with
  | expand => exact absurd rfl hname
  | filter | select | orderby | groupby | top | skip | count | levels => rfl

theorem setOption_expand {n m : Node} {rs : Resolvers}
    {expansions : List Char → QueryResult (List Node)} {text : List Char} :
    n.setOption rs expansions .expand text = (m, .ok ()) ↔
      ∃ children, expansions text = .ok children ∧ n.expandAll children = (m, .ok ()) := by
  unfold setOption
  cases hread : expansions text with
  | ok children => simp
  | error e => simp

end Node

/-! ### Options under two limits -/

section Options

variable {rs : Resolvers} {k : Nat} {expansions expansions' : List Char → QueryResult (List Node)}

theorem le_depth_of_setOption {n m : Node} {name : OptionName} {text : List Char}
    (h : n.setOption rs expansions name text = (m, .ok ())) : n.depth ≤ m.depth := by
  by_cases hname : name = .expand
  · subst hname
    obtain ⟨children, -, hall⟩ := Node.setOption_expand.1 h
    rw [Node.expandAll_depth hall]
    omega
  · exact Nat.le_of_eq (Node.setOption_depth hname h).symm

/-- An option that narrower expansions are read for. -/
theorem setOption_restricts (rs : Resolvers)
    (h : ∀ text, Restricts (fun ns => Node.depthBelow ns ≤ k) (expansions text) (expansions' text))
    {n : Node} (hn : n.depth ≤ k) (name : OptionName) (text : List Char) (m : Node) (done : Unit) :
    n.setOption rs expansions name text = (m, .ok done) ↔
      n.setOption rs expansions' name text = (m, .ok done) ∧ m.depth ≤ k := by
  by_cases hname : name = .expand
  · subst hname
    rw [Node.setOption_expand, Node.setOption_expand]
    constructor
    · rintro ⟨children, hread, hall⟩
      obtain ⟨hread', hchildren⟩ := (h text children).1 hread
      have hm := Node.expandAll_depth hall
      exact ⟨⟨children, hread', hall⟩, by omega⟩
    · rintro ⟨⟨children, hread, hall⟩, hm⟩
      have hdepth := Node.expandAll_depth hall
      exact ⟨children, (h text children).2 ⟨hread, by omega⟩, hall⟩
  · rw [Node.setOption_congr hname n rs expansions expansions' text]
    constructor
    · intro hset
      rw [Node.setOption_depth hname hset]
      exact ⟨hset, hn⟩
    · exact And.left

variable (ctx : Context) (source : List Char)

/-- Reading the options of an expansion makes its node no less deep. -/
theorem nodeOptions_depth (fuel : Nat) (n : Node) (ts : List Token) :
    Gives (fun r => n.depth ≤ r.1.depth)
      (nodeOptions ctx source (fun n => n.setOption rs expansions) fuel n ts) := by
  induction fuel generalizing n ts with
  | zero => exact .error _ _
  | succ fuel ih =>
    rw [nodeOptions]
    refine .bind (.any _) fun name _ => .bind (.any _) fun ts₁ _ => .bind (.any _) fun value _ => ?_
    dsimp only
    split
    · exact .error _ _
    · split
      · exact .error _ _
      · rename_i m hset
        have hm := le_depth_of_setOption hset
        split
        · exact fun r hr => Nat.le_trans hm (ih m _ r hr)
        · exact .bind (.any _) fun _ _ => .ok hm

/-- The options of an expansion that narrower expansions are read for. -/
theorem nodeOptions_restricts
    (h : ∀ text, Restricts (fun ns => Node.depthBelow ns ≤ k) (expansions text) (expansions' text))
    (fuel : Nat) {n : Node} (hn : n.depth ≤ k) (ts : List Token) :
    Restricts (fun r => r.1.depth ≤ k)
      (nodeOptions ctx source (fun n => n.setOption rs expansions) fuel n ts)
      (nodeOptions ctx source (fun n => n.setOption rs expansions') fuel n ts) := by
  induction fuel generalizing n ts with
  | zero => exact .refl (.error _ _)
  | succ fuel ih =>
    rw [nodeOptions, nodeOptions]
    refine .continued _ fun name => .continued _ fun ts₁ => .continued _ fun value => ?_
    dsimp only
    split
    · exact .refl (.error _ _)
    · rename_i option _
      have hset := setOption_restricts rs h hn option
        (Text.slice value.1.start value.1.stop source)
      generalize n.setOption rs expansions option
        (Text.slice value.1.start value.1.stop source) = x at hset ⊢
      generalize n.setOption rs expansions' option
        (Text.slice value.1.start value.1.stop source) = y at hset ⊢
      apply Restricts.step hset
      · exact fun _ _ => ⟨_, rfl⟩
      · exact fun _ _ => ⟨_, rfl⟩
      · intro m _ hm
        dsimp only
        split
        · exact ih hm _
        · exact .continued _ fun _ => .refl (.ok hm)
      · intro m _
        dsimp only
        split
        · exact (nodeOptions_depth ctx source fuel m _).imp fun r hr => Nat.le_trans hr
        · exact .bind (.any _) fun _ _ => .ok id

end Options

/-! ### Lists of expansions -/

section Lists

variable {α : Type} {P : α → Prop} {item item' : Parser α}

/-- An item and what is read behind it. -/
theorem cons_restricts (h : ∀ ts, Restricts (fun r => P r.1) (item ts) (item' ts))
    {more more' : Parser (List α)}
    (hmore : ∀ ts, Restricts (fun r => ∀ a ∈ r.1, P a) (more ts) (more' ts)) (ts : List Token) :
    Restricts (fun r : List α × List Token => ∀ a ∈ r.1, P a)
      (item ts >>= fun x => more x.2 >>= fun xs => .ok (x.1 :: xs.1, xs.2))
      (item' ts >>= fun x => more' x.2 >>= fun xs => .ok (x.1 :: xs.1, xs.2)) := by
  refine .bind (h ts) (fun x hx => .bind (hmore x.2) (fun xs hxs => ?_) fun xs => ?_) fun x => ?_
  · exact .refl (.ok (List.forall_mem_cons.2 ⟨hx, hxs⟩))
  · exact .ok fun hall => (List.forall_mem_cons.1 hall).2
  · exact .bind (.any _) fun xs _ => .ok fun hall => (List.forall_mem_cons.1 hall).1

theorem moreItems_restricts (h : ∀ ts, Restricts (fun r => P r.1) (item ts) (item' ts))
    (fuel : Nat) (ts : List Token) :
    Restricts (fun r => ∀ a ∈ r.1, P a) (moreItems item fuel ts) (moreItems item' fuel ts) := by
  induction fuel generalizing ts with
  | zero => exact .refl (.ok fun a ha => absurd ha List.not_mem_nil)
  | succ fuel ih =>
    rw [moreItems, moreItems]
    split
    · exact .refl (.ok fun a ha => absurd ha List.not_mem_nil)
    · exact cons_restricts h ih _

/-- A list of items, each read under both limits. -/
theorem commaSeparated_restricts (h : ∀ ts, Restricts (fun r => P r.1) (item ts) (item' ts))
    (ts : List Token) :
    Restricts (fun r => ∀ a ∈ r.1, P a) (commaSeparated item ts) (commaSeparated item' ts) :=
  cons_restricts h (fun ts => moreItems_restricts h ts.length ts) ts

/-- No list is empty. -/
theorem commaSeparated_ne_nil (item : Parser α) (ts : List Token) :
    Gives (fun r => r.1 ≠ []) (commaSeparated item ts) :=
  .bind (.any _) fun _ _ => .bind (.any _) fun _ _ => .ok (List.cons_ne_nil _ _)

theorem parseText_gives {rs : Resolvers} {item : Context → Parser α} {text : List Char}
    (h : ∀ ctx ts, Gives (fun r => P r.1) (item ctx ts)) : Gives P (parseText rs item text) :=
  .bind (.any _) fun _ _ => .bind (h _ _) fun _ hr => .bind (.any _) fun _ _ => .ok hr

theorem parseText_restricts {rs : Resolvers} {item item' : Context → Parser α} {text : List Char}
    (h : ∀ ctx ts, Restricts (fun r => P r.1) (item ctx ts) (item' ctx ts)) :
    Restricts P (parseText rs item text) (parseText rs item' text) := by
  refine .continued _ fun ts => .bind (h _ _) (fun r hr => ?_) fun r => ?_
  · exact .continued _ fun _ => .refl (.ok hr)
  · exact .bind (.any _) fun _ _ => .ok id

end Lists

/-! ### Expansions under two limits -/

namespace Reader

variable {r r' : Reader}

/-- One expansion: its path and its options together are no deeper than the limit. -/
theorem expandEntry_restricts (hr : r.resolvers = r'.resolvers) (ctx : Context)
    (source : List Char) {levels levels' : Nat} (hlevels : levels ≤ levels')
    {deeper deeper' : Nat → List Char → QueryResult (List Node)}
    (h : ∀ parents ≤ levels, ∀ text, Restricts (fun ns => Node.depthBelow ns ≤ levels - parents)
      (deeper parents text) (deeper' parents text)) (ts : List Token) :
    Restricts (fun p => p.1.depth < levels + 1) (r.expandEntry ctx source levels deeper ts)
      (r'.expandEntry ctx source levels' deeper' ts) := by
  refine .continued _ fun names => ?_
  dsimp only
  have hleaf : ∀ leaf : Node × List Token, leaf.1.depth + names.1.dropLast.length ≤ levels ↔
      (Node.nest names.1.dropLast leaf.1).depth < levels + 1 := by
    intro leaf
    rw [Node.nest_depth]
    omega
  by_cases hdeep : levels < names.1.dropLast.length
  · have htoo : ∀ leaf : Node × List Token,
        ¬ (Node.nest names.1.dropLast leaf.1).depth < levels + 1 :=
      fun leaf hl => absurd ((hleaf leaf).2 hl) (by omega)
    rw [if_pos hdeep]
    refine .error _ ?_
    split
    · exact .error _ _
    · split
      · exact .bind (.any _) fun leaf _ => .ok (htoo leaf)
      · exact .ok (htoo (_, _))
  · rw [if_neg hdeep, if_neg (fun hdeep' => hdeep (Nat.lt_of_le_of_lt hlevels hdeep')), hr]
    split
    · refine .bind (nodeOptions_restricts ctx source (h _ (Nat.not_lt.1 hdeep)) _ (Nat.zero_le _) _)
        (fun leaf hl => .refl (.ok ((hleaf leaf).1 (by omega)))) fun leaf => .ok fun hl => ?_
      have hle := (hleaf leaf).2 hl
      omega
    · exact .refl (.ok ((hleaf (_, _)).1 (by rw [Node.depth_navigation]; omega)))

/-- Something is expanded by every text that is read. -/
theorem expansions_ne_nil (r : Reader) (levels : Nat) (text : List Char) :
    Gives (fun ns => ns ≠ []) (r.expansions levels text) := by
  cases levels with
  | zero =>
    rw [expansions]
    exact .error _ _
  | succ below =>
    rw [expansions]
    exact parseText_gives fun ctx ts => commaSeparated_ne_nil _ ts

/-- The expansions of a text under two limits. -/
theorem expansions_restricts (hr : r.resolvers = r'.resolvers) {levels levels' : Nat}
    (hlevels : levels ≤ levels') (text : List Char) :
    Restricts (fun ns => Node.depthBelow ns ≤ levels) (r.expansions levels text)
      (r'.expansions levels' text) := by
  -- on the levels that are left; a path takes as many of them as it has names
  induction levels using Nat.strongRecOn generalizing levels' text with
  | ind levels ih =>
  cases levels with
  | zero =>
    rw [expansions]
    refine .error _ ((expansions_ne_nil r' levels' text).imp fun ns hns hdepth => ?_)
    obtain ⟨child, hchild⟩ := List.exists_mem_of_ne_nil ns hns
    exact absurd (Node.depthBelow_le_iff.1 hdepth child hchild) (Nat.not_lt_zero _)
  | succ below =>
    cases levels' with
    | zero => exact absurd hlevels (Nat.not_succ_le_zero _)
    | succ below' =>
      rw [expansions, expansions, hr]
      have hbelow : below ≤ below' := Nat.le_of_succ_le_succ hlevels
      refine (parseText_restricts fun ctx ts => commaSeparated_restricts (fun ts =>
        expandEntry_restricts hr ctx text hbelow (fun parents hparents inner => ?_) ts) ts).imp
          fun ns => Node.depthBelow_le_iff.symm
      exact ih (below - parents) (by omega) (by omega) inner

/-! ### Queries under two limits -/

theorem applyOption_eq_ok {n m : Node} {name value : String} {known : Bool} :
    r.applyOption n name value = (m, .ok known) ↔
      OptionName.ofText? (String.ofList (Text.trim name.toList)) = none ∧ n = m ∧ known = false ∨
      ∃ option, OptionName.ofText? (String.ofList (Text.trim name.toList)) = some option ∧
        n.setOption r.resolvers r.parseExpand option value.toList = (m, .ok ()) ∧ known = true := by
  unfold applyOption
  cases OptionName.ofText? (String.ofList (Text.trim name.toList)) with
  | none => simp [eq_comm]
  | some option =>
    cases hset : n.setOption r.resolvers r.parseExpand option value.toList with
    | mk n' outcome => cases outcome <;> simp [Except.map, eq_comm, hset]

theorem le_depth_of_applyOption {n m : Node} {name value : String} {known : Bool}
    (h : r.applyOption n name value = (m, .ok known)) : n.depth ≤ m.depth := by
  rcases applyOption_eq_ok.1 h with ⟨-, rfl, -⟩ | ⟨option, -, hset, -⟩
  · exact Nat.le_refl _
  · exact le_depth_of_setOption hset

section Limits

variable (hr : r.resolvers = r'.resolvers) (hd : r.maxDepth ≤ r'.maxDepth) {n : Node}
  (hn : n.depth ≤ r.maxDepth)

include hr hd hn

/-- An option of a query under two limits. -/
theorem applyOption_restricts (name value : String) (m : Node) (known : Bool) :
    r.applyOption n name value = (m, .ok known) ↔
      r'.applyOption n name value = (m, .ok known) ∧ m.depth ≤ r.maxDepth := by
  have hset := setOption_restricts r.resolvers (expansions_restricts hr hd) hn
  rw [applyOption_eq_ok, applyOption_eq_ok, ← hr]
  constructor
  · rintro (⟨hname, rfl, hknown⟩ | ⟨option, hname, hm, hknown⟩)
    · exact ⟨.inl ⟨hname, rfl, hknown⟩, hn⟩
    · obtain ⟨hm', hdepth⟩ := (hset option value.toList m ()).1 hm
      exact ⟨.inr ⟨option, hname, hm', hknown⟩, hdepth⟩
  · rintro ⟨⟨hname, rfl, hknown⟩ | ⟨option, hname, hm, hknown⟩, hdepth⟩
    · exact .inl ⟨hname, rfl, hknown⟩
    · exact .inr ⟨option, hname, (hset option value.toList m ()).2 ⟨hm, hdepth⟩, hknown⟩

omit hr hd hn in
theorem applyOptions_depth (n : Node) (options : List (String × String)) :
    Gives (fun m => n.depth ≤ m.depth) (r.applyOptions n options) := by
  induction options generalizing n with
  | nil => exact .ok (Nat.le_refl _)
  | cons option rest ih =>
    rw [applyOptions]
    split
    · rename_i m known hm
      exact (ih m).imp fun m' hm' => Nat.le_trans (le_depth_of_applyOption hm) hm'
    · exact .error _ _

/-- The options of a query under two limits. -/
theorem applyOptions_restricts (options : List (String × String)) :
    Restricts (fun m => m.depth ≤ r.maxDepth) (r.applyOptions n options)
      (r'.applyOptions n options) := by
  induction options generalizing n with
  | nil => exact .refl (.ok hn)
  | cons option rest ih =>
    rw [applyOptions, applyOptions]
    have hoption := applyOption_restricts hr hd hn option.1 option.2
    generalize r.applyOption n option.1 option.2 = x at hoption ⊢
    generalize r'.applyOption n option.1 option.2 = y at hoption ⊢
    apply Restricts.step hoption
    · exact fun _ _ => ⟨_, rfl⟩
    · exact fun _ _ => ⟨_, rfl⟩
    · exact fun m _ hm => ih hm
    · exact fun m _ => (applyOptions_depth m rest).imp fun _ => Nat.le_trans

end Limits

/-- The limit on expansions is exact.  A query is read under a limit if it is read under a wider one
and the longest chain of its expansions is within the limit, and then it is the same query. -/
theorem parseQuery_ok_iff_depth_le (resolvers : Resolvers) {limit wider : Nat}
    (h : limit ≤ wider) (collection : Entity) (options : List (String × String)) (n : Node) :
    parseQuery ⟨resolvers, limit⟩ collection options = .ok n ↔
      parseQuery ⟨resolvers, wider⟩ collection options = .ok n ∧ n.depth ≤ limit := by
  have hread : Restricts (fun m => m.depth ≤ limit)
      (parseQuery ⟨resolvers, limit⟩ collection options)
      (parseQuery ⟨resolvers, wider⟩ collection options) := by
    apply applyOptions_restricts
    · rfl
    · exact h
    · exact Nat.zero_le _
  exact hread n

/-- A path with an expansion inside it, and its first name once more. -/
def nestedExpand : List (String × String) :=
  [("$expand", "items/product($expand=supplier),items($top=5)")]

theorem parseQuery_ok_iff_depth_le_nestedExpand :
    2 ≤ 3 ∧ ∃ n, parseQuery ⟨.empty, 3⟩ (Entity.named "orders") nestedExpand = .ok n ∧
      n.depth = 3 ∧ ∀ m, parseQuery ⟨.empty, 2⟩ (Entity.named "orders") nestedExpand ≠ .ok m := by
  have hlimits : 2 ≤ 3 := by decide
  have hdepth : (parseQuery ⟨.empty, 3⟩ (Entity.named "orders") nestedExpand).toOption.map
      Node.depth = some 3 := by decide +kernel
  cases hn : parseQuery ⟨.empty, 3⟩ (Entity.named "orders") nestedExpand with
  | error e =>
    rw [hn] at hdepth
    cases hdepth
  | ok n =>
    rw [hn] at hdepth
    have hthree : n.depth = 3 := Option.some.inj hdepth
    refine ⟨hlimits, n, rfl, hthree, fun m hm => ?_⟩
    obtain ⟨hread, hm⟩ :=
      (parseQuery_ok_iff_depth_le .empty hlimits (Entity.named "orders") nestedExpand m).1 hm
    cases hn.symm.trans hread
    exact absurd hm (by omega)

end Reader

end Polyquery.OData
