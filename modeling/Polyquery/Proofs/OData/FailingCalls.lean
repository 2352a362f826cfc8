import Polyquery.OData.Expand
import Polyquery.Proofs.Outcome

/-!
# What a failing call leaves

Expansions are added to a node in turn, by `$expand` and by the closures that name navigations.
Each of them is added as a whole or not at all, but one that fails does not undo the others.

* `Steps`, `StopsAt` - steps taken in turn, all of them or up to one that fails;
* `mergeAll_cons_eq_ok`, `expandWith_eq_ok` - what adding expansions gives;
* `Kept` - nothing but expansions is changed, and none of them is lost;
* `expandPath_eq_error` - a path is refused for an empty name only;
* `failing_call_changes_iff` - the calls that fail and change the node nevertheless.
-/

namespace Polyquery.OData.Node

/-! ### Steps in turn -/

/-- Steps are taken in turn, each at the node that the one before leaves. -/
inductive Steps {α : Type} (step : Node → α → QueryResult Node) : Node → List α → Node → Prop where
  | nil {n : Node} : Steps step n [] n
  | cons {n n' m : Node} {a : α} {rest : List α} :
      step n a = .ok n' → Steps step n' rest m → Steps step n (a :: rest) m

/-- Steps are taken in turn up to one that fails at the node the others lead to. -/
def StopsAt {α : Type} (step : Node → α → QueryResult Node) (n : Node) (items : List α) (m : Node)
    (e : QueryError) : Prop :=
  ∃ done item rest, items = done ++ item :: rest ∧ Steps step n done m ∧ step m item = .error e

section Steps

variable {α : Type} {step : Node → α → QueryResult Node} {n m : Node} {e : QueryError}

theorem not_stopsAt_nil : ¬ StopsAt step n [] m e := by
  rintro ⟨done, item, rest, hitems, -⟩
  simp at hitems

/-- The first step fails, or the steps stop behind it. -/
theorem stopsAt_cons {a : α} {rest : List α} :
    StopsAt step n (a :: rest) m e ↔
      (step n a = .error e ∧ m = n) ∨ ∃ n', step n a = .ok n' ∧ StopsAt step n' rest m e := by
  constructor
  · rintro ⟨done, item, after, hitems, hdone, hitem⟩
    cases hdone with
    | nil =>
      obtain ⟨rfl, -⟩ := List.cons.inj hitems
      exact .inl ⟨hitem, rfl⟩
    | @cons _ n' _ _ done hstep hdone =>
      obtain ⟨rfl, hrest⟩ := List.cons.inj hitems
      exact .inr ⟨n', hstep, done, item, after, hrest, hdone, hitem⟩
  · rintro (⟨hstep, rfl⟩ | ⟨n', hstep, done, item, after, rfl, hdone, hitem⟩)
    · exact ⟨[], a, rest, rfl, .nil, hstep⟩
    · exact ⟨a :: done, item, after, rfl, .cons hstep hdone, hitem⟩

/-- What every step keeps, steps in turn keep. -/
theorem Steps.keep {Keeps : Node → Node → Prop} (hrefl : ∀ n, Keeps n n)
    (htrans : ∀ {n n' m}, Keeps n n' → Keeps n' m → Keeps n m)
    (hstep : ∀ {n n' a}, step n a = .ok n' → Keeps n n') {items : List α}
    (h : Steps step n items m) : Keeps n m := by
  induction h with
  | nil => exact hrefl _
  | cons hfirst _ ih => exact htrans (hstep hfirst) ih

end Steps

/-- Expansions are added up to the first that conflicts. -/
theorem expandAll_eq_error {n m : Node} {children : List Node} {e : QueryError} :
    n.expandAll children = (m, .error e) ↔ StopsAt expandWith n children m e := by
  induction children generalizing n with
  | nil => simp [expandAll, not_stopsAt_nil]
  | cons child rest ih =>
    rw [expandAll, stopsAt_cons]
    cases hchild : n.expandWith child with
    | ok n' => simp [ih]
    | error e' => simp [and_comm, eq_comm]

/-- Paths are expanded up to the first that is refused. -/
theorem expandPaths_eq_error {n m : Node} {paths : List String} {e : QueryError} :
    n.expandPaths paths = (m, .error e) ↔ StopsAt expandPath n paths m e := by
  induction paths generalizing n with
  | nil => simp [expandPaths, not_stopsAt_nil]
  | cons path rest ih =>
    rw [expandPaths, stopsAt_cons]
    cases hpath : n.expandPath path with
    | ok n' => simp [ih]
    | error e' => simp [and_comm, eq_comm]

/-! ### What adding an expansion keeps -/

/-- Induction over a node and the expansions inside it. -/
theorem induction {P : Node → Prop}
    (mk : ∀ query expand levels count, (∀ child ∈ expand, P child) →
      P ⟨query, expand, levels, count⟩) (n : Node) : P n := by
  refine Node.rec (motive_1 := P) (motive_2 := fun expand => ∀ child ∈ expand, P child) ?_ ?_ ?_ n
  · intro query expand levels count hexpand
    exact mk query expand levels count hexpand
  · exact fun child hchild => absurd hchild List.not_mem_nil
  · exact fun first rest hfirst hrest => List.forall_mem_cons.2 ⟨hfirst, hrest⟩

/-- Nothing but the expansions of a node is changed, and none of them is lost or moved. -/
structure Kept (n m : Node) : Prop where
  query : m.query = n.query
  levels : m.levels = n.levels
  count : m.count = n.count
  names : n.expand.map name? <+: m.expand.map name?

theorem Kept.refl (n : Node) : Kept n n := ⟨rfl, rfl, rfl, List.prefix_rfl⟩

theorem Kept.trans {n n' m : Node} (h : Kept n n') (h' : Kept n' m) : Kept n m :=
  ⟨h'.query.trans h.query, h'.levels.trans h.levels, h'.count.trans h.count,
    h.names.trans h'.names⟩

theorem mergeAll_cons (n child : Node) (rest : List Node) :
    n.mergeAll (child :: rest)
      = place (sameName · child) (fun sibling => merge sibling child) child n.expand >>=
        fun siblings => mergeAll { n with expand := siblings } rest := by
  rw [mergeAll]

theorem mergeAll_nil (n : Node) : n.mergeAll [] = .ok n := by
  rw [mergeAll]

theorem mergeAll_cons_eq_ok {n child m : Node} {rest : List Node} :
    n.mergeAll (child :: rest) = .ok m ↔
      ∃ siblings, place (sameName · child) (fun sibling => merge sibling child) child n.expand
        = .ok siblings ∧ mergeAll { n with expand := siblings } rest = .ok m := by
  rw [mergeAll_cons, bind_eq_ok]

theorem expandWith_eq (n child : Node) :
    n.expandWith child
      = (place (sameName · child) (fun sibling => merge sibling child) child n.expand).map
        fun siblings => { n with expand := siblings } := by
  rw [expandWith, mergeAll_cons]
  cases place (sameName · child) (fun sibling => merge sibling child) child n.expand <;> rfl

theorem expandWith_eq_ok {n child m : Node} :
    n.expandWith child = .ok m ↔
      ∃ siblings, place (sameName · child) (fun sibling => merge sibling child) child n.expand
        = .ok siblings ∧ m = { n with expand := siblings } := by
  rw [expandWith_eq, map_eq_ok]

/-- Adding expansions changes nothing else. -/
theorem mergeAll_kept {n m : Node} {children : List Node} (h : n.mergeAll children = .ok m) :
    m = { n with expand := m.expand } := by
  induction children generalizing n with
  | nil =>
    rw [mergeAll_nil] at h
    cases h
    cases m
    rfl
  | cons child rest ih =>
    obtain ⟨siblings, -, hrest⟩ := mergeAll_cons_eq_ok.1 h
    exact @ih { n with expand := siblings } hrest

theorem mergeAll_query {n m : Node} {children : List Node} (h : n.mergeAll children = .ok m) :
    m.query = n.query := by
  rw [mergeAll_kept h]

theorem mergeQuery_collection (ours theirs : Query) :
    (mergeQuery ours theirs).collection = ours.collection := by
  cases hfilter : theirs.filter <;>
    simp [mergeQuery, hfilter, apply_ite Query.collection, Query.select, Query.whereExpr,
      Query.orderByTerms, Query.groupByExprs, Query.take, Query.skip]

/-- An expansion that another is merged into keeps its name. -/
theorem merge_name {ours theirs merged : Node} (h : merge ours theirs = .ok merged) :
    merged.name? = ours.name? := by
  obtain ⟨query, expand, levels, count⟩ := theirs
  rw [merge] at h
  split at h
  · cases h
  · obtain ⟨m, hall, hm⟩ := bind_eq_ok.1 h
    cases hm
    show Option.map Entity.collection (mergeQuery m.query query).collection = _
    rw [mergeQuery_collection, mergeAll_query hall]
    rfl

/-- What a change keeps of the items, placing one more keeps of those that are there. -/
theorem place_prefix {α β : Type} {like : α → Bool} {change : α → QueryResult α} {new : α}
    {f : α → β} (hchange : ∀ {x y}, change x = .ok y → f y = f x) {xs ys : List α}
    (h : place like change new xs = .ok ys) : xs.map f <+: ys.map f := by
  induction xs generalizing ys with
  | nil => exact List.nil_prefix
  | cons x rest ih =>
    rw [place] at h
    split at h
    · obtain ⟨y, hx, hys⟩ := bind_eq_ok.1 h
      cases hys
      have hsame : (y :: rest).map f = (x :: rest).map f := by
        rw [List.map_cons, List.map_cons, hchange hx]
      exact hsame ▸ List.prefix_rfl
    · obtain ⟨zs, hrest, hys⟩ := bind_eq_ok.1 h
      cases hys
      rw [List.map_cons, List.map_cons]
      exact List.cons_prefix_cons.2 ⟨rfl, ih hrest⟩

theorem expandWith_kept {n child m : Node} (h : n.expandWith child = .ok m) : Kept n m := by
  obtain ⟨siblings, hplace, rfl⟩ := expandWith_eq_ok.1 h
  exact ⟨rfl, rfl, rfl, place_prefix merge_name hplace⟩

/-! ### Paths -/

/-- An expansion without options of its own agrees with any other. -/
theorem conflict?_navigation (n : Node) (name : String) (expand : List Node) :
    conflict? n { navigation name with expand } = none := by
  have hfilter : filtersDiffer n.query.filter none = false := by cases n.query.filter <;> rfl
  have hlevels : levelsDiffer n.levels none = false := by cases n.levels <;> rfl
  simp [conflict?, navigation, ofQuery, Query.fromCollection, Query.empty, differ, boundsDiffer,
    hfilter, hlevels]

theorem place_ok {α : Type} {like : α → Bool} {change : α → QueryResult α} {new : α}
    (h : ∀ x, ∃ y, change x = .ok y) (xs : List α) : ∃ ys, place like change new xs = .ok ys := by
  induction xs with
  | nil => exact ⟨[new], rfl⟩
  | cons x rest ih =>
    obtain ⟨y, hy⟩ := h x
    obtain ⟨ys, hys⟩ := ih
    rw [place, hy, hys]
    split
    · exact ⟨y :: rest, rfl⟩
    · exact ⟨x :: ys, rfl⟩

/-- An expansion without options of its own can always be added, if those inside it can. -/
theorem expandWith_navigation {expand : List Node} (h : ∀ n : Node, ∃ m, n.mergeAll expand = .ok m)
    (n : Node) (name : String) : ∃ m, n.expandWith { navigation name with expand } = .ok m := by
  have hmerge : ∀ sibling, ∃ m, merge sibling { navigation name with expand } = .ok m := by
    intro sibling
    obtain ⟨m, hm⟩ := h sibling
    have hagree := conflict?_navigation sibling name expand
    unfold navigation ofQuery at hagree ⊢
    rw [merge, hagree, hm]
    exact ⟨_, rfl⟩
  obtain ⟨siblings, hplace⟩ := place_ok hmerge n.expand
  rw [expandWith_eq, hplace]
  exact ⟨_, rfl⟩

theorem expandWith_nest (names : List String) (last : String) (n : Node) :
    ∃ m, n.expandWith (nest names (navigation last)) = .ok m := by
  induction names generalizing n with
  | nil => exact @expandWith_navigation [] (fun n => ⟨n, by rw [mergeAll]⟩) n last
  | cons name rest ih => exact expandWith_navigation ih n name

/-- A path is refused for an empty name, and for nothing else. -/
theorem expandPath_eq_error {n : Node} {path : String} {e : QueryError} :
    n.expandPath path = .error e ↔ "" ∈ Text.segments path ∧ e = .invalidField path := by
  have hempty : (Text.segments path).any String.isEmpty = true ↔ "" ∈ Text.segments path := by
    simp [List.any_eq_true, String.isEmpty_iff]
  obtain ⟨m, hm⟩ := expandWith_nest (Text.segments path).dropLast
    ((Text.segments path).getLast?.getD "") n
  rw [expandPath, ← hempty]
  split
  · rename_i h
    simp [h, eq_comm]
  · rename_i h
    simp [h, hm]

theorem expandPath_kept {n m : Node} {path : String} (h : n.expandPath path = .ok m) :
    Kept n m := by
  rw [expandPath] at h
  split at h
  · cases h
  · exact expandWith_kept h

/-- What is left of a node where steps stop. -/
theorem StopsAt.kept {α : Type} {step : Node → α → QueryResult Node}
    (hstep : ∀ {n m a}, step n a = .ok m → Kept n m) {n m : Node} {items : List α} {e : QueryError}
    (h : StopsAt step n items m e) : Kept n m := by
  obtain ⟨done, item, rest, -, hdone, -⟩ := h
  exact hdone.keep Kept.refl Kept.trans hstep

/-! ### Calls that fail -/

theorem changed_eq_error {n m : Node} {outcome : QueryResult Node} {e : QueryError}
    (h : n.changed outcome = (m, .error e)) : m = n := by
  cases outcome with
  | ok n' => cases h
  | error e' =>
    cases h
    rfl

/-- Of the options that fail, only an expansion changes the node. -/
theorem setOption_error_changes_iff {n m : Node} {rs : Resolvers}
    {expansions : List Char → QueryResult (List Node)} {name : OptionName} {text : List Char}
    {e : QueryError} :
    n.setOption rs expansions name text = (m, .error e) ∧ m ≠ n ↔
      name = .expand ∧
        (∃ children, expansions text = .ok children ∧ StopsAt expandWith n children m e) ∧
        m ≠ n := by
  cases name with
  | expand =>
    simp only [setOption, true_and, and_congr_left_iff]
    intro hne
    cases expansions text with
    | ok children => simp [expandAll_eq_error]
    | error e' =>
      constructor
      · intro h
        cases h
        exact absurd rfl hne
      · rintro ⟨children, h, -⟩
        cases h
  | filter | select | orderby | groupby | top | skip | count | levels =>
    simp only [reduceCtorEq, false_and, iff_false]
    exact fun h => h.2 (changed_eq_error h.1)

/-- Of the closures that fail, only those whose paths are read change the node. -/
theorem expandClosure_error_changes_iff {n m : Node} {f : Closure.Lambda} {e : QueryError} :
    n.expandClosure f = (m, .error e) ∧ m ≠ n ↔
      (∃ paths, (f.projection [] [] n.query.resolvers >>= fun fields => fields.mapM memberPath)
          = .ok paths ∧ StopsAt expandPath n paths m e) ∧
        m ≠ n := by
  rw [expandClosure]
  cases f.projection [] [] n.query.resolvers >>= fun fields => fields.mapM memberPath with
  | ok paths => simp [expandPaths_eq_error]
  | error e' =>
    constructor
    · rintro ⟨h, hne⟩
      cases h
      exact absurd rfl hne
    · rintro ⟨⟨paths, hpaths, -⟩, -⟩
      cases hpaths

/-- Paths stop at the first with an empty name. -/
theorem stopsAt_expandPath {n m : Node} {paths : List String} {e : QueryError} :
    StopsAt expandPath n paths m e ↔
      ∃ done path rest, paths = done ++ path :: rest ∧ Steps expandPath n done m ∧
        "" ∈ Text.segments path ∧ e = .invalidField path := by
  simp only [StopsAt, expandPath_eq_error]

/-- A known option fails as its setting does. -/
theorem applyOption_eq_error {r : Reader} {n m : Node} {name value : String} {option : OptionName}
    {e : QueryError}
    (hname : OptionName.ofText? (String.ofList (Text.trim name.toList)) = some option) :
    r.applyOption n name value = (m, .error e) ↔
      n.setOption r.resolvers r.parseExpand option value.toList = (m, .error e) := by
  simp only [Reader.applyOption, hname]
  generalize n.setOption r.resolvers r.parseExpand option value.toList = outcome
  obtain ⟨n', _ | _⟩ := outcome <;> simp [Except.map]

end Node

/-! ### Exactly the calls that fail half done -/

open Node

/-- A call that fails changes the node in one way only.  An `$expand` whose text is read adds its
expansions up to the first that conflicts, and a closure adds its paths up to the first with an
empty name; what was added before stays.  Everything else of the node is as it was. -/
theorem failing_call_changes_iff (r : Reader) (n m : Node) (name value : String)
    (f : Closure.Lambda) (e : QueryError) :
    (r.applyOption n name value = (m, .error e) ∧ m ≠ n ↔
      OptionName.ofText? (String.ofList (Text.trim name.toList)) = some .expand ∧
      (∃ children, r.parseExpand value.toList = .ok children ∧
        StopsAt expandWith n children m e) ∧
      Kept n m ∧ m ≠ n) ∧
    (n.expandClosure f = (m, .error e) ∧ m ≠ n ↔
      (∃ paths, (f.projection [] [] n.query.resolvers >>= fun fields => fields.mapM memberPath)
          = .ok paths ∧
        ∃ done path rest, paths = done ++ path :: rest ∧ Steps expandPath n done m ∧
          "" ∈ Text.segments path ∧ e = .invalidField path) ∧
      Kept n m ∧ m ≠ n) := by
  constructor
  · cases hname : OptionName.ofText? (String.ofList (Text.trim name.toList)) with
    | none => simp [Reader.applyOption, hname]
    | some option =>
      rw [applyOption_eq_error hname, setOption_error_changes_iff, Option.some_inj]
      constructor
      · rintro ⟨hoption, ⟨children, hread, hstops⟩, hne⟩
        exact ⟨hoption, ⟨children, hread, hstops⟩, hstops.kept expandWith_kept, hne⟩
      · rintro ⟨hoption, hexpand, -, hne⟩
        exact ⟨hoption, hexpand, hne⟩
  · simp only [← stopsAt_expandPath]
    rw [expandClosure_error_changes_iff]
    constructor
    · rintro ⟨⟨paths, hread, hstops⟩, hne⟩
      exact ⟨⟨paths, hread, hstops⟩, hstops.kept expandPath_kept, hne⟩
    · rintro ⟨hclosure, -, hne⟩
      exact ⟨hclosure, hne⟩

/-- Orders with five of their items are asked for products and for ten of their items: the products
are there after the call that fails. -/
theorem failing_expand_keeps_products :
    let items : Node := { Node.navigation "items" with
      query := (Node.navigation "items").query.take 5 }
    let orders : Node := { Node.navigation "Order" with expand := [items] }
    let call := Reader.applyOption ⟨.empty, 8⟩ orders "$expand" "product,items($top=10)"
    call.2.isOk = false ∧ call.1 ≠ orders ∧
      call.1.expand.map Node.name? = [some "items", some "product"] := by
  intro items orders call
  have hnames : call.1.expand.map Node.name? = [some "items", some "product"] := by decide +kernel
  refine ⟨by decide +kernel, ?_, hnames⟩
  intro heq
  rw [heq] at hnames
  exact absurd hnames (by decide)

end Polyquery.OData
