import Polyquery.Proofs.OData.Depth
import Polyquery.Proofs.OData.Siblings
import Polyquery.Proofs.Query.Projection

/-!
# Nodes that options are read as

Reading query options gives queries that have nothing but what options give, and expansions of
different names.

* `OptionsOnly` - a query with fields of different names, and without prepared filters, joins,
  payloads and the state of a builder;
* `Regular` - a node of such a query whose expansions are apart and named without an alias;
* `keeps_regular` - merging keeps nodes regular;
* `expansions_regular`, `parseQuery_regular` - reading gives nodes that are regular everywhere;
* `siblings_stay_merged` - nothing that adds expansions repeats a name among siblings.
-/

namespace Polyquery.OData

/-! ### Queries with nothing but options -/

/-- A query that has nothing but what query options give. -/
structure OptionsOnly (q : Query) : Prop where
  fieldNames : (q.fields.map Field.name).Nodup
  prepared : q.prepared = none
  lookups : q.lookups = []
  distinct : q.distinct = false
  payload : q.payload = none
  pending : q.pending = none
  connective : q.connective = none
  staged : q.staged = none
  resolvers : q.resolvers = .empty

namespace OptionsOnly

variable {q : Query} (h : OptionsOnly q)

include h

theorem select (fields : List Field) : OptionsOnly (q.select fields) :=
  ⟨Query.mergeFields_nodup h.fieldNames fields, h.prepared, h.lookups, h.distinct, rfl, h.pending,
    h.connective, h.staged, h.resolvers⟩

theorem whereExpr (filter : Expr) : OptionsOnly (q.whereExpr filter) :=
  ⟨h.fieldNames, h.prepared, h.lookups, h.distinct, h.payload, rfl, rfl, h.staged, h.resolvers⟩

theorem orderByTerms (terms : List OrderTerm) : OptionsOnly (q.orderByTerms terms) :=
  ⟨h.fieldNames, h.prepared, h.lookups, h.distinct, h.payload, h.pending, h.connective, h.staged,
    h.resolvers⟩

theorem groupByExprs (keys : List Expr) : OptionsOnly (q.groupByExprs keys) :=
  ⟨h.fieldNames, h.prepared, h.lookups, h.distinct, h.payload, h.pending, h.connective, h.staged,
    h.resolvers⟩

theorem take (k : Int64) : OptionsOnly (q.take k) :=
  ⟨h.fieldNames, h.prepared, h.lookups, h.distinct, h.payload, h.pending, h.connective, h.staged,
    h.resolvers⟩

theorem skip (k : Int64) : OptionsOnly (q.skip k) :=
  ⟨h.fieldNames, h.prepared, h.lookups, h.distinct, h.payload, h.pending, h.connective, h.staged,
    h.resolvers⟩

/-- Taking over the clauses of another query gives nothing but options. -/
theorem mergeQuery (theirs : Query) : OptionsOnly (Node.mergeQuery q theirs) := by
  rw [Node.mergeQuery_eq]
  exact ⟨Query.mergeFields_nodup h.fieldNames _, h.prepared, h.lookups, h.distinct, rfl,
    by simp [h.pending], by simp [h.connective], h.staged, h.resolvers⟩

end OptionsOnly

theorem optionsOnly_fromCollection (entity : Entity) :
    OptionsOnly (Query.empty.fromCollection entity) :=
  ⟨List.nodup_nil, rfl, rfl, rfl, rfl, rfl, rfl, rfl, rfl⟩

namespace Node

/-! ### Regular nodes -/

/-- A node is named as expansions are, by a collection without an alias. -/
def IsNavigation (n : Node) : Prop := ∃ name, n.query.collection = some (Entity.named name)

theorem IsNavigation.name {n : Node} (h : n.IsNavigation) : n.name? ≠ none := by
  obtain ⟨name, hname⟩ := h
  rw [name?, hname]
  exact Option.some_ne_none _

/-- Expansions of one name have one collection. -/
theorem IsNavigation.collection_eq {a b : Node} (ha : a.IsNavigation) (hb : b.IsNavigation)
    (h : a.name? = b.name?) : a.query.collection = b.query.collection := by
  obtain ⟨name, hname⟩ := ha
  obtain ⟨name', hname'⟩ := hb
  rw [name?, name?, hname, hname'] at h
  obtain rfl : name = name' := Option.some.inj h
  rw [hname, hname']

/-- A node that options alone may have made, its expansions apart. -/
structure Regular (n : Node) : Prop where
  options : OptionsOnly n.query
  apart : Apart n.expand
  named : ∀ child ∈ n.expand, child.IsNavigation

/-- A node is as expansions are read, down to the last. -/
def IsExpansion (n : Node) : Prop := Everywhere Regular n ∧ n.IsNavigation

theorem merge_collection {ours theirs merged : Node} (h : merge ours theirs = .ok merged) :
    merged.query.collection = ours.query.collection := by
  obtain ⟨-, m, hall, rfl⟩ := merge_eq_ok.1 h
  rw [← mergeAll_query hall]
  exact mergeQuery_collection m.query theirs.query

/-- Merging keeps nodes regular. -/
theorem keeps_regular : Keeps Regular where
  grown := by
    intro n owner child siblings hn howner hmem hplace
    refine ⟨hn.options, hn.apart.place (fun _ _ => merge_name) hplace, fun sibling hsibling => ?_⟩
    rcases mem_of_place hplace hsibling with hold | rfl | ⟨ours, hours, -, hmerged⟩
    · exact hn.named sibling hold
    · exact howner.named sibling hmem
    · obtain ⟨name, hname⟩ := hn.named ours hours
      exact ⟨name, (merge_collection hmerged).trans hname⟩
  merged hn _ := ⟨hn.options.mergeQuery _, hn.apart, hn.named⟩

theorem regular_ofQuery {q : Query} (h : OptionsOnly q) : Everywhere Regular (ofQuery q) := by
  refine everywhere_iff.2 ⟨⟨h, List.nodup_nil, ?_⟩, ?_⟩
  · exact fun child hchild => absurd hchild List.not_mem_nil
  · exact fun child hchild => absurd hchild List.not_mem_nil

theorem isExpansion_navigation (name : String) : (navigation name).IsExpansion :=
  ⟨regular_ofQuery (optionsOnly_fromCollection _), name, rfl⟩

theorem IsExpansion.nest {leaf : Node} (h : leaf.IsExpansion) (names : List String) :
    (nest names leaf).IsExpansion := by
  refine everywhere_nest (fun name inner hinner => ?_) (fun name _ => ⟨name, rfl⟩) names h.1 h.2
  refine ⟨optionsOnly_fromCollection _, apart_singleton inner, fun child hchild => ?_⟩
  rw [List.mem_singleton.1 hchild]
  exact hinner

/-! ### Options -/

theorem Everywhere.withQuery {n : Node} (hn : Everywhere Regular n) {q : Query}
    (hq : OptionsOnly q) : Everywhere Regular (n.withQuery q) := by
  obtain ⟨hhere, hbelow⟩ := everywhere_iff.1 hn
  exact everywhere_iff.2 ⟨⟨hq, hhere.apart, hhere.named⟩, hbelow⟩

theorem expandWith_regular {n child m : Node} (hn : Everywhere Regular n)
    (hchild : child.IsExpansion) (h : n.expandWith child = .ok m) : Everywhere Regular m := by
  have howner : Regular { navigation "" with expand := [child] } := by
    refine ⟨optionsOnly_fromCollection _, apart_singleton child, fun c hc => ?_⟩
    rw [List.mem_singleton.1 hc]
    exact hchild.2
  exact keeps_regular.expandWith hn howner List.mem_cons_self hchild.1 h

/-- Expansions are added to a regular node in turn, also up to one that conflicts. -/
theorem expandAll_regular {n : Node} {children : List Node} (hn : Everywhere Regular n)
    (hchildren : ∀ child ∈ children, child.IsExpansion) :
    Everywhere Regular (n.expandAll children).1 ∧ (n.expandAll children).1.query = n.query := by
  induction children generalizing n with
  | nil => exact ⟨hn, rfl⟩
  | cons child rest ih =>
    rw [List.forall_mem_cons] at hchildren
    rw [expandAll]
    cases hchild : n.expandWith child with
    | ok m =>
      obtain ⟨hregular, hquery⟩ := ih (expandWith_regular hn hchildren.1 hchild) hchildren.2
      exact ⟨hregular, hquery.trans (expandWith_kept hchild).query⟩
    | error e => exact ⟨hn, rfl⟩

section Options

variable {rs : Resolvers} {expansions : List Char → QueryResult (List Node)}
  (hexpansions : ∀ text, Gives (fun ns => ∀ n ∈ ns, n.IsExpansion) (expansions text))

include hexpansions

/-- An option keeps a node regular, and its name, also where it fails. -/
theorem setOption_regular {n : Node} (hn : Everywhere Regular n) (name : OptionName)
    (text : List Char) :
    Everywhere Regular (n.setOption rs expansions name text).1 ∧
      (n.setOption rs expansions name text).1.query.collection = n.query.collection := by
  have hquery : OptionsOnly n.query := (everywhere_iff.1 hn).1.options
  have hchanged : ∀ {α : Type} (x : QueryResult α) (f : α → Node),
      (∀ a, Everywhere Regular (f a) ∧ (f a).query.collection = n.query.collection) →
      Everywhere Regular (n.changed (x.map f)).1 ∧
        (n.changed (x.map f)).1.query.collection = n.query.collection := by
    intro α x f h
    cases x with
    | ok a => exact h a
    | error e => exact ⟨hn, rfl⟩
  have hsame : ∀ (levels : Option Levels) (count : Bool),
      Everywhere Regular ⟨n.query, n.expand, levels, count⟩ := by
    intro levels count
    obtain ⟨hhere, hbelow⟩ := everywhere_iff.1 hn
    exact everywhere_iff.2 ⟨⟨hquery, hhere.apart, hhere.named⟩, hbelow⟩
  cases name with
  | expand =>
    rw [setOption]
    cases hread : expansions text with
    | ok children =>
      obtain ⟨hregular, hkept⟩ := expandAll_regular hn (hexpansions text children hread)
      exact ⟨hregular, congrArg Query.collection hkept⟩
    | error e => exact ⟨hn, rfl⟩
  | filter =>
    rw [setOption]
    exact hchanged _ _ fun e => ⟨hn.withQuery (hquery.whereExpr e), rfl⟩
  | select =>
    rw [setOption]
    exact hchanged _ _ fun fields => ⟨hn.withQuery (hquery.select fields), rfl⟩
  | orderby =>
    rw [setOption]
    exact hchanged _ _ fun terms => ⟨hn.withQuery (hquery.orderByTerms terms), rfl⟩
  | groupby =>
    rw [setOption]
    exact hchanged _ _ fun keys => ⟨hn.withQuery (hquery.groupByExprs keys), rfl⟩
  | top =>
    rw [setOption]
    exact hchanged _ _ fun k => ⟨hn.withQuery (hquery.take k), rfl⟩
  | skip =>
    rw [setOption]
    exact hchanged _ _ fun k => ⟨hn.withQuery (hquery.skip k), rfl⟩
  | count =>
    rw [setOption]
    exact hchanged _ _ fun b => ⟨hsame n.levels b, rfl⟩
  | levels =>
    rw [setOption]
    exact hchanged _ _ fun l => ⟨hsame (some l) n.count, rfl⟩

theorem nodeOptions_regular (ctx : Context) (source : List Char) (fuel : Nat) {n : Node}
    (hn : n.IsExpansion) (ts : List Token) :
    Gives (fun r => r.1.IsExpansion)
      (nodeOptions ctx source (fun n => n.setOption rs expansions) fuel n ts) := by
  induction fuel generalizing n ts with
  | zero => exact .error _ _
  | succ fuel ih =>
    rw [nodeOptions]
    refine .bind (.any _) fun name _ => .bind (.any _) fun ts₁ _ => .bind (.any _) fun value _ => ?_
    dsimp only
    split
    · exact .error _ _
    · split
      · exact .error _ _
      · rename_i m hset
        obtain ⟨hregular, hsame⟩ := setOption_regular hexpansions hn.1 _ _
        rw [hset] at hregular hsame
        obtain ⟨name, hname⟩ := hn.2
        have hm : m.IsExpansion := ⟨hregular, name, hsame.trans hname⟩
        split
        · exact ih hm _
        · exact .bind (.any _) fun _ _ => .ok hm

end Options

end Node

/-! ### Expansions -/

theorem commaSeparated_gives {α : Type} {P : α → Prop} {item : Parser α}
    (h : ∀ ts, Gives (fun r => P r.1) (item ts)) (ts : List Token) :
    Gives (fun r => ∀ a ∈ r.1, P a) (commaSeparated item ts) :=
  fun r hr => ((commaSeparated_restricts (fun ts => .refl (h ts)) ts r).1 hr).2

namespace Reader

open Node

theorem expandEntry_regular (r : Reader) (ctx : Context) (source : List Char) (levels : Nat)
    {deeper : Nat → List Char → QueryResult (List Node)}
    (h : ∀ k, ∀ text, k ≤ levels → Gives (fun ns => ∀ n ∈ ns, n.IsExpansion) (deeper k text))
    (ts : List Token) :
    Gives (fun p => p.1.IsExpansion) (r.expandEntry ctx source levels deeper ts) := by
  refine .bind (.any _) fun names _ => ?_
  dsimp only
  split
  · exact .error _ _
  · rename_i hlevels
    have hleaf := isExpansion_navigation (names.1.getLast?.getD "")
    split
    · refine .bind (nodeOptions_regular (fun text => h _ text (Nat.not_lt.1 hlevels)) ctx source _
        hleaf _) fun leaf hread => .ok (hread.nest _)
    · exact .ok (hleaf.nest _)

/-- The expansions of a text are regular everywhere. -/
theorem expansions_regular (r : Reader) (levels : Nat) (text : List Char) :
    Gives (fun ns => ∀ n ∈ ns, n.IsExpansion) (r.expansions levels text) := by
  induction levels using Nat.strongRecOn generalizing text with
  | ind levels ih =>
  cases levels with
  | zero =>
    rw [expansions]
    exact .error _ _
  | succ below =>
    rw [expansions]
    refine parseText_gives fun ctx ts => commaSeparated_gives (fun ts => ?_) ts
    refine expandEntry_regular r ctx text below (fun k inner hk => ?_) ts
    exact ih (below - k) (by omega) inner

/-- An option given as text keeps a node regular, and its name, also where it fails. -/
theorem applyOption_regular (r : Reader) {n : Node} (hn : Everywhere Regular n)
    (name value : String) :
    Everywhere Regular (r.applyOption n name value).1 ∧
      (r.applyOption n name value).1.query.collection = n.query.collection := by
  rw [applyOption]
  split
  · exact ⟨hn, rfl⟩
  · exact setOption_regular (expansions_regular r r.maxDepth) hn _ _

theorem applyOptions_regular (r : Reader) {n : Node} (hn : Everywhere Regular n)
    (options : List (String × String)) :
    Gives (fun m => Everywhere Regular m ∧ m.query.collection = n.query.collection)
      (r.applyOptions n options) := by
  induction options generalizing n with
  | nil => exact .ok ⟨hn, rfl⟩
  | cons option rest ih =>
    obtain ⟨hregular, hsame⟩ := applyOption_regular r hn option.1 option.2
    rw [applyOptions]
    split
    · rename_i m known hm
      rw [hm] at hregular hsame
      exact (ih hregular).imp fun m' hm' => ⟨hm'.1, hm'.2.trans hsame⟩
    · exact .error _ _

/-- The node of options is regular everywhere, and named by the collection it is read for. -/
theorem parseQuery_regular (r : Reader) (collection : Entity) (options : List (String × String)) :
    Gives (fun n => Everywhere Regular n ∧ n.query.collection = some collection)
      (r.parseQuery collection options) :=
  applyOptions_regular r (regular_ofQuery (optionsOnly_fromCollection collection)) options

end Reader

/-! ### Siblings -/

/-- Nothing repeats a name among siblings at any level: the nodes that options are read as, whose
expansions all have names too, and every node that was free of repetitions before an expansion, a
path or the paths of a closure were added to it. -/
theorem siblings_stay_merged (r : Reader) :
    (∀ collection options n, r.parseQuery collection options = .ok n →
      n.AllNamed ∧ n.Unrepeated) ∧
    ∀ n : Node, n.Unrepeated →
      (∀ child m, child.Unrepeated → n.expandWith child = .ok m → m.Unrepeated) ∧
      (∀ path m, n.expandPath path = .ok m → m.Unrepeated) ∧
      ∀ f, (n.expandClosure f).1.Unrepeated := by
  constructor
  · intro collection options n hn
    have hregular := (r.parseQuery_regular collection options n hn).1
    exact ⟨hregular.imp fun m hm child hchild => (hm.named child hchild).name,
      hregular.imp fun m hm => hm.apart⟩
  · intro n hn
    exact ⟨fun child m hchild h => hn.expandWith hchild h, fun path m h => hn.expandPath h,
      hn.expandClosure⟩

/-- The items of orders are named by a path and once more by an entry of their own, and then twice
more by calls. -/
theorem siblings_stay_merged_items : ∃ n m l : Node,
    Reader.parseQuery ⟨.empty, 3⟩ (Entity.named "orders")
      [("$expand", "items/product,items($expand=supplier)")] = .ok n ∧
    n.AllNamed ∧ n.Unrepeated ∧
    n.expandPath "items.product.maker" = .ok m ∧ m.Unrepeated ∧
    (Node.navigation "items").Unrepeated ∧
    m.expandWith (Node.navigation "items") = .ok l ∧ l.Unrepeated ∧
    l.expand.map Node.name? = [some "items"] := by
  have hrun : ((Reader.parseQuery ⟨.empty, 3⟩ (Entity.named "orders")
      [("$expand", "items/product,items($expand=supplier)")] >>= fun n =>
        n.expandPath "items.product.maker" >>= fun m =>
          m.expandWith (Node.navigation "items")).toOption.map fun l => l.expand.map Node.name?)
      = some [some "items"] := by decide +kernel
  obtain ⟨l, hl, hnames⟩ := Option.map_eq_some_iff.1 hrun
  obtain ⟨n, hn, hl⟩ := bind_eq_ok.1 (toOption_eq_some hl)
  obtain ⟨m, hm, hl⟩ := bind_eq_ok.1 hl
  have hread := (siblings_stay_merged ⟨.empty, 3⟩).1 _ _ n hn
  have hpath := ((siblings_stay_merged ⟨.empty, 3⟩).2 n hread.2).2.1 _ m hm
  have hitems := Node.unrepeated_navigation "items"
  have hlast := ((siblings_stay_merged ⟨.empty, 3⟩).2 m hpath).1 _ l hitems hl
  exact ⟨n, m, l, hn, hread.1, hread.2, hm, hpath, hitems, hl, hlast, hnames⟩

end Polyquery.OData
