import Polyquery.Proofs.OData.AppliedOptions
import Polyquery.Proofs.Query.Projection

/-!
# Queries that options can express

* `Expressible` - queries whose clauses are printable and that have nothing but those clauses;
* `Node.Expressible` - queries with expansions, all of them expressible and apart by their names;
* `Node.depth` - how deep expansions nest; `Node.withoutResolvers` - a node as options can tell it;
* `applied_options` - the options of a query, applied to its bare collection, give the query back.
-/

namespace Polyquery.OData

/-! ### Queries -/

/-- A query whose clauses are printable, and that has nothing but those clauses. -/
structure Expressible (q : Query) : Prop where
  fields : ∀ f ∈ q.fields, PrintableField f
  fieldNames : (q.fields.map Field.name).Nodup
  filter : ∀ e ∈ q.filter, RoundTrips e
  ordering : ∀ t ∈ q.ordering, RoundTrips t.expr
  grouping : ∀ e ∈ q.grouping, RoundTrips e
  limit : 0 ≤ q.limit
  offset : 0 ≤ q.offset
  prepared : q.prepared = none
  lookups : q.lookups = []
  distinct : q.distinct = false
  payload : q.payload = none
  pending : q.pending = none
  connective : q.connective = none
  staged : q.staged = none

namespace Node

/-- A node that expands navigations of different names, each a single word without a point. -/
inductive Expressible : Node → Prop where
  | mk {query : Query} {expand : List Node} {levels : Option Levels} {count : Bool} :
      OData.Expressible query →
      (∀ child ∈ expand, ∃ name, child.query.collection = some (Entity.named name) ∧
        IsIdentifier name ∧ '.' ∉ name.toList) →
      (expand.map name?).Nodup →
      (∀ child ∈ expand, Expressible child) → Expressible ⟨query, expand, levels, count⟩

mutual

/-- How deep the expansions of a node nest. -/
def depth : Node → Nat
  | ⟨_, expand, _, _⟩ => depthBelow expand

/-- How deep expansions nest, themselves included. -/
def depthBelow : List Node → Nat
  | [] => 0
  | child :: rest => max (depth child + 1) (depthBelow rest)

end

mutual

/-- A node without the resolvers of its queries; no option tells them. -/
def withoutResolvers : Node → Node
  | ⟨query, expand, levels, count⟩ =>
    ⟨{ query with resolvers := .empty }, allWithoutResolvers expand, levels, count⟩

/-- Nodes without the resolvers of their queries. -/
def allWithoutResolvers : List Node → List Node
  | [] => []
  | child :: rest => withoutResolvers child :: allWithoutResolvers rest

end

theorem depth_lt_of_mem {child : Node} {expand : List Node} (h : child ∈ expand) :
    child.depth < depthBelow expand := by
  induction expand with
  | nil => cases h
  | cons first rest ih =>
    rw [depthBelow]
    rcases List.mem_cons.1 h with rfl | h
    · omega
    · have hrest := ih h
      omega

theorem allWithoutResolvers_eq_map (expand : List Node) :
    allWithoutResolvers expand = expand.map withoutResolvers := by
  induction expand with
  | nil => rfl
  | cons child rest ih => rw [allWithoutResolvers, ih, List.map_cons]

theorem name?_withoutResolvers (n : Node) : n.withoutResolvers.name? = n.name? := by
  cases n
  rfl

/-! ### Adding expansions -/

theorem place_new {α : Type} {like : α → Bool} {change : α → QueryResult α} {new : α} {xs : List α}
    (h : ∀ x ∈ xs, like x = false) : place like change new xs = .ok (xs ++ [new]) := by
  induction xs with
  | nil => rfl
  | cons x xs ih =>
    have hx := h x List.mem_cons_self
    rw [place, hx, ih fun y hy => h y (List.mem_cons_of_mem x hy)]
    rfl

theorem expandWith_new {n child : Node} (h : child.name? ∉ n.expand.map name?) :
    n.expandWith child = .ok { n with expand := n.expand ++ [child] } := by
  have happart : ∀ sibling ∈ n.expand, sameName sibling child = false := by
    intro sibling hmem
    have hne : sibling.name? ≠ child.name? := fun heq => h (heq ▸ List.mem_map_of_mem hmem)
    simp [sameName, hne]
  rw [expandWith, mergeAll, place_new happart]
  rfl

/-- Expansions of different names are all added. -/
theorem expandAll_of_nodup {n : Node} {children : List Node}
    (h : ((n.expand ++ children).map name?).Nodup) :
    n.expandAll children = ({ n with expand := n.expand ++ children }, .ok ()) := by
  induction children generalizing n with
  | nil =>
    rw [List.append_nil, expandAll]
    cases n
    rfl
  | cons child rest ih =>
    have hnew : child.name? ∉ n.expand.map name? := not_mem_of_nodup h
    have hrest : ((({ n with expand := n.expand ++ [child] } : Node).expand ++ rest).map
        name?).Nodup := by
      rw [List.append_assoc]
      exact h
    rw [expandAll, expandWith_new hnew]
    show expandAll { n with expand := n.expand ++ [child] } rest = _
    rw [ih hrest]
    simp

end Node

/-! ### Options of a query -/

/-- A node of the clauses that options can tell. -/
def built (entity : Entity) (fields : List Field) (filter : Option Expr) (ordering : List OrderTerm)
    (grouping : List Expr) (expand : List Node) (limit offset : Int64) (count : Bool)
    (levels : Option Levels) : Node :=
  ⟨⟨some entity, fields, filter, none, ordering, grouping, [], limit, offset, false, none, none,
    none, none, .empty⟩, expand, levels, count⟩

/-- An expressible query is made of the clauses that options can tell. -/
theorem Expressible.eq_built {q : Query} (h : Expressible q) {entity : Entity}
    (hentity : q.collection = some entity) (expand : List Node) (levels : Option Levels)
    (count : Bool) :
    (⟨{ q with resolvers := .empty }, expand, levels, count⟩ : Node)
      = built entity q.fields q.filter q.ordering q.grouping expand q.limit q.offset count
          levels := by
  cases q with
  | mk collection fields filter prepared ordering grouping lookups limit offset distinct payload
      pending connective staged resolvers =>
    obtain rfl : collection = some entity := hentity
    obtain rfl : prepared = none := h.prepared
    obtain rfl : lookups = [] := h.lookups
    obtain rfl : distinct = false := h.distinct
    obtain rfl : payload = none := h.payload
    obtain rfl : pending = none := h.pending
    obtain rfl : connective = none := h.connective
    obtain rfl : staged = none := h.staged
    rfl

section Segments

variable (expansions : List Char → QueryResult (List Node))

/-- An option of a list, left out if the list is empty. -/
theorem applied_list {α : Type} {rs : Resolvers} {printed : QueryResult (List String)}
    {parse : List Char → QueryResult (List α)} {xs : List α} {n n' : Node} {key : String}
    {name : OptionName} (hkey : IsIdentifier key) (hname : OptionName.ofText? key = some name)
    (hclause : xs ≠ [] → PrintsClause printed parse xs)
    (hnil : xs = [] → printed = .ok [] ∧ n' = n)
    (hset : ∀ text, parse text = .ok xs → n.setOption rs expansions name text = (n', .ok ())) :
    ∃ texts, printed = .ok texts ∧
      Applied rs expansions n (Writer.listOption key texts) n' := by
  by_cases hne : xs = []
  · obtain ⟨hprinted, rfl⟩ := hnil hne
    exact ⟨[], hprinted, .nil⟩
  · obtain ⟨texts, hprinted, htexts, hvalue, hparse⟩ := hclause hne
    refine ⟨texts, hprinted, ?_⟩
    have hsome : texts.isEmpty = false := List.isEmpty_eq_false_iff.2 htexts
    rw [Writer.listOption, hsome]
    exact .one hkey hname hvalue (hset _ hparse)

/-- A clause whose items are printed one by one, put into a node that has none of it yet. -/
theorem applied_clause {α : Type} {rs : Resolvers} {item : α → QueryResult String}
    {parse : List Char → QueryResult (List α)} {xs : List α} {n : Node} {key : String}
    {name : OptionName} (put : List α → Node) (hkey : IsIdentifier key)
    (hname : OptionName.ofText? key = some name)
    (hclause : xs ≠ [] → PrintsClause (xs.mapM item) parse xs) (hnone : put [] = n)
    (hset : ∀ text, n.setOption rs expansions name text = n.changed ((parse text).map put)) :
    ∃ texts, xs.mapM item = .ok texts ∧
      Applied rs expansions n (Writer.listOption key texts) (put xs) := by
  refine applied_list expansions hkey hname hclause ?_ ?_
  · rintro rfl
    exact ⟨rfl, hnone⟩
  · intro text htext
    rw [hset, htext]
    rfl

/-- A bound, put into a node that has none yet, and left out if it is not positive. -/
theorem applied_bound {k : Int64} {n : Node} {key : String} {name : OptionName}
    (put : Int64 → Node) (hkey : IsIdentifier key) (hname : OptionName.ofText? key = some name)
    (hk : 0 ≤ k) (hnone : put 0 = n)
    (hset : ∀ text,
      n.setOption .empty expansions name text = n.changed ((numberValue text).map put)) :
    Applied .empty expansions n (Writer.boundOption key k) (put k) := by
  rw [Writer.boundOption]
  by_cases hpos : 0 < k
  · rw [if_pos hpos]
    refine .one hkey hname (isValue_text64 k) ?_
    show n.setOption .empty expansions name (Integer.text64 k).toList = _
    rw [hset, numberValue_text64]
    rfl
  · obtain rfl : k = 0 := Int64.le_antisymm (Int64.not_lt.1 hpos) hk
    rw [if_neg hpos, hnone]
    exact .nil

end Segments

/-! ### One option each -/

section Options

variable (expansions : List Char → QueryResult (List Node)) (n : Node)

theorem applied_expand {printed : QueryResult (List String)} {children : List Node}
    (hn : n.expand = []) (hclause : children ≠ [] → PrintsClause printed expansions children)
    (hnil : children = [] → printed = .ok []) (hnames : (children.map Node.name?).Nodup) :
    ∃ items, printed = .ok items ∧
      Applied .empty expansions n (Writer.listOption "$expand" items)
        { n with expand := children } := by
  refine applied_list expansions (by decide)
    (show OptionName.ofText? "$expand" = some .expand by decide) hclause ?_ ?_
  · intro hchildren
    refine ⟨hnil hchildren, ?_⟩
    rw [hchildren, ← hn]
    cases n
    rfl
  · intro text htext
    simp only [Node.setOption, htext]
    rw [Node.expandAll_of_nodup (by rw [hn]; exact hnames), hn, List.nil_append]

theorem applied_count (hn : n.count = false) (count : Bool) :
    Applied .empty expansions n (if count then [("$count", .flag true)] else [])
      { n with count := count } := by
  cases count with
  | false =>
    have hsame : ({ n with count := false } : Node) = n := by
      rw [← hn]
      cases n
      rfl
    rw [hsame]
    exact .nil
  | true =>
    exact .one (by decide) (show OptionName.ofText? "$count" = some .count by decide)
      ((PrintableLiteral.bool true).written .empty).isValue rfl

theorem applied_levels (hn : n.levels = none) (levels : Option Levels) :
    Applied .empty expansions n (levels.toList.map fun l => ("$levels", .text l.text))
      { n with levels := levels } := by
  cases levels with
  | none =>
    have hsame : ({ n with levels := none } : Node) = n := by
      rw [← hn]
      cases n
      rfl
    rw [hsame]
    exact .nil
  | some l =>
    refine .one (by decide) (show OptionName.ofText? "$levels" = some .levels by decide)
      (isValue_levels l) ?_
    simp only [OptionValue.toText, Node.setOption, levelsValue_text, Except.map, Node.changed]

end Options

/-! ### One clause each -/

section Clauses

variable {q : Query} (h : Expressible q) (entity : Entity)
  (expansions : List Char → QueryResult (List Node)) (countOnPaging : Bool)

include h

theorem applied_fields :
    ∃ texts, q.fields.mapM (Writer.selectItem ⟨.standard, countOnPaging⟩) = .ok texts ∧
      Applied .empty expansions (.ofQuery (Query.empty.fromCollection entity))
        (Writer.listOption "$select" texts)
        (built entity q.fields none [] [] [] 0 0 false none) := by
  have hmerge : Query.mergeFields [] q.fields = q.fields := Query.mergeFields_of_nodup h.fieldNames
  have hmerged := applied_clause expansions
    (fun fs => built entity (Query.mergeFields [] fs) none [] [] [] 0 0 false none) (by decide)
    (show OptionName.ofText? "$select" = some .select by decide)
    (fun hne => parseSelect_texts countOnPaging hne h.fields) rfl fun _ => rfl
  rwa [hmerge] at hmerged

theorem applied_filter :
    ∃ options, Writer.filterOption ⟨.standard, countOnPaging⟩ q.effectiveFilter = .ok options ∧
      Applied .empty expansions (built entity q.fields none [] [] [] 0 0 false none) options
        (built entity q.fields q.filter [] [] [] 0 0 false none) := by
  have heffective : q.effectiveFilter = q.filter := by
    rw [Query.effectiveFilter, h.prepared]
    cases q.filter <;> rfl
  rw [heffective]
  cases hq : q.filter with
  | none => exact ⟨[], rfl, .nil⟩
  | some e =>
    obtain ⟨text, hr, hw⟩ := (h.filter e hq).printed
    refine ⟨[("$filter", .text text)], ?_, ?_⟩
    · show (Dialect.standard.render e).map _ = _
      rw [hr]
      rfl
    · have hparse : parseFilter .empty text.toList = .ok e := hw.parseFilter
      refine .one (by decide) (show OptionName.ofText? "$filter" = some .filter by decide)
        hw.isValue ?_
      simp only [OptionValue.toText, Node.setOption, hparse, Except.map, Node.changed]
      rfl

theorem applied_ordering :
    ∃ texts, q.ordering.mapM (Writer.orderItem ⟨.standard, countOnPaging⟩) = .ok texts ∧
      Applied .empty expansions (built entity q.fields q.filter [] [] [] 0 0 false none)
        (Writer.listOption "$orderby" texts)
        (built entity q.fields q.filter q.ordering [] [] 0 0 false none) :=
  applied_clause expansions
    (fun ts => built entity q.fields q.filter ts [] [] 0 0 false none) (by decide)
    (show OptionName.ofText? "$orderby" = some .orderby by decide)
    (fun hne => parseOrder_texts countOnPaging hne h.ordering) rfl fun _ => rfl

theorem applied_grouping :
    ∃ texts, q.grouping.mapM Dialect.standard.render = .ok texts ∧
      Applied .empty expansions (built entity q.fields q.filter q.ordering [] [] 0 0 false none)
        (Writer.listOption "$groupby" texts)
        (built entity q.fields q.filter q.ordering q.grouping [] 0 0 false none) :=
  applied_clause expansions
    (fun es => built entity q.fields q.filter q.ordering es [] 0 0 false none) (by decide)
    (show OptionName.ofText? "$groupby" = some .groupby by decide)
    (fun hne => parseGroup_texts hne h.grouping) rfl fun _ => rfl

end Clauses

/-- The options of a query, applied to its bare collection, give the query back. -/
theorem applied_options {q : Query} (h : Expressible q) {entity : Entity}
    (hentity : q.collection = some entity) (countOnPaging : Bool)
    {printed : QueryResult (List String)} {expansions : List Char → QueryResult (List Node)}
    {children : List Node} (hclause : children ≠ [] → PrintsClause printed expansions children)
    (hnil : children = [] → printed = .ok []) (hnames : (children.map Node.name?).Nodup)
    (levels : Option Levels) (count : Bool) :
    ∃ options, Writer.optionsWith ⟨.standard, countOnPaging⟩ q printed levels count = .ok options ∧
      Applied .empty expansions (.ofQuery (Query.empty.fromCollection entity)) options
        ⟨{ q with resolvers := .empty }, children, levels, count⟩ := by
  obtain ⟨fields, hfields, hselect⟩ := applied_fields h entity expansions countOnPaging
  obtain ⟨filter, hfilter, hwhere⟩ := applied_filter h entity expansions countOnPaging
  obtain ⟨terms, hterms, horder⟩ := applied_ordering h entity expansions countOnPaging
  obtain ⟨keys, hkeys, hgroup⟩ := applied_grouping h entity expansions
  obtain ⟨items, hitems, hexpand⟩ :=
    applied_expand expansions
      (built entity q.fields q.filter q.ordering q.grouping [] 0 0 false none) rfl hclause hnil
      hnames
  have htop := applied_bound expansions
    (fun k => built entity q.fields q.filter q.ordering q.grouping children k 0 false none)
    (by decide) (show OptionName.ofText? "$top" = some .top by decide) h.limit rfl fun _ => rfl
  have hskip := applied_bound expansions
    (fun k => built entity q.fields q.filter q.ordering q.grouping children q.limit k false none)
    (by decide) (show OptionName.ofText? "$skip" = some .skip by decide) h.offset rfl fun _ => rfl
  have hcount := applied_count expansions
    (built entity q.fields q.filter q.ordering q.grouping children q.limit q.offset false none) rfl
    count
  have hlevels := applied_levels expansions
    (built entity q.fields q.filter q.ordering q.grouping children q.limit q.offset count none) rfl
    levels
  have hkind : q.kind = .select := by rw [Query.kind, h.payload]
  rw [h.eq_built hentity]
  refine ⟨_, ?_, (((((((hselect.append hwhere).append horder).append hgroup).append hexpand).append
    htop).append hskip).append hcount).append hlevels⟩
  simp only [Writer.optionsWith, hkind, h.lookups, hfields, hfilter, hterms, hkeys, hitems,
    List.isEmpty_nil, Bool.not_true, ne_eq, not_true_eq_false, if_false, bind, Except.bind]
  rfl

end Polyquery.OData
