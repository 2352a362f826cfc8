import Polyquery.Proofs.OData.Depth

/-!
# Options in another order

Each option reads and writes a part of the query that no other option touches, so options of
different names can change places.

* `Setting`, `Node.set` - what an option that is applied sets;
* `setOption_eq_ok` - an option that is applied sets the same wherever its own part is the same;
* `set_comm` - settings of different options can change places;
* `applyOptions_pull` - an option can be applied before others of different names;
* `InStep` - the options of each name are the same, in the same order;
* `applyOptions_inStep` - options in another order lead to the same node;
* `options_commute` - the same of whole queries, and options that are not known do not count.
-/

namespace Polyquery.OData

/-! ### Settings -/

/-- What an option that is applied sets. -/
inductive Setting where
  | filter (condition : Expr)
  | select (fields : List Field)
  | orderby (terms : List OrderTerm)
  | groupby (keys : List Expr)
  | expand (expansions : List Node)
  | top (n : Int64)
  | skip (n : Int64)
  | count (flag : Bool)
  | levels (l : Levels)

/-- The option that sets it. -/
def Setting.option : Setting → OptionName
  | .filter _ => .filter
  | .select _ => .select
  | .orderby _ => .orderby
  | .groupby _ => .groupby
  | .expand _ => .expand
  | .top _ => .top
  | .skip _ => .skip
  | .count _ => .count
  | .levels _ => .levels

namespace Node

/-- The node after an option; fields are added to those that are projected, and the expansions are
all that are there afterwards. -/
def set (n : Node) : Setting → Node
  | .filter condition => n.withQuery (n.query.whereExpr condition)
  | .select fields => n.withQuery (n.query.select fields)
  | .orderby terms => n.withQuery (n.query.orderByTerms terms)
  | .groupby keys => n.withQuery (n.query.groupByExprs keys)
  | .expand expansions => { n with expand := expansions }
  | .top k => n.withQuery (n.query.take k)
  | .skip k => n.withQuery (n.query.skip k)
  | .count flag => { n with count := flag }
  | .levels l => { n with levels := some l }

theorem set_comm (n : Node) {s t : Setting} (h : s.option ≠ t.option) :
    (n.set s).set t = (n.set t).set s := by
  cases s <;> cases t <;> first | rfl | exact absurd rfl h

/-- Only `$expand` sets expansions. -/
theorem set_expand (n : Node) {s : Setting} (h : s.option ≠ .expand) :
    (n.set s).expand = n.expand := by
  cases s <;> first | rfl | exact absurd rfl h

/-! ### Options that are applied -/

/-- A setting that is read from a text is the same at every node. -/
theorem changed_set_eq_ok {α : Type} (setting : α → Setting) {option : OptionName}
    (hoption : ∀ a, (setting a).option = option) {n m : Node} {x : QueryResult α}
    (h : n.changed (x.map fun a => n.set (setting a)) = (m, .ok ())) :
    ∃ s : Setting, s.option = option ∧ m = n.set s ∧
      ∀ n' : Node, (option = .expand → n'.expand = n.expand) →
        n'.changed (x.map fun a => n'.set (setting a)) = (n'.set s, .ok ()) := by
  obtain ⟨a, hread, rfl⟩ := changed_map_eq_ok.1 h
  exact ⟨setting a, hoption a, rfl, fun _ _ => changed_map_eq_ok.2 ⟨a, hread, rfl⟩⟩

/-- What an expansion adds depends on the expansions that are there, and on nothing else. -/
theorem expandWith_alike {n n' m child : Node} (hn : n'.expand = n.expand)
    (h : n.expandWith child = .ok m) :
    n'.expandWith child = .ok { n' with expand := m.expand } := by
  obtain ⟨siblings, hplace, rfl⟩ := expandWith_eq_ok.1 h
  exact expandWith_eq_ok.2 ⟨siblings, hn ▸ hplace, rfl⟩

theorem expandAll_alike {n n' m : Node} {children : List Node} (hn : n'.expand = n.expand)
    (h : n.expandAll children = (m, .ok ())) :
    n'.expandAll children = ({ n' with expand := m.expand }, .ok ()) := by
  induction children generalizing n n' with
  | nil =>
    cases h
    cases n'
    rw [expandAll, ← hn]
  | cons child rest ih =>
    rw [expandAll] at h ⊢
    cases hchild : n.expandWith child with
    | error e =>
      rw [hchild] at h
      cases h
    | ok n₁ =>
      rw [hchild] at h
      rw [expandWith_alike hn hchild]
      exact @ih n₁ { n' with expand := n₁.expand } rfl h

/-- An option that is applied sets the same at every node; that of `$expand` at every node with the
same expansions. -/
theorem setOption_eq_ok {rs : Resolvers} {expansions : List Char → QueryResult (List Node)}
    {option : OptionName} {text : List Char} {n m : Node}
    (h : n.setOption rs expansions option text = (m, .ok ())) :
    ∃ s : Setting, s.option = option ∧ m = n.set s ∧
      ∀ n' : Node, (option = .expand → n'.expand = n.expand) →
        n'.setOption rs expansions option text = (n'.set s, .ok ()) := by
  cases option with
  | expand =>
    obtain ⟨children, hread, hall⟩ := setOption_expand.1 h
    refine ⟨.expand m.expand, rfl, ?_, fun n' hn' => ?_⟩
    · have hkept := expandAll_alike rfl hall
      rw [hall] at hkept
      exact congrArg Prod.fst hkept
    · exact setOption_expand.2 ⟨children, hread, expandAll_alike (hn' rfl) hall⟩
  | filter => exact changed_set_eq_ok .filter (fun _ => rfl) h
  | select => exact changed_set_eq_ok .select (fun _ => rfl) h
  | orderby => exact changed_set_eq_ok .orderby (fun _ => rfl) h
  | groupby => exact changed_set_eq_ok .groupby (fun _ => rfl) h
  | top => exact changed_set_eq_ok .top (fun _ => rfl) h
  | skip => exact changed_set_eq_ok .skip (fun _ => rfl) h
  | count => exact changed_set_eq_ok .count (fun _ => rfl) h
  | levels => exact changed_set_eq_ok .levels (fun _ => rfl) h

/-- Options of different names can change places. -/
theorem setOption_comm {rs : Resolvers} {expansions : List Char → QueryResult (List Node)}
    {option option' : OptionName} (hne : option ≠ option') {text text' : List Char}
    {n n₁ m : Node} (h : n.setOption rs expansions option text = (n₁, .ok ()))
    (h' : n₁.setOption rs expansions option' text' = (m, .ok ())) :
    ∃ n₂, n.setOption rs expansions option' text' = (n₂, .ok ()) ∧
      n₂.setOption rs expansions option text = (m, .ok ()) := by
  obtain ⟨s, rfl, rfl, hs⟩ := setOption_eq_ok h
  obtain ⟨t, rfl, rfl, ht⟩ := setOption_eq_ok h'
  refine ⟨n.set t, ht n fun hexpand => ?_, ?_⟩
  · exact (set_expand n fun hs' => hne (hs'.trans hexpand.symm)).symm
  · rw [set_comm n hne]
    exact hs (n.set t) fun hexpand => set_expand n fun ht' => hne (hexpand.trans ht'.symm)

end Node

/-! ### Names -/

/-- The name that an option is known by: blanks around it and the case of its letters do not
count. -/
def optionKey (o : String × String) : String :=
  Text.asciiLower (String.ofList (Text.trim o.1.toList))

/-- The name of a known option. -/
def OptionName.text : OptionName → String
  | .filter => "$filter"
  | .select => "$select"
  | .orderby => "$orderby"
  | .groupby => "$groupby"
  | .expand => "$expand"
  | .top => "$top"
  | .skip => "$skip"
  | .count => "$count"
  | .levels => "$levels"

theorem OptionName.text_of_ofText? {name : String} {option : OptionName}
    (h : OptionName.ofText? name = some option) : Text.asciiLower name = option.text := by
  unfold OptionName.ofText? at h
  split at h
  all_goals cases h
  all_goals assumption

/-- The options of each name are the same, in the same order. -/
def InStep (options options' : List (String × String)) : Prop :=
  ∀ key, options.filter (optionKey · == key) = options'.filter (optionKey · == key)

namespace InStep

variable {options options' : List (String × String)}

theorem symm (h : InStep options options') : InStep options' options := fun key => (h key).symm

theorem mem_iff (h : InStep options options') (o : String × String) :
    o ∈ options ↔ o ∈ options' := by
  have hmem : ∀ l : List (String × String), o ∈ l ↔ o ∈ l.filter (optionKey · == optionKey o) :=
    fun l => by simp
  rw [hmem options, hmem options', h]

theorem eq_nil (h : InStep [] options') : options' = [] :=
  List.eq_nil_iff_forall_not_mem.2 fun o ho => List.not_mem_nil ((h.mem_iff o).2 ho)

/-- The first option stands behind options of different names. -/
theorem exists_pull {o : String × String} {rest : List (String × String)}
    (h : InStep (o :: rest) options') :
    ∃ before after, options' = before ++ o :: after ∧
      (∀ b ∈ before, optionKey b ≠ optionKey o) ∧ InStep rest (before ++ after) := by
  have hsame := h (optionKey o)
  rw [List.filter_cons_of_pos (by simp)] at hsame
  obtain ⟨before, after, hsplit, hbefore, -, hafter⟩ := List.filter_eq_cons_iff.1 hsame.symm
  have hdiffer : ∀ b ∈ before, optionKey b ≠ optionKey o :=
    fun b hb => by simpa using hbefore b hb
  refine ⟨before, after, hsplit, hdiffer, fun key => ?_⟩
  have hkey := h key
  rw [hsplit, List.filter_append] at hkey
  rw [List.filter_append]
  by_cases ho : optionKey o = key
  · subst ho
    have hnone : before.filter (optionKey · == optionKey o) = [] :=
      List.filter_eq_nil_iff.2 hbefore
    rw [hnone, List.nil_append, List.filter_cons_of_pos (by simp),
      List.filter_cons_of_pos (by simp)] at hkey
    rw [hnone, List.nil_append]
    exact (List.cons.inj hkey).2
  · rwa [List.filter_cons_of_neg (by simpa using ho), List.filter_cons_of_neg (by simpa using ho)]
      at hkey

/-- Options in step are the same options rearranged. -/
theorem perm (h : InStep options options') : options.Perm options' := by
  induction options generalizing options' with
  | nil =>
    rw [h.eq_nil]
  | cons o rest ih =>
    obtain ⟨before, after, rfl, -, hrest⟩ := h.exists_pull
    exact ((ih hrest).cons o).trans List.perm_middle.symm

/-- The names that are there are enough to compare. -/
theorem iff_forall_mem : InStep options options' ↔ ∀ o ∈ options ++ options',
    options.filter (optionKey · == optionKey o) = options'.filter (optionKey · == optionKey o) := by
  refine ⟨fun h o _ => h (optionKey o), fun h key => ?_⟩
  by_cases hkey : ∃ o ∈ options ++ options', optionKey o = key
  · obtain ⟨o, ho, rfl⟩ := hkey
    exact h o ho
  · have hnone : ∀ o ∈ options ++ options', ¬ (optionKey o == key) = true :=
      fun o ho heq => hkey ⟨o, ho, by simpa using heq⟩
    rw [List.filter_eq_nil_iff.2 fun o ho => hnone o (List.mem_append_left _ ho),
      List.filter_eq_nil_iff.2 fun o ho => hnone o (List.mem_append_right _ ho)]

instance : Decidable (InStep options options') := decidable_of_iff _ iff_forall_mem.symm

end InStep

/-! ### Options in turn -/

namespace Reader

variable {r : Reader} {n m : Node}

/-- An option in front of others is applied, and then the others. -/
theorem applyOptions_cons_eq_ok {o : String × String} {rest : List (String × String)} :
    r.applyOptions n (o :: rest) = .ok m ↔
      ∃ n₁ known, r.applyOption n o.1 o.2 = (n₁, .ok known) ∧
        r.applyOptions n₁ rest = .ok m := by
  rw [applyOptions]
  cases r.applyOption n o.1 o.2 with
  | mk n₁ outcome => cases outcome <;> simp

/-- Options of different names, known or not, can change places. -/
theorem applyOption_comm {o o' : String × String} (hne : optionKey o ≠ optionKey o')
    {n₁ : Node} {known known' : Bool} (h : r.applyOption n o.1 o.2 = (n₁, .ok known))
    (h' : r.applyOption n₁ o'.1 o'.2 = (m, .ok known')) :
    ∃ n₂, r.applyOption n o'.1 o'.2 = (n₂, .ok known') ∧
      r.applyOption n₂ o.1 o.2 = (m, .ok known) := by
  rcases applyOption_eq_ok.1 h with hunknown | ⟨option, hname, hset, hknown⟩
  · obtain ⟨hname, rfl, hknown⟩ := hunknown
    exact ⟨m, h', applyOption_eq_ok.2 (.inl ⟨hname, rfl, hknown⟩)⟩
  · rcases applyOption_eq_ok.1 h' with hunknown | ⟨option', hname', hset', hknown'⟩
    · obtain ⟨hname', rfl, hknown'⟩ := hunknown
      exact ⟨n, applyOption_eq_ok.2 (.inl ⟨hname', rfl, hknown'⟩), h⟩
    · have hoptions : option ≠ option' := by
        rintro rfl
        exact hne ((OptionName.text_of_ofText? hname).trans
          (OptionName.text_of_ofText? hname').symm)
      obtain ⟨n₂, hn₂, hm⟩ := Node.setOption_comm hoptions hset hset'
      exact ⟨n₂, applyOption_eq_ok.2 (.inr ⟨option', hname', hn₂, hknown'⟩),
        applyOption_eq_ok.2 (.inr ⟨option, hname, hm, hknown⟩)⟩

/-- An option can be applied behind others of different names as well as before them. -/
theorem applyOptions_pull {before after : List (String × String)} {o : String × String}
    (hbefore : ∀ b ∈ before, optionKey b ≠ optionKey o)
    (h : r.applyOptions n (o :: (before ++ after)) = .ok m) :
    r.applyOptions n (before ++ o :: after) = .ok m := by
  induction before generalizing n with
  | nil => exact h
  | cons b before ih =>
    rw [List.forall_mem_cons] at hbefore
    rw [List.cons_append] at h ⊢
    obtain ⟨n₁, known, hfirst, hrest⟩ := applyOptions_cons_eq_ok.1 h
    obtain ⟨n₂, known', hsecond, hrest⟩ := applyOptions_cons_eq_ok.1 hrest
    obtain ⟨n₃, hb, ho⟩ := applyOption_comm (Ne.symm hbefore.1) hfirst hsecond
    refine applyOptions_cons_eq_ok.2 ⟨n₃, known', hb, ih hbefore.2 ?_⟩
    exact applyOptions_cons_eq_ok.2 ⟨n₂, known, ho, hrest⟩

/-- Options whose names keep their own order lead to the same node. -/
theorem applyOptions_inStep {options options' : List (String × String)}
    (h : InStep options options') (hm : r.applyOptions n options = .ok m) :
    r.applyOptions n options' = .ok m := by
  -- the first option is behind options of different names only, so it can stay the first
  induction options generalizing n options' with
  | nil =>
    rw [h.eq_nil]
    exact hm
  | cons o rest ih =>
    obtain ⟨before, after, rfl, hbefore, hrest⟩ := h.exists_pull
    obtain ⟨n₁, known, hfirst, hm⟩ := applyOptions_cons_eq_ok.1 hm
    refine applyOptions_pull hbefore (applyOptions_cons_eq_ok.2 ⟨n₁, known, hfirst, ?_⟩)
    exact ih hrest hm

/-- An option that is not known does not count, whether the others are applied or not. -/
theorem applyOptions_unknown {o : String × String}
    (ho : OptionName.ofText? (String.ofList (Text.trim o.1.toList)) = none) (n : Node)
    (before after : List (String × String)) :
    r.applyOptions n (before ++ o :: after) = r.applyOptions n (before ++ after) := by
  induction before generalizing n with
  | nil =>
    have hskip : r.applyOption n o.1 o.2 = (n, .ok false) :=
      applyOption_eq_ok.2 (.inl ⟨ho, rfl, rfl⟩)
    rw [List.nil_append, List.nil_append, applyOptions, hskip]
  | cons b before ih =>
    rw [List.cons_append, List.cons_append, applyOptions, applyOptions]
    simp only [ih]

end Reader

/-- Options of different names can be given in any order.  A query that is read from options is read
from every rearrangement that keeps the order of those of one name, blanks and letter case in names
apart; and options that are not known can stand anywhere or be left out, also where reading
fails. -/
theorem options_commute (r : Reader) (collection : Entity) (options : List (String × String)) :
    (∀ options', InStep options options' →
      ∀ n, r.parseQuery collection options = .ok n ↔ r.parseQuery collection options' = .ok n) ∧
    ∀ before unknown after, options = before ++ after →
      OptionName.ofText? (String.ofList (Text.trim unknown.1.toList)) = none →
      r.parseQuery collection (before ++ unknown :: after) = r.parseQuery collection options := by
  constructor
  · intro options' h n
    exact ⟨Reader.applyOptions_inStep h, Reader.applyOptions_inStep h.symm⟩
  · rintro before unknown after rfl hunknown
    exact Reader.applyOptions_unknown hunknown _ before after

/-- Two projections and two expansions that depend on their order, and a bound. -/
def interleaved : List (String × String) :=
  [("$select", "name"), ("$expand", "items"), ("$Select", "price add 1 as name,id"),
    (" $EXPAND ", "product,items($top=5)"), ("$top", "3")]

/-- The same with the bound and the expansions in front. -/
def regrouped : List (String × String) :=
  [("$top", "3"), ("$expand", "items"), (" $EXPAND ", "product,items($top=5)"),
    ("$select", "name"), ("$Select", "price add 1 as name,id")]

theorem options_commute_regrouped :
    InStep interleaved regrouped ∧ ∃ n,
      Reader.parseQuery ⟨.empty, 8⟩ (Entity.named "Order") interleaved = .ok n ∧
      Reader.parseQuery ⟨.empty, 8⟩ (Entity.named "Order") regrouped = .ok n ∧
      Reader.parseQuery ⟨.empty, 8⟩ (Entity.named "Order") (("$search", "a b") :: interleaved)
        = .ok n ∧
      n.query.fields.map Field.name = ["name", "id"] := by
  have hstep : InStep interleaved regrouped := by decide +kernel
  have hunknown : OptionName.ofText? (String.ofList (Text.trim "$search".toList)) = none := by
    decide +kernel
  have hnames : (Reader.parseQuery ⟨.empty, 8⟩ (Entity.named "Order") interleaved).toOption.map
      (fun n => n.query.fields.map Field.name) = some ["name", "id"] := by decide +kernel
  obtain ⟨hrearranged, hinserted⟩ := options_commute ⟨.empty, 8⟩ (Entity.named "Order") interleaved
  cases hn : Reader.parseQuery ⟨.empty, 8⟩ (Entity.named "Order") interleaved with
  | error e =>
    rw [hn] at hnames
    cases hnames
  | ok n =>
    have hregrouped := (hrearranged regrouped hstep n).1 hn
    have hsearch := hinserted [] ("$search", "a b") interleaved rfl hunknown
    rw [hn] at hnames hsearch
    exact ⟨hstep, n, rfl, hregrouped, hsearch, Option.some.inj hnames⟩

end Polyquery.OData
