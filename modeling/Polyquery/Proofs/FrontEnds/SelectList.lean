import Mathlib.Data.List.Nodup
import Mathlib.Data.List.Perm.Subperm
import Polyquery.Proofs.LiteralText
import Polyquery.Proofs.OData.Depth
import Polyquery.Sql.Reader

/-!
# Lists of what is projected

Both front ends read a list of items, number those that have no name, and merge the fields by name.

* `ListItem.fields` - the fields of a list, whatever front end reads it;
* `names_nodup_iff` - the names of a list differ unless a counted name is given too;
* `mergeFields_projects_iff` - merging keeps a field for each item if their names differ;
* `nameEntries_eq`, `toFields_eq_ok` - what the readers of the two front ends make of a list;
* `toQuery_fields`, `parse_fields` - no other clause touches the projection of a query;
* `projects_iff_not_countedNameGiven` - which lists are projected item by item.
-/

namespace Polyquery

/-! ### Fields of a list -/

/-- An item of a list: its expression, and its alias if it has one. -/
structure ListItem where
  expr : Expr
  aliasName : Option String

namespace ListItem

/-- The name that is given to an item: its alias, or its path if it is a plain column. -/
def given? (i : ListItem) : Option String :=
  match i.aliasName, i.expr with
  | some name, _ => some name
  | none, .field path => some path
  | none, _ => none

/-- The names that are given in a list. -/
def givenNames (items : List ListItem) : List String := items.filterMap given?

/-- The number of items that no name is given to. -/
def unnamed (items : List ListItem) : Nat := items.countP (·.given?.isNone)

/-- The name of an item by its number among those that no name is given to. -/
def countedName (n : Nat) : String := "field" ++ Integer.natText n

/-- An item without a name is counted by one that another item is given. -/
def CountedNameGiven (items : List ListItem) : Prop :=
  ∃ k, 1 ≤ k ∧ k ≤ unnamed items ∧ countedName k ∈ givenNames items

/-- Each item is projected: there is one field for each, in their order, and it holds the expression
of the item. -/
def Projects (projection : List Field) (items : List ListItem) : Prop :=
  projection.map Field.value = items.map ListItem.expr

/-- The fields of a list, so many items without a name having been met before. -/
def fields (before : Nat) : List ListItem → List Field
  | [] => []
  | i :: rest =>
    match i.given? with
    | some name => Field.computed name i.expr :: fields before rest
    | none => Field.computed (countedName (before + 1)) i.expr :: fields (before + 1) rest

theorem fields_projects (items : List ListItem) (before : Nat) :
    Projects (fields before items) items := by
  unfold Projects
  induction items generalizing before with
  | nil => rfl
  | cons i rest ih =>
    rw [fields]
    split
    · rw [List.map_cons, List.map_cons, Field.computed_value, ih]
    · rw [List.map_cons, List.map_cons, Field.computed_value, ih]

/-! ### Names -/

theorem countedName_inj {m n : Nat} (h : countedName m = countedName n) : m = n := by
  have hdigits : Nat.toDigits 10 m = Nat.toDigits 10 n := by
    simpa [countedName, Integer.natText] using congrArg String.toList h
  rw [← Integer.digitsValue_toDigits m, hdigits, Integer.digitsValue_toDigits]

/-- The names of a list are those that are given and as many counted ones as are needed. -/
theorem names_perm (items : List ListItem) (before : Nat) :
    ((fields before items).map Field.name).Perm
      (givenNames items ++ (List.range' (before + 1) (unnamed items)).map countedName) := by
  induction items generalizing before with
  | nil => exact .refl []
  | cons i rest ih =>
    unfold givenNames unnamed at ih ⊢
    rw [fields, List.filterMap_cons, List.countP_cons]
    cases hi : i.given? with
    | some name => simpa [Field.computed_name] using ih before
    | none =>
      simp only [Option.isNone_none, if_true, List.range'_succ, List.map_cons,
        Field.computed_name]
      exact ((ih (before + 1)).cons _).trans List.perm_middle.symm

/-- If the names that are given are told apart, all are told apart unless a counted one is given
too. -/
theorem names_nodup_iff {items : List ListItem} (h : (givenNames items).Nodup) :
    ((fields 0 items).map Field.name).Nodup ↔ ¬ CountedNameGiven items := by
  have hcounted : ((List.range' 1 (unnamed items)).map countedName).Nodup :=
    List.Nodup.map (fun _ _ => countedName_inj) List.nodup_range'
  rw [(names_perm items 0).nodup_iff, List.nodup_append]
  constructor
  · rintro ⟨-, -, hdisjoint⟩ ⟨k, hlow, hhigh, hgiven⟩
    refine hdisjoint _ hgiven (countedName k) (List.mem_map_of_mem ?_) rfl
    rw [List.mem_range'_1]
    omega
  · intro hfresh
    refine ⟨h, hcounted, ?_⟩
    rintro name hgiven counted hmem rfl
    obtain ⟨k, hk, rfl⟩ := List.mem_map.1 hmem
    rw [List.mem_range'_1] at hk
    exact hfresh ⟨k, by omega, by omega, hgiven⟩

end ListItem

/-! ### Merging -/

namespace Query

/-- Merging keeps as many fields as there are names. -/
theorem mergeFields_length_iff (fields : List Field) :
    (mergeFields [] fields).length = fields.length ↔ (fields.map Field.name).Nodup := by
  constructor
  · intro hlength
    have hnodup : ((mergeFields [] fields).map Field.name).Nodup :=
      @mergeFields_nodup [] List.nodup_nil fields
    have hsubset : (mergeFields [] fields).map Field.name ⊆ fields.map Field.name := by
      intro name hname
      rcases mem_mergeFields_names.1 hname with hnil | hmem
      · cases hnil
      · exact hmem
    have hperm := (hnodup.subperm hsubset).perm_of_length_le (by simp [hlength])
    exact hperm.nodup_iff.1 hnodup
  · intro hnodup
    rw [mergeFields_of_nodup (by simpa using hnodup), List.nil_append]

end Query

namespace ListItem

/-- Merging the fields of a list keeps one for each item if no two of them have one name. -/
theorem mergeFields_projects_iff (items : List ListItem) :
    Projects (Query.mergeFields [] (fields 0 items)) items ↔
      ((fields 0 items).map Field.name).Nodup := by
  constructor
  · intro hprojects
    have hvalues := hprojects.trans (fields_projects items 0).symm
    exact (Query.mergeFields_length_iff _).1 (by simpa using congrArg List.length hvalues)
  · intro hnodup
    rw [Query.mergeFields_of_nodup (by simpa using hnodup), List.nil_append]
    exact fields_projects items 0

/-- Merging the fields of a list keeps none of them only if there is none. -/
theorem mergeFields_eq_nil_iff (items : List ListItem) :
    Query.mergeFields [] (fields 0 items) = [] ↔ items = [] := by
  constructor
  · intro h
    have hnone : (fields 0 items).map Field.name = [] := by
      refine List.eq_nil_iff_forall_not_mem.2 fun name hname => ?_
      have hmerged := (@Query.mem_mergeFields_names [] _ name).2 (.inr hname)
      rw [h] at hmerged
      exact List.not_mem_nil hmerged
    have hvalues := fields_projects items 0
    rw [List.map_eq_nil_iff.1 hnone] at hvalues
    exact List.map_eq_nil_iff.1 hvalues.symm
  · rintro rfl
    rfl

end ListItem

/-! ### Query options -/

namespace OData

/-- The item that an entry of a `$select` stands for; a star stands for none. -/
def SelectEntry.item? : SelectEntry → Option ListItem
  | .everything => none
  | .value expr aliasName => some ⟨expr, aliasName⟩

theorem nameEntries_eq (entries : List SelectEntry) (before : Nat) :
    nameEntries before entries = ListItem.fields before (entries.filterMap SelectEntry.item?) := by
  induction entries generalizing before with
  | nil => rfl
  | cons entry rest ih =>
    cases entry with
    | everything => exact ih before
    | value expr aliasName =>
      cases aliasName with
      | some name => exact congrArg (Field.computed name expr :: ·) (ih before)
      | none =>
        cases expr with
        | field path =>
          have hnamed : Field.computed path (.field path) = .named path := if_pos rfl
          show Field.named path :: nameEntries before rest = _
          rw [ih before, ← hnamed]
          rfl
        | _ => exact congrArg (_ :: ·) (ih (before + 1))

end OData

/-! ### SQL -/

namespace Sql

/-- The entries of a SELECT list are read as items; a star stands for none, and a star of one source
is refused. -/
inductive Lists (rs : Resolvers) : List SelectItem → List ListItem → Prop where
  | nil : Lists rs [] []
  | everything {rest : List SelectItem} {items : List ListItem} :
      Lists rs rest items → Lists rs (.everything :: rest) items
  | value {value : Tree} {aliasName : Option Ident} {e : Expr} {rest : List SelectItem}
      {items : List ListItem} :
      value.toExpr rs = .ok e → Lists rs rest items →
      Lists rs (.value value aliasName :: rest) (⟨e, aliasName.map Ident.value⟩ :: items)

/-- The item of an entry. -/
def SelectItem.item? (rs : Resolvers) : SelectItem → Option ListItem
  | .value operand aliasName =>
    (operand.toExpr rs).toOption.map fun e => ⟨e, aliasName.map Ident.value⟩
  | .everything | .everythingOf _ => none

theorem Lists.eq_filterMap {rs : Resolvers} {entries : List SelectItem} {items : List ListItem}
    (h : Lists rs entries items) : items = entries.filterMap (SelectItem.item? rs) := by
  induction h with
  | nil => rfl
  | everything _ ih => exact ih
  | @value value aliasName e rest items he _ ih =>
    have hitem : SelectItem.item? rs (.value value aliasName)
        = some ⟨e, aliasName.map Ident.value⟩ := by
      rw [SelectItem.item?, he]
      rfl
    rw [List.filterMap_cons_some hitem, ← ih]

theorem toFields_eq_ok {rs : Resolvers} {entries : List SelectItem} {before : Nat}
    {fields : List Field} (h : toFields rs before entries = .ok fields) :
    ∃ items, Lists rs entries items ∧ fields = ListItem.fields before items := by
  induction entries generalizing before fields with
  | nil =>
    cases h
    exact ⟨[], .nil, rfl⟩
  | cons entry rest ih =>
    cases entry with
    | everything =>
      obtain ⟨items, hitems, hfields⟩ := ih h
      exact ⟨items, .everything hitems, hfields⟩
    | everythingOf source => cases h
    | value value aliasName =>
      cases aliasName with
      | some name =>
        rw [toFields] at h
        obtain ⟨e, he, h⟩ := bind_eq_ok.1 h
        obtain ⟨more, hmore, h⟩ := bind_eq_ok.1 h
        obtain ⟨items, hitems, rfl⟩ := ih hmore
        cases h
        exact ⟨_, .value he hitems, rfl⟩
      | none =>
        rw [toFields] at h
        obtain ⟨e, he, h⟩ := bind_eq_ok.1 h
        cases e with
        | field path =>
          obtain ⟨more, hmore, h⟩ := bind_eq_ok.1 h
          obtain ⟨items, hitems, rfl⟩ := ih hmore
          cases h
          have hnamed : Field.computed path (.field path) = .named path := if_pos rfl
          refine ⟨_, .value he hitems, ?_⟩
          rw [← hnamed]
          rfl
        | _ =>
          obtain ⟨more, hmore, h⟩ := bind_eq_ok.1 h
          obtain ⟨items, hitems, rfl⟩ := ih hmore
          cases h
          exact ⟨_, .value he hitems, rfl⟩

/-- Only stars are read as no items. -/
theorem Lists.eq_nil_iff {rs : Resolvers} {entries : List SelectItem} {items : List ListItem}
    (h : Lists rs entries items) : items = [] ↔ ∀ entry ∈ entries, entry = .everything := by
  induction h with
  | nil => simp
  | everything _ ih => simp [ih]
  | value _ _ _ => simp

theorem addTo_fields {rs : Resolvers} {j : JoinTree} {q q' : Query} (h : j.addTo rs q = .ok q') :
    q'.fields = q.fields := by
  obtain ⟨clustered, kind, condition, relation⟩ := j
  cases kind with
  | other text => cases h
  | directed direction =>
    cases condition with
    | natural | other text => cases h
    | on condition =>
      rw [JoinTree.addTo] at h
      obtain ⟨target, -, h⟩ := bind_eq_ok.1 h
      obtain ⟨e, -, h⟩ := bind_eq_ok.1 h
      cases h
      rfl

theorem addJoins_fields {rs : Resolvers} {joins : List JoinTree} {q q' : Query}
    (h : addJoins rs joins q = .ok q') : q'.fields = q.fields := by
  induction joins generalizing q with
  | nil =>
    cases h
    rfl
  | cons j rest ih =>
    rw [addJoins] at h
    obtain ⟨q₁, hj, hrest⟩ := bind_eq_ok.1 h
    rw [ih hrest, addTo_fields hj]

/-- A clause that may be missing leaves the projection alone if it does so where it is there. -/
theorem getD_fields {α : Type} {q : Query} {change : α → Query} (o : Option α)
    (h : ∀ a, (change a).fields = q.fields) : ((o.map change).getD q).fields = q.fields := by
  cases o with
  | none => rfl
  | some a => exact h a

/-- So does one of two queries with the same projection. -/
theorem ite_fields {q q' : Query} (c : Prop) [Decidable c] (h : q'.fields = q.fields) :
    (if c then q else q').fields = q.fields := by
  split
  · rfl
  · exact h

/-- The clauses behind a list leave its projection alone. -/
theorem withClauses_fields {rs : Resolvers} {q q' : Query} {duplicates : DistinctTree}
    {entries : List SelectItem} {filter : Option Tree} {grouping : GroupTree} {having : Bool}
    (hq : q.fields = []) (h : withClauses rs q duplicates entries filter grouping having = .ok q') :
    ∃ fields, toFields rs 0 entries = .ok fields ∧ q'.fields = Query.mergeFields [] fields := by
  have hall : ∀ q : Query, q.fields = [] →
      withClauses rs q .all entries filter grouping having = .ok q' →
      ∃ fields, toFields rs 0 entries = .ok fields ∧ q'.fields = Query.mergeFields [] fields := by
    intro q hq h
    obtain ⟨q₁, hq₁, h⟩ := bind_eq_ok.1 h
    cases hq₁
    obtain ⟨fields, hfields, h⟩ := bind_eq_ok.1 h
    obtain ⟨filter, -, h⟩ := bind_eq_ok.1 h
    refine ⟨fields, hfields, ?_⟩
    -- the projection is the merged list, or still empty where the list is
    have hselect : (if fields.isEmpty = true then q else q.select fields).fields
        = Query.mergeFields [] fields := by
      cases fields with
      | nil => exact hq
      | cons f rest => exact congrArg (Query.mergeFields · (f :: rest)) hq
    have hfilter := getD_fields filter fun a =>
      (rfl : ((if fields.isEmpty = true then q else q.select fields).whereExpr a).fields = _)
    cases grouping with
    | byEverything => cases h
    | «by» keys =>
      obtain ⟨q₂, hq₂, h⟩ := bind_eq_ok.1 h
      cases having with
      | true => cases h
      | false =>
        cases h
        cases hkeys : toExprs rs keys with
        | error e =>
          rw [hkeys] at hq₂
          cases hq₂
        | ok keys =>
          rw [hkeys] at hq₂
          cases hq₂
          rw [← hselect, ← hfilter]
          exact ite_fields _ rfl
  cases duplicates with
  | all => exact hall q hq h
  | distinct => exact hall (q.withDistinct true) hq h
  | distinctOn => cases h

/-- The list of a selection. -/
def SelectTree.entries : SelectTree → List SelectItem
  | .mk _ entries _ _ _ _ _ _ => entries

theorem selection_fields {rs : Resolvers} {tree : SelectTree} {q : Query}
    (h : tree.toQuery rs = .ok q) :
    ∃ items, Lists rs tree.entries items ∧
      q.fields = Query.mergeFields [] (ListItem.fields 0 items) := by
  obtain ⟨duplicates, entries, sources, base, joins, filter, grouping, having⟩ := tree
  cases base with
  | none => cases h
  | some base =>
    rw [SelectTree.toQuery] at h
    obtain ⟨entity, -, h⟩ := bind_eq_ok.1 h
    obtain ⟨q₁, hjoins, h⟩ := bind_eq_ok.1 h
    obtain ⟨fields, hread, hfields⟩ := withClauses_fields (addJoins_fields hjoins) h
    obtain ⟨items, hitems, rfl⟩ := toFields_eq_ok hread
    exact ⟨items, hitems, hfields⟩

/-- The list of a query; no other query than one of a selection has one. -/
def QueryTree.entries : QueryTree → List SelectItem
  | .mk _ select _ _ _ _ _ => (select.map SelectTree.entries).getD []

/-- The list of a statement. -/
def Statement.entries : Statement → List SelectItem
  | .query tree => tree.entries
  | .other _ => []

/-- The projection of a query is its list, merged by name. -/
theorem toQuery_fields {rs : Resolvers} {tree : QueryTree} {q : Query}
    (h : tree.toQuery rs = .ok q) :
    ∃ items, Lists rs tree.entries items ∧
      q.fields = Query.mergeFields [] (ListItem.fields 0 items) := by
  obtain ⟨withs, select, body, ordering, limit, offset, text⟩ := tree
  cases withs with
  | true => cases h
  | false =>
    cases select with
    | none => cases h
    | some select =>
      rw [QueryTree.toQuery] at h
      obtain ⟨q₁, hselect, h⟩ := bind_eq_ok.1 h
      obtain ⟨terms, -, h⟩ := bind_eq_ok.1 h
      obtain ⟨limit, -, h⟩ := bind_eq_ok.1 h
      obtain ⟨offset, -, h⟩ := bind_eq_ok.1 h
      cases h
      have hordering : (if terms.isEmpty = true then q₁ else q₁.orderByTerms terms).fields
          = q₁.fields := ite_fields _ rfl
      obtain ⟨items, hitems, hfields⟩ := selection_fields hselect
      refine ⟨items, hitems, ?_⟩
      have hpaged : ∀ q : Query, (((offset.map ((limit.map q.take).getD q).skip).getD
          ((limit.map q.take).getD q))).fields = q.fields := fun q =>
        (getD_fields offset fun k => (rfl : (Query.skip _ k).fields = _)).trans
          (getD_fields limit fun k => (rfl : (q.take k).fields = _))
      rw [← hfields, ← hordering]
      exact hpaged _

/-- The projection of a text is the list of its only statement, merged by name. -/
theorem parse_fields {d : DialectName} {rs : Resolvers} {text : String} {q : Query}
    (h : parse d rs text = .ok q) :
    ∃ statement items, statements? d text = some [statement] ∧ Lists rs statement.entries items ∧
      q.fields = Query.mergeFields [] (ListItem.fields 0 items) := by
  unfold parse at h
  split at h
  · cases h
  · rename_i tree htext
    obtain ⟨items, hitems, hfields⟩ := toQuery_fields h
    exact ⟨.query tree, items, htext, hitems, hfields⟩
  · cases h
  · cases h

end Sql

/-! ### Both front ends -/

/-- The SELECT list of every text, and every `$select`, is projected item by item, unless an item
without a name is counted by a name that another item is given.  A star counts for nothing: a SELECT
list projects everything if there are only stars in it, and else what its other items project. -/
theorem projects_iff_not_countedNameGiven (rs : Resolvers) :
    (∀ (d : Sql.DialectName) (text : String) (q : Query),
      Sql.parse d rs text = .ok q →
      ∃ statement items, Sql.statements? d text = some [statement] ∧
        Sql.Lists rs statement.entries items ∧
        (q.fields = [] ↔ ∀ entry ∈ statement.entries, entry = .everything) ∧
        ((ListItem.givenNames items).Nodup →
          (ListItem.Projects q.fields items ↔ ¬ ListItem.CountedNameGiven items))) ∧
    ∀ (expansions : List Char → QueryResult (List OData.Node)) (text : List Char)
      (n m : OData.Node), n.query.fields = [] →
      n.setOption rs expansions .select text = (m, .ok ()) →
      ∃ entries items,
        OData.parseText rs (fun ctx => OData.commaSeparated (OData.selectEntry ctx)) text
          = .ok entries ∧
        items = entries.filterMap OData.SelectEntry.item? ∧
        ((ListItem.givenNames items).Nodup →
          (ListItem.Projects m.query.fields items ↔ ¬ ListItem.CountedNameGiven items)) := by
  constructor
  · intro d text q h
    obtain ⟨statement, items, htext, hitems, hfields⟩ := Sql.parse_fields h
    refine ⟨statement, items, htext, hitems, ?_, fun hgiven => ?_⟩
    · rw [← hitems.eq_nil_iff, hfields, ListItem.mergeFields_eq_nil_iff]
    · rw [hfields, ListItem.mergeFields_projects_iff, ListItem.names_nodup_iff hgiven]
  · intro expansions text n m hn h
    obtain ⟨fields, hread, rfl⟩ := OData.Node.changed_map_eq_ok.1 h
    obtain ⟨entries, hentries, rfl⟩ := map_eq_ok.1 hread
    have hfields : (n.withQuery (n.query.select (OData.nameEntries 0 entries))).query.fields
        = Query.mergeFields [] (ListItem.fields 0 (entries.filterMap OData.SelectEntry.item?)) := by
      rw [← OData.nameEntries_eq, ← hn]
      rfl
    refine ⟨entries, _, hentries, rfl, fun hgiven => ?_⟩
    rw [hfields, ListItem.mergeFields_projects_iff, ListItem.names_nodup_iff hgiven]

/-- A computed item, a named one, a star and a plain column, in SQL and in `$select`. -/
theorem projects_iff_not_countedNameGiven_mixed :
    (∃ q statement items,
      Sql.parse .generic .empty "SELECT price + 1, id AS key, *, name FROM Product" = .ok q ∧
      Sql.statements? .generic "SELECT price + 1, id AS key, *, name FROM Product"
        = some [statement] ∧
      Sql.Lists .empty statement.entries items ∧ ListItem.givenNames items = ["key", "name"] ∧
      ListItem.Projects q.fields items) ∧
    ∃ m entries,
      (OData.Node.navigation "Product").setOption .empty (fun _ => .ok []) .select
        "price add 1,id as key,*,name".toList = (m, .ok ()) ∧
      OData.parseText .empty (fun ctx => OData.commaSeparated (OData.selectEntry ctx))
        "price add 1,id as key,*,name".toList = .ok entries ∧
      ListItem.givenNames (entries.filterMap OData.SelectEntry.item?) = ["key", "name"] ∧
      ListItem.Projects m.query.fields (entries.filterMap OData.SelectEntry.item?) := by
  -- no item of the lists is given the name `field1`
  have hfresh : ∀ {items : List ListItem},
      items.map ListItem.given? = [none, some "key", some "name"] →
      ListItem.givenNames items = ["key", "name"] ∧ ¬ ListItem.CountedNameGiven items := by
    intro items hitems
    have hgiven : ListItem.givenNames items = ["key", "name"] := by
      have hmap : items.filterMap ListItem.given? = (items.map ListItem.given?).filterMap id := by
        rw [List.filterMap_map, Function.id_comp]
      rw [ListItem.givenNames, hmap, hitems]
      rfl
    have hcount : ListItem.unnamed items = 1 := by
      have hmap : items.countP (·.given?.isNone)
          = (items.map ListItem.given?).countP (·.isNone) := by
        rw [List.countP_map, Function.comp_def]
      rw [ListItem.unnamed, hmap, hitems]
      rfl
    refine ⟨hgiven, ?_⟩
    rintro ⟨k, hlow, hhigh, hmem⟩
    obtain rfl : k = 1 := by omega
    rw [hgiven] at hmem
    exact absurd hmem (by decide)
  have hdistinct : ["key", "name"].Nodup := by decide
  obtain ⟨hsql, hoptions⟩ := projects_iff_not_countedNameGiven .empty
  constructor
  · have hnames : (Sql.statements? .generic "SELECT price + 1, id AS key, *, name FROM Product").map
        (fun found => found.map fun s => (s.entries.filterMap (Sql.SelectItem.item? .empty)).map
          ListItem.given?) = some [[none, some "key", some "name"]] := by decide +kernel
    have hread : (Sql.parse .generic .empty
        "SELECT price + 1, id AS key, *, name FROM Product").isOk = true := by decide +kernel
    cases hq : Sql.parse .generic .empty "SELECT price + 1, id AS key, *, name FROM Product" with
    | error e =>
      rw [hq] at hread
      cases hread
    | ok q =>
      obtain ⟨statement, items, htext, hlists, -, hprojects⟩ := hsql _ _ q hq
      rw [htext, Option.map_some, List.map_singleton, ← hlists.eq_filterMap] at hnames
      obtain ⟨hgiven, hnot⟩ := hfresh (List.singleton_inj.1 (Option.some.inj hnames))
      refine ⟨q, statement, items, rfl, htext, hlists, hgiven, (hprojects ?_).2 hnot⟩
      rw [hgiven]
      exact hdistinct
  · have hnames : (OData.parseText .empty (fun ctx => OData.commaSeparated (OData.selectEntry ctx))
        "price add 1,id as key,*,name".toList).toOption.map (fun entries =>
          (entries.filterMap OData.SelectEntry.item?).map ListItem.given?)
        = some [none, some "key", some "name"] := by decide +kernel
    cases hm : (OData.Node.navigation "Product").setOption .empty (fun _ => .ok []) .select
        "price add 1,id as key,*,name".toList with
    | mk m outcome =>
      cases outcome with
      | error e =>
        have hread : ((OData.Node.navigation "Product").setOption .empty (fun _ => .ok []) .select
          "price add 1,id as key,*,name".toList).2.isOk = true := by decide +kernel
        rw [hm] at hread
        cases hread
      | ok done =>
        obtain ⟨entries, items, hentries, rfl, hprojects⟩ := hoptions _ _ _ m rfl hm
        rw [hentries] at hnames
        obtain ⟨hgiven, hnot⟩ := hfresh (Option.some.inj hnames)
        refine ⟨m, entries, rfl, hentries, hgiven, (hprojects ?_).2 hnot⟩
        rw [hgiven]
        exact hdistinct

/-- The item without a name is lost where its number makes it the namesake of the other, in both
front ends; and where a star stands next to a column, the column is all that is left. -/
theorem counted_item_lost :
    (Sql.statements? .generic "SELECT price + 1, name AS field1 FROM Product").map
        (fun found => found.map fun s => (s.entries.filterMap (Sql.SelectItem.item? .empty)).map
          ListItem.given?) = some [[none, some "field1"]] ∧
      (Sql.parse .generic .empty "SELECT price + 1, name AS field1 FROM Product").toOption.map
        (fun q => q.fields.map fun f => (f.name, f.value.eqv (.field "name")))
        = some [("field1", true)] ∧
      (Sql.parse .generic .empty "SELECT *, name FROM Product").toOption.map
        (fun q => q.fields.map Field.name) = some ["name"] ∧
      (OData.Reader.parseQuery ⟨.empty, 8⟩ (Entity.named "Product")
          [("$select", "price add 1,name as field1")]).toOption.map
        (fun n => n.query.fields.map fun f => (f.name, f.value.eqv (.field "name")))
        = some [("field1", true)] := by
  refine ⟨?_, ?_, ?_, ?_⟩ <;> decide +kernel

end Polyquery
