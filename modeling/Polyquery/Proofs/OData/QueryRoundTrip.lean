import Polyquery.Proofs.OData.Expressible

/-!
# Whole queries read back

* `readsItem_expand` - the text of an expansion is read as its node;
* `Node.Expressible.applied` - the options of a node lead back to it, by induction on expansions;
* `parseQuery_expandedOptions` - the options of a query with expansions are read as that query.
-/

namespace Polyquery.OData

/-! ### One expansion -/

theorem slashPath_of_no_point {name : String} (h : '.' ∉ name.toList) : slashPath name = name := by
  have hsame : name.toList.map (fun c => if c = '.' then '/' else c) = name.toList := by
    refine (List.map_congr_left ?_).trans (List.map_id _)
    intro c hc
    have hne : c ≠ '.' := by
      rintro rfl
      exact h hc
    rw [if_neg hne, id]
  rw [slashPath, hsame, String.ofList_toList]

theorem pathNames_word (ctx : Context) {name : String} {t : Token} {rest : List Token}
    (ht : t.kind = .identifier name) (hrest : eat? .slash rest = none) :
    pathNames ctx (t :: rest) = .ok ([name], rest) := by
  have hsegments : pathSegments ctx [name] rest.length rest = .ok ([name], rest) :=
    pathSegments_kinds ctx [] [name] rest.length [] rest rfl (Nat.zero_le _) hrest
  simp only [pathNames, identifier_of_word ctx ht, hsegments, bind, Except.bind]

/-- An expansion of a single name is read as the node that its options lead to. -/
theorem expandEntry_word (r : Reader) (ctx : Context) (source : List Char) (levels : Nat)
    (deeper : Nat → List Char → QueryResult (List Node)) {name : String} {t : Token}
    {rest : List Token} (ht : t.kind = .identifier name) (hrest : eat? .slash rest = none) :
    r.expandEntry ctx source levels deeper (t :: rest)
      = match eat? .leftParen rest with
        | some ts => nodeOptions ctx source (fun n => n.setOption r.resolvers (deeper 0))
            (ts.length + 1) (.navigation name) ts
        | none => .ok (.navigation name, rest) := by
  simp only [Reader.expandEntry, pathNames_word ctx ht hrest, bind, Except.bind]
  have hshallow : ¬ levels < [name].dropLast.length := Nat.not_lt_zero levels
  rw [if_neg hshallow]
  cases eat? .leftParen rest with
  | none => rfl
  | some ts =>
    have hread : ∀ read : QueryResult (Node × List Token),
        (read >>= fun v => .ok (Node.nest [] v.1, v.2)) = read := by
      intro read
      cases read <;> rfl
    exact hread _

variable {r : Reader} {countOnPaging : Bool} {name : String} {options : Options} {m : Node}
  {deeper : Nat → List Char → QueryResult (List Node)}

theorem itemText_toList (countOnPaging : Bool) (hpoint : '.' ∉ name.toList) (hne : options ≠ []) :
    (Writer.itemText ⟨.standard, countOnPaging⟩ name options).toList
      = name.toList ++ ('(' :: closedOptions options) := by
  have hsome : ¬ options.isEmpty = true := by simpa using hne
  have hchars : (options.map fun o => o.1 ++ "=" ++ o.2.toText).map String.toList
      = options.map optionChars := by
    rw [List.map_map]
    refine List.map_congr_left fun o _ => ?_
    simp [optionChars, String.toList_append]
  rw [Writer.itemText, if_neg hsome]
  show (slashPath name ++ "(" ++ ";".intercalate (options.map fun o => o.1 ++ "=" ++ o.2.toText)
    ++ ")").toList = _
  rw [slashPath_of_no_point hpoint, closedOptions, ← hchars]
  simp [String.toList_append, String.toList_intercalate]

/-- The text of an expansion is read as the node that its options lead to. -/
theorem readsItem_expand (hr : r.resolvers = .empty) (hname : IsIdentifier name)
    (hpoint : '.' ∉ name.toList)
    (h : Applied .empty (deeper 0) (.navigation name) options m) (ctx : Context)
    (source : List Char) (levels : Nat) :
    ReadsItem (r.expandEntry ctx source levels deeper) source
      (Writer.itemText ⟨.standard, countOnPaging⟩ name options).toList m := by
  by_cases hne : options = []
  · subst hne
    cases h
    have htext : Writer.itemText ⟨.standard, countOnPaging⟩ name [] = name :=
      slashPath_of_no_point hpoint
    rw [htext]
    refine readsItem_of_kinds (isValue_word hname) (.identifier hname) fun ts more hts hmore => ?_
    obtain ⟨t, rfl, ht⟩ := List.map_eq_singleton_iff.1 hts
    have hstops := hmore.stops .primary
    show r.expandEntry ctx source levels deeper (t :: more) = _
    rw [expandEntry_word r ctx source levels deeper ht hstops.noSlash, hstops.noCall]
  · rw [itemText_toList countOnPaging hpoint hne]
    obtain ⟨ks, hl, hb⟩ := lexes_closedOptions h hne
    have hlexName := Lexes.identifier hname
    have hlex := hlexName.append (.punctuation (c := '(') rfl (by decide) hl)
      (boundary_cons (by decide) (by decide))
    have htrim : Trimmed (name.toList ++ ('(' :: closedOptions options)) :=
      (trimmed_of_isWord hname.1).append (trimmed_singleton (c := ')') (by decide))
        ('(' :: [';'].intercalate (options.map optionChars))
    refine ⟨⟨htrim, _, hlex, (Balances.word name).cons (Balances.opening.cons hb)⟩, ?_⟩
    intro before after ts hsource hts more hmore
    obtain ⟨tn, tb, htn, htb, rfl⟩ :=
      scan_parts hlexName (boundary_cons (by decide) (by decide)) hts
    obtain ⟨t, rfl, ht⟩ := List.map_eq_singleton_iff.1 (hlexName.kinds htn)
    obtain ⟨tp, ts', hparen, hts', rfl⟩ := scan_punctuation rfl (by decide) htb
    -- the options start behind the opening parenthesis
    have hlength : Text.byteLength (before ++ (name.toList ++ ['(']))
        = Text.byteLength before + Text.byteLength name.toList + '('.utf8Size := by
      simp [Nat.add_assoc]
    have hsplit : source
        = (before ++ (name.toList ++ ['('])) ++ (closedOptions options ++ after) := by
      rw [hsource]
      simp
    rw [← hlength] at hts'
    obtain ⟨hcount, hread⟩ := nodeOptions_of_applied h hne ctx hsplit hts'
    have hslash : eat? .slash (tp :: (ts' ++ more)) = none := eat?_of_ne (by simp [hparen])
    show r.expandEntry ctx source levels deeper (t :: tp :: (ts' ++ more)) = _
    rw [expandEntry_word r ctx source levels deeper ht hslash, eat?_of_eq hparen, hr]
    exact hread _ more (by rw [List.length_append]; omega)

/-! ### Every expansion -/

theorem expandItems_eq_mapM (w : Writer) (nodes : List Node) :
    w.expandItems nodes = nodes.mapM w.expandItem := by
  induction nodes with
  | nil => rfl
  | cons n nodes ih =>
    rw [Writer.expandItems, List.mapM_cons, ih]
    rfl

theorem expansions_succ (hr : r.resolvers = .empty) (below : Nat) :
    r.expansions (below + 1) = fun text =>
      parseText .empty (fun ctx => commaSeparated
        (r.expandEntry ctx text below fun k inner => r.expansions (below - k) inner)) text := by
  funext text
  rw [Reader.expansions, hr]

theorem expandItem_of_options {w : Writer} {n : Node} {name : String} {options : Options}
    (hname : n.query.collection = some (Entity.named name))
    (h : w.optionsWith n.query (w.expandItems n.expand) n.levels n.count = .ok options) :
    w.expandItem n = .ok (w.itemText name options) := by
  cases n with
  | mk query expand levels count =>
    rw [Writer.expandItem]
    simp only [] at hname h
    rw [hname]
    show (w.optionsWith query (w.expandItems expand) levels count).map (w.itemText name) = _
    rw [h]
    rfl

/-- The options of a node, applied to its bare collection, give the node back. -/
theorem Node.Expressible.applied (countOnPaging : Bool) (hr : r.resolvers = .empty) {n : Node}
    (h : n.Expressible) :
    ∀ (levels : Nat) (count : Bool) (entity : Entity), n.depth ≤ levels →
      n.query.collection = some entity →
      ∃ options,
        Writer.optionsWith ⟨.standard, countOnPaging⟩ n.query
          (Writer.expandItems ⟨.standard, countOnPaging⟩ n.expand) n.levels count = .ok options ∧
        Applied .empty (r.expansions levels) (.ofQuery (Query.empty.fromCollection entity)) options
          { n.withoutResolvers with count := count } := by
  induction h with
  | @mk query expand depths counted hquery hchildren hnames _ ih =>
    intro levels count entity hdepth hentity
    have hclause : allWithoutResolvers expand ≠ [] →
        PrintsClause (Writer.expandItems ⟨.standard, countOnPaging⟩ expand) (r.expansions levels)
          (allWithoutResolvers expand) := by
      intro hne
      rw [allWithoutResolvers_eq_map] at hne ⊢
      have hexpand : expand ≠ [] := fun hempty => hne (by rw [hempty]; rfl)
      cases levels with
      | zero =>
        obtain ⟨child, hchild⟩ := List.exists_mem_of_ne_nil expand hexpand
        exact absurd (Nat.lt_of_lt_of_le (depth_lt_of_mem hchild) hdepth) (Nat.not_lt_zero _)
      | succ below =>
        rw [expandItems_eq_mapM, expansions_succ hr]
        refine printsClause_of_items hexpand fun child hchild => ?_
        obtain ⟨name, hname, hword, hpoint⟩ := hchildren child hchild
        have hbelow : child.depth ≤ below :=
          Nat.le_of_lt_succ (Nat.lt_of_lt_of_le (depth_lt_of_mem hchild) hdepth)
        obtain ⟨options, hoptions, happlied⟩ :=
          ih child hchild below child.count (Entity.named name) hbelow hname
        have hsame : ({ child.withoutResolvers with count := child.count } : Node)
            = child.withoutResolvers := by
          cases child
          rfl
        rw [hsame] at happlied
        exact ⟨_, expandItem_of_options hname hoptions, fun source ctx _ =>
          readsItem_expand hr hword hpoint happlied ctx source below⟩
    have hnil : allWithoutResolvers expand = [] →
        Writer.expandItems ⟨.standard, countOnPaging⟩ expand = .ok [] := by
      intro hempty
      rw [allWithoutResolvers_eq_map, List.map_eq_nil_iff] at hempty
      rw [hempty]
      rfl
    have hnames' : ((allWithoutResolvers expand).map name?).Nodup := by
      have hsame : name? ∘ withoutResolvers = name? := funext name?_withoutResolvers
      rw [allWithoutResolvers_eq_map, List.map_map, hsame]
      exact hnames
    exact applied_options hquery hentity countOnPaging hclause hnil hnames' depths count

/-- The options of a query with expansions are read as that query; a bound on its rows may have
asked for a count. -/
theorem parseQuery_expandedOptions {n : Node} (h : n.Expressible) {entity : Entity}
    (hentity : n.query.collection = some entity) {maxDepth : Nat} (hdepth : n.depth ≤ maxDepth)
    (countOnPaging : Bool) :
    ∃ options, Writer.expandedOptions ⟨.standard, countOnPaging⟩ n = .ok options ∧
      Reader.parseQuery ⟨.empty, maxDepth⟩ entity (options.map fun o => (o.1, o.2.toText))
        = .ok { n.withoutResolvers with
            count := n.count || (countOnPaging && decide (0 < n.query.limit)) } := by
  obtain ⟨options, hoptions, happlied⟩ := h.applied (r := ⟨.empty, maxDepth⟩) countOnPaging rfl
    maxDepth (n.count || (countOnPaging && decide (0 < n.query.limit))) entity hdepth hentity
  refine ⟨options, hoptions, ?_⟩
  exact applyOptions_of_applied happlied

/-- A bounded query that expands its lines, and below the customer its orders without any option. -/
theorem parseQuery_expandedOptions_orders :
    let total : Expr := .arithmetic .multiply (.field "Price") (.field "Count")
    let lines : Node := ⟨{ Query.empty with
      collection := some (.named "Lines")
      fields := [.named "Product.Name", .computed "total" total]
      filter := some (.compare .gt (.field "Count") (.int 0)) }, [], some .max, true⟩
    let customer : Node := ⟨{ Query.empty with
      collection := some (.named "Customer")
      ordering := [⟨.field "Name", true⟩] }, [.navigation "Orders"], some (.count 3), false⟩
    let orders : Node := ⟨{ Query.empty with
      collection := some (.named "Orders")
      limit := 10 }, [lines, customer], none, false⟩
    ∃ options, Writer.expandedOptions ⟨.standard, true⟩ orders = .ok options ∧
      Reader.parseQuery ⟨.empty, 2⟩ (.named "Orders") (options.map fun o => (o.1, o.2.toText))
        = .ok { orders with count := true } := by
  intro total lines customer orders
  have path : ∀ p ∈ ["Product.Name", "Price", "Count", "Name"], PrintablePath p := by
    intro p hp
    refine ⟨?_, ?_, ?_⟩ <;> revert p <;> decide
  have field : ∀ p ∈ ["Price", "Count", "Name"], RoundTrips (.field p) := fun p hp =>
    ⟨.field (path p (List.mem_cons_of_mem _ hp)), rfl⟩
  have htotal : RoundTrips total :=
    ⟨.arithmetic rfl rfl (field "Price" (by decide)).1 (field "Count" (by decide)).1, rfl⟩
  have hcount : RoundTrips (.compare .gt (.field "Count") (.int 0)) :=
    ⟨.compare rfl rfl (field "Count" (by decide)).1 (.literal (.int 0)), rfl⟩
  have hbare : ∀ entity, Expressible (Query.empty.fromCollection entity) := fun entity =>
    { fields := by simp [Query.fromCollection, Query.empty]
      fieldNames := by simp [Query.fromCollection, Query.empty]
      filter := by simp [Query.fromCollection, Query.empty]
      ordering := by simp [Query.fromCollection, Query.empty]
      grouping := by simp [Query.fromCollection, Query.empty]
      limit := Int64.le_refl 0
      offset := Int64.le_refl 0
      prepared := rfl, lookups := rfl, distinct := rfl, payload := rfl, pending := rfl
      connective := rfl, staged := rfl }
  have hlines : lines.Expressible := .mk
    { hbare (.named "Lines") with
      fields := by
        simp only [List.forall_mem_cons, List.not_mem_nil, false_imp_iff, implies_true, and_true]
        exact ⟨.path (path "Product.Name" (by decide)), .computed (by decide) htotal⟩
      fieldNames := by decide
      filter := by
        rintro e ⟨⟩
        exact hcount }
    (by simp) (by simp) (by simp)
  have hinner : (Node.navigation "Orders").Expressible :=
    .mk (hbare (.named "Orders")) (by simp) (by simp) (by simp)
  have hcustomer : customer.Expressible := .mk
    { hbare (.named "Customer") with
      ordering := by
        simp only [List.forall_mem_cons, List.not_mem_nil, false_imp_iff, implies_true, and_true]
        exact field "Name" (by decide) }
    (by simpa using ⟨"Orders", rfl, by decide, by decide⟩) (by simp) (by simpa using hinner)
  have horders : orders.Expressible := .mk
    { hbare (.named "Orders") with limit := by decide }
    (by
      simp only [List.forall_mem_cons, List.not_mem_nil, false_imp_iff, implies_true, and_true]
      exact ⟨⟨"Lines", rfl, by decide, by decide⟩, ⟨"Customer", rfl, by decide, by decide⟩⟩)
    (by decide) (by simpa using ⟨hlines, hcustomer⟩)
  exact parseQuery_expandedOptions horders rfl (by decide) true

end Polyquery.OData
