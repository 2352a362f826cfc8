import Polyquery.OData.Options
import Polyquery.Proofs.OData.OptionValue
import Polyquery.Proofs.OData.RoundTrip
import Polyquery.Proofs.Query.Projection

/-!
# Clauses read back

* `ReadsItem` - wherever a text stands in a list, an item is read from it;
* `parseText_list` - items with commas between them are read in turn;
* `RoundTrips e` - `e` is printable and its own normal form;
* `PrintableField` - the fields that a projection can be printed from;
* `parseSelect_texts`, `parseOrder_texts`, `parseGroup_texts` - the clauses of a query;
* `numberValue_text64`, `levelsValue_text` - numbers and depths.
-/

namespace Polyquery.OData

/-! ### Lists -/

/-- The tokens behind an item of a list. -/
def EndsItem (more : List Token) : Prop :=
  more = [] ∨ ∃ t rest, more = t :: rest ∧ t.kind = .comma

theorem EndsItem.stops {more : List Token} (h : EndsItem more) (l : Level) : l.Stops more := by
  rcases h with rfl | ⟨t, rest, rfl, ht⟩
  · exact .nil l
  · exact .comma l ht

theorem EndsItem.noKeyword {more : List Token} (h : EndsItem more) (keyword : String) :
    eatKeyword? keyword more = none := by
  rcases h with rfl | ⟨t, rest, rfl, ht⟩
  · rfl
  · exact eatKeyword?_of_not_word (by simp [ht]) keyword

section Lists

variable {α : Type} {item : Parser α} {source cs : List Char} {x : α}

/-- Wherever a text stands in a source, in front of the end of an item, an item is read from it. -/
def ReadsItem (item : Parser α) (source cs : List Char) (x : α) : Prop :=
  IsValue cs ∧
    ∀ before after ts, source = before ++ (cs ++ after) →
      scan (Text.byteLength before) cs = .ok ts → ∀ more, EndsItem more → item (ts ++ more) = .ok (x, more)

/-- An item that depends on nothing but the kinds of its tokens. -/
theorem readsItem_of_kinds {ks : List TokenKind} (hv : IsValue cs) (hl : Lexes cs ks)
    (h : ∀ ts more, ts.map Token.kind = ks → EndsItem more → item (ts ++ more) = .ok (x, more)) :
    ReadsItem item source cs x :=
  ⟨hv, fun _ _ ts _ hts more hmore => h ts more (hl.kinds hts) hmore⟩

theorem moreItems_nil (item : Parser α) (fuel : Nat) : moreItems item fuel [] = .ok ([], []) := by
  cases fuel <;> rfl

/-- The first item of a text, and the others behind it; every one of them has a comma in front. -/
theorem moreItems_reads {texts : List (List Char)} {xs : List α}
    (h : List.Forall₂ (ReadsItem item source) texts xs) (hne : texts ≠ []) {before : List Char}
    (hsource : source = before ++ [','].intercalate texts) {ts : List Token}
    (hts : scan (Text.byteLength before) ([','].intercalate texts) = .ok ts) :
    ∃ x xs' ts', xs = x :: xs' ∧ ts'.length ≤ ts.length ∧ texts.length ≤ ts'.length + 1 ∧
      item ts = .ok (x, ts') ∧
      ∀ fuel, texts.length ≤ fuel + 1 → moreItems item fuel ts' = .ok (xs', []) := by
  induction h generalizing before ts with
  | nil => exact absurd rfl hne
  | @cons cs x texts xs hitem hrest ih =>
    obtain ⟨hvalue, hread⟩ := hitem
    cases hrest with
    | nil =>
      rw [List.intercalate_singleton] at hsource hts
      have hlast := hread before [] ts (by rw [hsource, List.append_nil]) hts [] (.inl rfl)
      rw [List.append_nil] at hlast
      exact ⟨x, [], [], rfl, Nat.zero_le _, Nat.le_refl 1, hlast,
        fun fuel _ => moreItems_nil item fuel⟩
    | @cons cs' x' texts xs hitem' hrest' =>
      have hjoin : [','].intercalate (cs :: cs' :: texts)
          = cs ++ (',' :: [','].intercalate (cs' :: texts)) := by simp
      rw [hjoin] at hsource hts
      obtain ⟨-, ks, hl, -⟩ := hvalue
      obtain ⟨ta, tb, hta, htb, rfl⟩ := scan_parts hl (boundary_cons (by decide) (by decide)) hts
      obtain ⟨t, tc, hcomma, htc, rfl⟩ := scan_punctuation rfl (by decide) htb
      have hfirst := hread before (',' :: [','].intercalate (cs' :: texts)) ta hsource hta (t :: tc)
        (.inr ⟨t, tc, rfl, hcomma⟩)
      -- the other items start behind the comma
      have hlength : Text.byteLength (before ++ (cs ++ [',']))
          = Text.byteLength before + Text.byteLength cs + ','.utf8Size := by
        simp [Nat.add_assoc]
      rw [← hlength] at htc
      obtain ⟨y, ys, ts', hys, hle, hcount, hnext, hmore⟩ :=
        ih (List.cons_ne_nil cs' texts) (by rw [hsource]; simp) htc
      refine ⟨x, y :: ys, t :: tc, by rw [← hys], ?_, ?_, hfirst, ?_⟩
      · rw [List.length_append]
        omega
      · rw [List.length_cons] at hcount ⊢
        rw [List.length_cons, List.length_cons]
        omega
      · intro fuel hfuel
        cases fuel with
        | zero =>
          rw [List.length_cons, List.length_cons] at hfuel
          omega
        | succ fuel =>
          rw [moreItems, eat?_of_eq hcomma]
          simp only [hnext, hmore fuel (by simpa using hfuel), bind, Except.bind]

theorem isValue_of_readsItem {texts : List (List Char)} {xs : List α}
    (h : List.Forall₂ (ReadsItem item source) texts xs) : ∀ cs ∈ texts, IsValue cs := by
  induction h with
  | nil =>
    intro cs hcs
    cases hcs
  | cons hitem _ ih =>
    intro cs hcs
    rcases List.mem_cons.1 hcs with rfl | hcs
    · exact hitem.1
    · exact ih cs hcs

/-- A text of items is read as those items. -/
theorem parseText_list {rs : Resolvers} {item : Context → Parser α} {texts : List (List Char)}
    {xs : List α} (hne : texts ≠ [])
    (h : ∀ ctx, ctx.resolvers = rs →
      List.Forall₂ (ReadsItem (item ctx) ([','].intercalate texts)) texts xs) :
    parseText rs (fun ctx => commaSeparated (item ctx)) ([','].intercalate texts) = .ok xs := by
  have hitems := h ⟨rs, Text.byteLength ([','].intercalate texts)⟩ rfl
  obtain ⟨-, ks, hl, -⟩ := IsValue.commas hne (isValue_of_readsItem hitems)
  obtain ⟨ts, hts, -⟩ := hl.scans 0
  obtain ⟨x, xs', ts', rfl, -, hcount, hfirst, hmore⟩ :=
    moreItems_reads hitems hne (List.nil_append _).symm hts
  have htokens : tokenize ([','].intercalate texts) = .ok ts := hts
  simp only [parseText, htokens, Except.mapError, commaSeparated, hfirst, hmore _ hcount, bind,
    Except.bind, Context.finish]

end Lists

/-! ### Expressions -/

/-- An expression that is printable and its own normal form. -/
def RoundTrips (e : Expr) : Prop := Printable e ∧ e.normal = e

theorem RoundTrips.printed {e : Expr} (h : RoundTrips e) :
    ∃ text, Dialect.standard.render e = .ok text ∧ Written .empty .disjunction text.toList e := by
  obtain ⟨text, hr, hw⟩ := h.1.prints.1.argument
  rw [h.2] at hw
  exact ⟨text, hr, hw⟩

section Items

variable {ctx : Context} {source : List Char} {text : String} {e : Expr}

theorem readsItem_expression (hctx : ctx.resolvers = .empty)
    (h : Written .empty .disjunction text.toList e) :
    ReadsItem (expression ctx) source text.toList e := by
  have hv := h.isValue
  obtain ⟨-, ks, hl, hd⟩ := h
  rw [← hctx] at hd
  exact readsItem_of_kinds hv hl fun ts more hts hmore =>
    expression_of_derives ctx hd hts (hmore.stops .disjunction)

theorem readsItem_order (hctx : ctx.resolvers = .empty)
    (h : Written .empty .disjunction text.toList e) (descending : Bool) :
    ReadsItem (orderEntry ctx) source (if descending then text ++ " desc" else text).toList
      ⟨e, descending⟩ := by
  have hv := h.isValue
  obtain ⟨-, ks, hl, hd⟩ := h
  rw [← hctx] at hd
  cases descending with
  | false =>
    refine readsItem_of_kinds hv hl fun ts more hts hmore => ?_
    have hexpr := expression_of_derives ctx hd hts (hmore.stops .disjunction)
    simp only [orderEntry, hexpr, hmore.noKeyword, Option.getD_none, bind, Except.bind]
  | true =>
    have hdesc : IsIdentifier "desc" := by decide
    have htext : (text ++ " desc").toList = text.toList ++ (' ' :: "desc".toList) := by
      simp [String.toList_append]
    have hlex := hl.append (.blank (c := ' ') (by decide) (.identifier hdesc)) boundary_blank
    rw [if_pos rfl, htext]
    refine readsItem_of_kinds (hv.wordBehind hdesc) hlex fun ts more hts hmore => ?_
    obtain ⟨te, tw, rfl, hte, htw⟩ := List.map_eq_append_iff.1 hts
    obtain ⟨t, rfl, ht⟩ := List.map_eq_singleton_iff.1 htw
    have hlower : Text.asciiLower "desc" = "desc" := by decide
    have hstops : Level.disjunction.Stops (t :: more) :=
      .keyword ht hlower (by decide) (by decide) (by decide) (by decide) (by decide)
    have hexpr := expression_of_derives ctx hd hte hstops
    have hkeyword : eatKeyword? "desc" (t :: more) = some more := by
      rw [eatKeyword?_of_word ht, if_pos hlower]
    rw [List.append_assoc]
    simp only [orderEntry, List.singleton_append, hexpr, hkeyword, bind, Except.bind]

/-- What starts an expression is no star. -/
theorem eat?_star_of_derives {rs : Resolvers} {l : Level} {ks : List TokenKind}
    (h : Derives rs (.expr l e) ks) {ts : List Token} (hts : ts.map Token.kind = ks)
    (more : List Token) : eat? .star (ts ++ more) = none := by
  obtain ⟨k, ks', rfl, hk⟩ := h.starts
  obtain ⟨t, ts', rfl, ht, -⟩ := List.map_eq_cons_iff.1 hts
  refine eat?_of_ne ?_
  rw [ht]
  rcases hk with (rfl | ⟨value, rfl⟩ | ⟨w, rfl, -⟩) | ⟨-, w, rfl, -⟩ <;> simp

theorem readsItem_select (hctx : ctx.resolvers = .empty)
    (h : Written .empty .disjunction text.toList e) :
    ReadsItem (selectEntry ctx) source text.toList (.value e none) := by
  have hv := h.isValue
  obtain ⟨-, ks, hl, hd⟩ := h
  rw [← hctx] at hd
  refine readsItem_of_kinds hv hl fun ts more hts hmore => ?_
  have hexpr := expression_of_derives ctx hd hts (hmore.stops .disjunction)
  simp only [selectEntry, eat?_star_of_derives hd hts more, hexpr, hmore.noKeyword, bind,
    Except.bind]

theorem readsItem_select_as (hctx : ctx.resolvers = .empty)
    (h : Written .empty .disjunction text.toList e) {name : String} (hname : IsIdentifier name) :
    ReadsItem (selectEntry ctx) source (text ++ " as " ++ name).toList (.value e (some name)) := by
  have hv := h.isValue
  have has : IsIdentifier "as" := by decide
  obtain ⟨-, ks, hl, hd⟩ := h
  rw [← hctx] at hd
  have htext : (text ++ " as " ++ name).toList
      = text.toList ++ (' ' :: ("as".toList ++ (' ' :: name.toList))) := by
    simp [String.toList_append]
  have hlex := hl.spaced has.1 (.identifier hname)
  rw [String.ofList_toList, has.2] at hlex
  rw [htext]
  refine readsItem_of_kinds (hv.spaced has (isValue_word hname)) hlex fun ts more hts hmore => ?_
  obtain ⟨te, tw, rfl, hte, htw⟩ := List.map_eq_append_iff.1 hts
  obtain ⟨t, tn, rfl, ht, htn⟩ := List.map_eq_cons_iff.1 htw
  obtain ⟨n, rfl, hn⟩ := List.map_eq_singleton_iff.1 htn
  have hlower : Text.asciiLower "as" = "as" := by decide
  have hstops : Level.disjunction.Stops (t :: n :: more) :=
    .keyword ht hlower (by decide) (by decide) (by decide) (by decide) (by decide)
  have hexpr := expression_of_derives ctx hd hte hstops
  have hkeyword : eatKeyword? "as" (t :: n :: more) = some (n :: more) := by
    rw [eatKeyword?_of_word ht, if_pos hlower]
  rw [List.append_assoc]
  simp only [selectEntry, List.cons_append, List.nil_append,
    eat?_star_of_derives hd hte (t :: n :: more), hexpr, hkeyword, identifier_of_word ctx hn, bind,
    Except.bind]

end Items

/-! ### Clauses -/

/-- The texts of a clause: they are printed, and with commas between them they may stand as the
value of an option, which is read as `x`. -/
def PrintsClause {α : Type} (printed : QueryResult (List String))
    (parse : List Char → QueryResult α) (x : α) : Prop :=
  ∃ texts, printed = .ok texts ∧ texts ≠ [] ∧ IsValue (",".intercalate texts).toList ∧
    parse (",".intercalate texts).toList = .ok x

section Clauses

variable {α β : Type} {write : α → QueryResult String} {item : List Char → Context → Parser β}
  {f : α → β} {xs : List α}

/-- A clause is printed item by item, and read as a list. -/
theorem printsClause_of_items (hne : xs ≠ [])
    (h : ∀ x ∈ xs, ∃ text, write x = .ok text ∧ ∀ source ctx, ctx.resolvers = .empty →
      ReadsItem (item source ctx) source text.toList (f x)) :
    PrintsClause (xs.mapM write)
      (fun cs => parseText .empty (fun ctx => commaSeparated (item cs ctx)) cs) (xs.map f) := by
  obtain ⟨texts, hw, hall⟩ := exists_mapM h
  have hreads : ∀ source ctx, ctx.resolvers = .empty →
      List.Forall₂ (ReadsItem (item source ctx) source) (texts.map String.toList) (xs.map f) := by
    intro source ctx hctx
    rw [List.forall₂_map_left_iff, List.forall₂_map_right_iff]
    exact (hall.imp fun x text hread => hread source ctx hctx).flip
  have htexts : texts.map String.toList ≠ [] := by
    intro hnil
    have hlength := (hreads [] ⟨.empty, 0⟩ rfl).length_eq
    rw [hnil, List.length_map] at hlength
    exact hne (List.length_eq_zero_iff.1 hlength.symm)
  have hjoin : (",".intercalate texts).toList = [','].intercalate (texts.map String.toList) := by
    rw [String.toList_intercalate]
    rfl
  refine ⟨texts, hw, fun hnil => htexts (by rw [hnil]; rfl), ?_, ?_⟩
  · rw [hjoin]
    exact IsValue.commas htexts (isValue_of_readsItem (hreads [] ⟨.empty, 0⟩ rfl))
  · rw [hjoin]
    exact parseText_list htexts fun ctx hctx => hreads _ ctx hctx

end Clauses

/-! ### Projections -/

/-- The fields that a projection can be printed from: a printable path, or an alias with an
expression. -/
inductive PrintableField : Field → Prop where
  | path {path : String} : PrintablePath path → PrintableField (.named path)
  | computed {name : String} {e : Expr} :
      IsIdentifier name → RoundTrips e → PrintableField (.computed name e)

/-- The entry of a projection that a field is printed as. -/
def entryOf (f : Field) : SelectEntry :=
  match f.expr with
  | none => .value (.field f.name) none
  | some e => .value e (some f.name)

theorem PrintableField.printed {f : Field} (h : PrintableField f) (countOnPaging : Bool) :
    ∃ text, Writer.selectItem ⟨.standard, countOnPaging⟩ f = .ok text ∧
      ∀ source ctx, ctx.resolvers = .empty →
        ReadsItem (selectEntry ctx) source text.toList (entryOf f) := by
  have hpath : ∀ {path : String}, PrintablePath path →
      ∃ text, Writer.selectItem ⟨.standard, countOnPaging⟩ (.named path) = .ok text ∧
        ∀ source ctx, ctx.resolvers = .empty →
          ReadsItem (selectEntry ctx) source text.toList (entryOf (.named path)) :=
    fun {path} hp => ⟨slashPath path, rfl, fun _ _ hctx =>
      readsItem_select hctx (hp.written.looser (by decide))⟩
  cases h with
  | path hp => exact hpath hp
  | @computed name e hname he =>
    rcases Field.computed_cases name e with ⟨rfl, hfield⟩ | hfield
    · rw [hfield]
      cases he.1 with
      | field hp => exact hpath hp
    · obtain ⟨text, hr, hw⟩ := he.printed
      rw [hfield]
      refine ⟨text ++ " as " ++ name, ?_, fun _ _ hctx => readsItem_select_as hctx hw hname⟩
      show (Dialect.standard.render e).map (fun text => text ++ " as " ++ name) = _
      rw [hr]
      rfl

theorem nameEntries_entryOf {fields : List Field} (h : ∀ f ∈ fields, PrintableField f)
    (unnamed : Nat) : nameEntries unnamed (fields.map entryOf) = fields := by
  induction fields generalizing unnamed with
  | nil => rfl
  | cons f fields ih =>
    have hrest := ih (fun g hg => h g (List.mem_cons_of_mem f hg)) unnamed
    rw [List.map_cons]
    cases h f List.mem_cons_self with
    | @path path hp =>
      show Field.named path :: nameEntries unnamed (fields.map entryOf) = _
      rw [hrest]
    | @computed name e hname he =>
      rcases Field.computed_cases name e with ⟨rfl, hfield⟩ | hfield
      · rw [hfield]
        show Field.named name :: nameEntries unnamed (fields.map entryOf) = _
        rw [hrest]
      · have hentry : entryOf (Field.computed name e) = .value e (some name) := by
          rw [hfield]
          rfl
        rw [hentry, nameEntries, hrest]

theorem parseSelect_texts (countOnPaging : Bool) {fields : List Field} (hne : fields ≠ [])
    (h : ∀ f ∈ fields, PrintableField f) :
    PrintsClause (fields.mapM (Writer.selectItem ⟨.standard, countOnPaging⟩)) (parseSelect .empty)
      fields := by
  have hclause : PrintsClause (fields.mapM (Writer.selectItem ⟨.standard, countOnPaging⟩))
      (parseText .empty fun ctx => commaSeparated (selectEntry ctx)) (fields.map entryOf) :=
    printsClause_of_items hne fun f hf => (h f hf).printed countOnPaging
  obtain ⟨texts, hw, htexts, hvalue, hparse⟩ := hclause
  refine ⟨texts, hw, htexts, hvalue, ?_⟩
  rw [parseSelect, hparse]
  show Except.ok (nameEntries 0 (fields.map entryOf)) = _
  rw [nameEntries_entryOf h]

/-! ### Orderings and groupings -/

theorem parseOrder_texts (countOnPaging : Bool) {terms : List OrderTerm} (hne : terms ≠ [])
    (h : ∀ t ∈ terms, RoundTrips t.expr) :
    PrintsClause (terms.mapM (Writer.orderItem ⟨.standard, countOnPaging⟩)) (parseOrder .empty)
      terms := by
  have hitems : ∀ t ∈ terms, ∃ text,
      Writer.orderItem ⟨.standard, countOnPaging⟩ t = .ok text ∧
        ∀ source ctx, ctx.resolvers = .empty →
          ReadsItem (orderEntry ctx) source text.toList (id t) := by
    intro t ht
    obtain ⟨text, hr, hw⟩ := (h t ht).printed
    refine ⟨if t.descending then text ++ " desc" else text, ?_, fun _ _ hctx =>
      readsItem_order hctx hw t.descending⟩
    show (Dialect.standard.render t.expr).map _ = _
    rw [hr]
    rfl
  have hclause : PrintsClause (terms.mapM (Writer.orderItem ⟨.standard, countOnPaging⟩))
      (parseOrder .empty) (terms.map id) := printsClause_of_items hne hitems
  rw [List.map_id] at hclause
  exact hclause

theorem parseGroup_texts {keys : List Expr} (hne : keys ≠ []) (h : ∀ e ∈ keys, RoundTrips e) :
    PrintsClause (keys.mapM Dialect.standard.render) (parseGroup .empty) keys := by
  have hitems : ∀ e ∈ keys, ∃ text, Dialect.standard.render e = .ok text ∧
      ∀ source ctx, ctx.resolvers = .empty →
        ReadsItem (expression ctx) source text.toList (id e) := by
    intro e he
    obtain ⟨text, hr, hw⟩ := (h e he).printed
    exact ⟨text, hr, fun _ _ hctx => readsItem_expression hctx hw⟩
  have hclause : PrintsClause (keys.mapM Dialect.standard.render) (parseGroup .empty)
      (keys.map id) := printsClause_of_items hne hitems
  rw [List.map_id] at hclause
  exact hclause

/-! ### Numbers and depths -/

theorem dropWhile_isBlank_of_trimmed {cs : List Char}
    (h : ∃ c rest, cs = c :: rest ∧ Text.isBlank c = false) : cs.dropWhile Text.isBlank = cs := by
  obtain ⟨c, rest, rfl, hc⟩ := h
  exact List.dropWhile_cons_of_neg (by simp [hc])

theorem trim_of_trimmed {cs : List Char} (h : Trimmed cs) : Text.trim cs = cs := by
  obtain ⟨hfirst, init, c, hlast, hc⟩ := h
  have hreverse : cs.reverse.dropWhile Text.isBlank = cs.reverse :=
    dropWhile_isBlank_of_trimmed ⟨c, init.reverse, by simp [hlast], hc⟩
  rw [Text.trim, dropWhile_isBlank_of_trimmed hfirst, hreverse, List.reverse_reverse]

theorem text64_toList (n : Int64) : (Integer.text64 n).toList = Integer.chars n.toInt := by
  rw [Integer.text64, Integer.text, String.toList_ofList]

theorem isValue_text64 (n : Int64) : IsValue (Integer.text64 n).toList :=
  ((PrintableLiteral.int n).written .empty).isValue

theorem numberValue_text64 (n : Int64) : numberValue (Integer.text64 n).toList = .ok n := by
  rw [numberValue, text64_toList, trim_of_trimmed (trimmed_chars n.toInt), Integer.parse64?_chars]

/-- Digits in lower case do not start with a letter. -/
theorem asciiLower_toDigits_ne (n : Nat) :
    Text.asciiLower (String.ofList (Nat.toDigits 10 n)) ≠ "max" := by
  intro h
  obtain ⟨d, ds, hds, hd⟩ := Integer.toDigits_eq_cons n
  have hchars := congrArg String.toList h
  rw [Text.asciiLower, String.toList_ofList, String.toList_ofList, hds, List.map_cons] at hchars
  have hhead : Text.asciiLowerChar d = 'm' := (List.cons.inj hchars).1
  simp only [Text.isAsciiDigit, Bool.and_eq_true, decide_eq_true_eq] at hd
  rw [Text.asciiLowerChar, if_neg (by omega)] at hhead
  subst hhead
  exact absurd hd (by decide)

theorem isValue_levels (l : Levels) : IsValue l.text.toList := by
  cases l with
  | max => exact isValue_word (by decide)
  | count n =>
    have hn : n.toNat < Nat.pow 2 63 := Nat.lt_trans n.toNat_lt (by decide)
    rw [Levels.text, ← Integer.text64_ofNat hn]
    exact isValue_text64 _

theorem levelsValue_text (l : Levels) : levelsValue l.text.toList = .ok l := by
  have htrim := trim_of_trimmed (isValue_levels l).1
  cases l with
  | max =>
    rw [levelsValue, htrim]
    rfl
  | count n =>
    have hchars : (Levels.count n).text.toList = Nat.toDigits 10 n.toNat := by
      rw [Levels.text, Integer.natText, String.toList_ofList]
    rw [hchars] at htrim ⊢
    rw [levelsValue, htrim]
    simp only [if_neg (asciiLower_toDigits_ne n.toNat), Integer.parseNat32?_toDigits]

end Polyquery.OData
