import Polyquery.Proofs.Sql.Vetted

/-!
# Where the text of a query goes

A statement is written with fixed texts, numbers and quoted texts.  A name goes through the quoting
of identifiers, any other text of a query through the quoting of strings.

* `selectTokens_vetted`, `statementTokens_vetted` - the tokens of statements are vetted;
* `Dialect.Piece` - the pieces that the text of a statement is put together from;
* `streams_quote` - every token that is written for a query is vetted and written as a piece.
-/

namespace Polyquery.Sql

/-! ### Statements -/

section Statements

variable {d : Dialect} {q : Query} {ts : List Token}

theorem AllVetted.clause {decimal : Decimal → Prop} (k : Keyword) (h : AllVetted decimal ts) :
    AllVetted decimal (clause k ts) :=
  allVetted_append.2 ⟨.spaced trivial, h⟩

/-- The tokens of an expression that stands in a query. -/
theorem render_held (hd : d.IsFixed) {e : Expr} (h : q.Holds e) :
    Gives (AllVetted q.HasDecimal) (d.render e) :=
  render_vetted hd fun _ hv => ⟨e, h, hv⟩

theorem pagingClause_vetted {decimal : Decimal → Prop} (hd : d.IsFixed) (limit offset : Int64) :
    AllVetted decimal (d.pagingClause limit offset) := by
  have hbounds : AllVetted decimal (boundTokens limit offset) := by
    refine .separated (by simp [Token.Vetted]) fun item hitem => ?_
    rcases List.mem_append.1 hitem with hitem | hitem
    · split at hitem
      · obtain rfl := List.mem_singleton.1 hitem
        simp [Token.Vetted]
      · cases hitem
    · split at hitem
      · obtain rfl := List.mem_singleton.1 hitem
        simp [Token.Vetted]
      · cases hitem
  have hpaging : AllVetted decimal (d.pagingTokens limit offset) := by
    unfold Dialect.pagingTokens
    split
    · exact hbounds
    · rename_i unbounded hunbounded
      split
      · exact hbounds
      · simp [Token.Vetted, hd.unboundedLimit unbounded hunbounded]
  unfold Dialect.pagingClause
  simp only
  split
  · exact allVetted_nil
  · exact allVetted_cons.2 ⟨trivial, hpaging⟩

/-- The filter in force is made of decimals of the query. -/
theorem effectiveFilter_decimals {e : Expr} (h : q.effectiveFilter = some e) {v : Decimal}
    (hv : e.HasDecimal v) : q.HasDecimal v := by
  unfold Query.effectiveFilter at h
  split at h
  · rename_i prepared filter hprepared hfilter
    cases h
    cases hv with
    | inside hsub hv =>
      simp only [Expr.subtrees, Expr.and, List.mem_cons, List.not_mem_nil, or_false] at hsub
      rcases hsub with rfl | rfl
      · exact ⟨_, .prepared hprepared, hv⟩
      · exact ⟨_, .filter hfilter, hv⟩
  · rename_i only hprepared hfilter
    cases h
    exact ⟨_, .prepared hprepared, hv⟩
  · rename_i only hprepared hfilter
    cases h
    exact ⟨_, .filter hfilter, hv⟩
  · cases h

theorem whereClause_vetted (hd : d.IsFixed) (q : Query) :
    Gives (AllVetted q.HasDecimal) (d.whereClause q) := by
  unfold Dialect.whereClause
  split
  · exact .ok allVetted_nil
  · rename_i filter hfilter
    exact (render_vetted hd fun v hv => effectiveFilter_decimals hfilter hv).map
      fun ts hts => hts.clause _

theorem groupClause_vetted (hd : d.IsFixed) (q : Query) :
    Gives (AllVetted q.HasDecimal) (d.groupClause q) := by
  unfold Dialect.groupClause
  split
  · exact .ok allVetted_nil
  · exact (Gives.mapM fun e he => render_held hd (.grouping he)).map
      fun parts hparts => AllVetted.clause _ (.commaSeparated hparts)

theorem orderClause_vetted (hd : d.IsFixed) (q : Query) :
    Gives (AllVetted q.HasDecimal) (d.orderClause q) := by
  unfold Dialect.orderClause
  split
  · exact .ok allVetted_nil
  · refine (Gives.mapM fun t ht => ?_).map fun parts hparts =>
      AllVetted.clause _ (.commaSeparated hparts)
    exact (render_held hd (.ordering ht)).map fun ts hts => by simp [Token.Vetted, hts]

theorem projectionTokens_vetted (hd : d.IsFixed) (q : Query) :
    Gives (AllVetted q.HasDecimal) (d.projectionTokens q) := by
  unfold Dialect.projectionTokens
  split
  · exact .ok (by simp [Token.Vetted, symbolTexts])
  · refine (Gives.mapM fun f hf => ?_).map fun parts hparts => .commaSeparated hparts
    unfold Dialect.fieldTokens
    split
    · exact .ok (.path _)
    · rename_i e he
      exact (render_held hd (.field hf he)).map fun ts hts =>
        .infixed hts trivial (by simp [Token.Vetted])

theorem aliasTokens_vetted {decimal : Decimal → Prop} (aliasName : Option String) :
    AllVetted decimal (Dialect.aliasTokens aliasName) := by
  cases aliasName <;> simp [Dialect.aliasTokens, Token.Vetted]

theorem selectWith_vetted (hd : d.IsFixed) {joins : Entity → QueryResult (List Token)}
    (hjoins : ∀ base, Gives (AllVetted q.HasDecimal) (joins base)) :
    Gives (AllVetted q.HasDecimal) (d.selectWith q joins) := by
  unfold Dialect.selectWith
  split
  · exact .error _ _
  · split
    · exact .error _ _
    · rename_i entity _
      refine .bind (projectionTokens_vetted hd q) fun projection hprojection =>
        .bind (hjoins entity) fun joined hjoined =>
        .bind (whereClause_vetted hd q) fun filter hfilter =>
        .bind (groupClause_vetted hd q) fun groups hgroups =>
        .bind (orderClause_vetted hd q) fun order horder => .ok ?_
      have hentity : AllVetted q.HasDecimal (clause .from (Dialect.entityTokens entity)) :=
        .clause _ (allVetted_append.2 ⟨.path _, aliasTokens_vetted _⟩)
      have hdistinct : AllVetted q.HasDecimal
          (if q.distinct then [.keyword .distinct, .space] else []) := by
        split <;> simp [Token.Vetted]
      simp [Token.Vetted, hdistinct, hprojection, hentity, hjoined, hfilter, hgroups, horder]

theorem AllVetted.imp {decimal decimal' : Decimal → Prop} (h : AllVetted decimal ts)
    (himp : ∀ v, decimal v → decimal' v) : AllVetted decimal' ts := by
  intro t ht
  have hvetted := h t ht
  cases t with
  | raw text =>
    rcases hvetted with hraw | ⟨v, hv, rfl⟩
    · exact .inl hraw
    · exact .inr ⟨v, himp v hv, rfl⟩
  | symbol | functionName => exact hvetted
  | keyword | concat | space | int | float | bool | null | ident | string => trivial

/-- The tokens of a join, given those of what is joined. -/
theorem joinTokens_vetted (hd : d.IsFixed) {l : Lookup Query} (hl : l ∈ q.lookups) (base : Entity)
    (h : AllVetted q.HasDecimal ts) : Gives (AllVetted q.HasDecimal) (d.joinTokens base l ts) := by
  have hcondition : Gives (AllVetted q.HasDecimal)
      (d.render (Dialect.conditionExpr base.reference (l.reference?.getD base.reference)
        l.condition)) := by
    cases hc : l.condition with
    | filter e => exact render_held hd (.condition hl hc)
    | fields localField foreignField =>
      exact render_compare_vetted _ (render_vetted hd fun v hv => by cases hv; contradiction)
        (render_vetted hd fun v hv => by cases hv; contradiction)
  unfold Dialect.joinTokens
  refine hcondition.map fun us hus => ?_
  simp [AllVetted.keywords, Token.Vetted, h, hus.clause]

theorem joinsTokens_vetted (hd : d.IsFixed) (base : Entity) {lookups : List (Lookup Query)}
    (hlookups : ∀ l ∈ lookups, l ∈ q.lookups)
    (h : ∀ l ∈ lookups, ∀ sub, l.target = .query sub →
      Gives (AllVetted sub.HasDecimal) (d.selectTokens sub)) :
    Gives (AllVetted q.HasDecimal) (d.joinsTokens base lookups) := by
  induction lookups with
  | nil =>
    rw [Dialect.joinsTokens]
    exact .ok allVetted_nil
  | cons l rest ih =>
    rw [List.forall_mem_cons] at hlookups h
    obtain ⟨target, direction, aliasName, condition⟩ := l
    have htarget : Gives (AllVetted q.HasDecimal) (d.targetTokens aliasName target) := by
      cases target with
      | collection e =>
        rw [Dialect.targetTokens]
        exact .ok (allVetted_append.2 ⟨.path _, aliasTokens_vetted _⟩)
      | query sub =>
        rw [Dialect.targetTokens]
        refine .bind (h.1 sub rfl) fun ts hts => .ok ?_
        have hheld : AllVetted q.HasDecimal ts :=
          hts.imp fun v ⟨e, he, hv⟩ => ⟨e, .joined hlookups.1 rfl he, hv⟩
        have hpaged := allVetted_append.2 ⟨hheld, pagingClause_vetted hd sub.limit sub.offset⟩
        exact allVetted_append.2 ⟨hpaged.parenthesized, aliasTokens_vetted _⟩
    rw [Dialect.joinsTokens]
    refine .bind htarget fun source hsource =>
      .bind (joinTokens_vetted hd hlookups.1 base hsource) fun join hjoin =>
      .bind (ih hlookups.2 h.2) fun joins hjoins => .ok ?_
    simp [Token.Vetted, hjoin, hjoins]

/-- The tokens of a SELECT and of the queries that it joins. -/
theorem selectTokens_vetted (hd : d.IsFixed) (q : Query) :
    Gives (AllVetted q.HasDecimal) (d.selectTokens q) := by
  induction q using Query.induction with
  | step q ih =>
    cases q
    rw [Dialect.selectTokens]
    exact selectWith_vetted hd fun base => joinsTokens_vetted hd base (fun l hl => hl) ih

theorem limitSelectTokens_vetted (hd : d.IsFixed) (q : Query) :
    Gives (AllVetted q.HasDecimal) (d.limitSelectTokens q) :=
  (selectTokens_vetted hd q).map fun _ hts =>
    allVetted_append.2 ⟨hts, pagingClause_vetted hd q.limit q.offset⟩

theorem targetTable_vetted (q : Query) :
    Gives (AllVetted q.HasDecimal) (Dialect.targetTable q) := by
  unfold Dialect.targetTable
  split
  · exact .ok (.path _)
  · exact .error _ _

theorem insertTokens_vetted (hd : d.IsFixed) (q : Query) :
    Gives (AllVetted q.HasDecimal) (d.insertTokens q) := by
  unfold Dialect.insertTokens
  split
  · rename_i values hpayload
    split
    · exact .error _ _
    · refine .bind (targetTable_vetted q) fun table htable =>
        .bind (Gives.mapM fun a ha => render_held hd (.assignment hpayload ha))
          fun rendered hrendered => .ok ?_
      have hcolumns : AllVetted q.HasDecimal
          (Token.commaSeparated (values.map fun a => [Token.ident a.column])) :=
        .commaSeparated (by simp [Token.Vetted])
      have hvalues : AllVetted q.HasDecimal
          (clause .values (Token.parenthesized (Token.commaSeparated rendered))) :=
        .clause _ (.parenthesized (.commaSeparated hrendered))
      simp [AllVetted.keywords, Token.Vetted, htable, hcolumns.parenthesized, hvalues]
  · exact .error _ _

theorem updateTokens_vetted (hd : d.IsFixed) (q : Query) :
    Gives (AllVetted q.HasDecimal) (d.updateTokens q) := by
  unfold Dialect.updateTokens
  split
  · rename_i values hpayload
    split
    · exact .error _ _
    · have hset : ∀ a ∈ values, Gives (AllVetted q.HasDecimal) (d.assignmentTokens a) :=
        fun a ha => (render_held hd (.assignment hpayload ha)).map fun ts hts =>
          .infixed (by simp [Token.Vetted]) (by simp [Token.Vetted, symbolTexts]) hts
      refine .bind (targetTable_vetted q) fun table htable =>
        .bind (Gives.mapM hset) fun sets hsets =>
        .bind (whereClause_vetted hd q) fun filter hfilter => .ok ?_
      have hclause : AllVetted q.HasDecimal (clause .set (Token.commaSeparated sets)) :=
        .clause _ (.commaSeparated hsets)
      simp [Token.Vetted, htable, hclause, hfilter]
  · exact .error _ _

theorem deleteTokens_vetted (hd : d.IsFixed) (q : Query) :
    Gives (AllVetted q.HasDecimal) (d.deleteTokens q) := by
  unfold Dialect.deleteTokens
  split
  · refine .bind (targetTable_vetted q) fun table htable =>
      .bind (whereClause_vetted hd q) fun filter hfilter => .ok ?_
    simp [AllVetted.keywords, Token.Vetted, htable, hfilter]
  · exact .error _ _

/-- The tokens of any statement. -/
theorem statementTokens_vetted (hd : d.IsFixed) (q : Query) :
    Gives (AllVetted q.HasDecimal) (d.statementTokens q) := by
  unfold Dialect.statementTokens
  split
  · exact limitSelectTokens_vetted hd q
  · exact insertTokens_vetted hd q
  · exact updateTokens_vetted hd q
  · exact deleteTokens_vetted hd q

end Statements

/-! ### Texts -/

/-- The texts that no query changes. -/
def fixedTexts : List String :=
  Keyword.all.map Keyword.text ++ symbolTexts ++ functionTexts ++ rawTexts ++ constantTexts

/-- A piece of a statement's text: fixed, a number, one of the given decimals, or quoted. -/
inductive Dialect.Piece (d : Dialect) (decimal : Decimal → Prop) : String → Prop where
  | fixed {text : String} : text ∈ fixedTexts → Piece d decimal text
  | integer (n : Int64) : Piece d decimal (Integer.text64 n)
  | float (f : Double) : Piece d decimal (NumberLayout.literal.render f)
  | decimal {v : Decimal} : decimal v → Piece d decimal v.text
  | identifier (name : String) : Piece d decimal (d.quoteIdentifier name)
  | string (s : String) : Piece d decimal (d.quoteString s)

theorem upper_functionTexts : ∀ name ∈ functionTexts, Text.upper name = name := by
  decide +kernel

/-- A vetted token is written as a piece. -/
theorem Token.Vetted.piece {d : Dialect} (hd : d.IsFixed) {decimal : Decimal → Prop} {t : Token}
    (h : t.Vetted decimal) : d.Piece decimal (d.tokenText t) := by
  cases t with
  | ident name => exact .identifier name
  | int n => exact .integer n
  | float f => exact .float f
  | string s => exact .string s
  | keyword k =>
    have hk : k ∈ Keyword.all := by cases k <;> decide
    exact .fixed (by simp [fixedTexts, Dialect.tokenText, List.mem_map_of_mem hk])
  | symbol text =>
    exact .fixed (by simp [fixedTexts, Dialect.tokenText, show text ∈ symbolTexts from h])
  | concat => exact .fixed (by simp [fixedTexts, Dialect.tokenText, hd.concatOperator])
  | space => exact .fixed (by simp [fixedTexts, Dialect.tokenText, constantTexts])
  | bool b => exact .fixed (by simp [fixedTexts, Dialect.tokenText, hd.boolText b])
  | null => exact .fixed (by simp [fixedTexts, Dialect.tokenText, hd.nullText])
  | functionName name =>
    have hupper : d.tokenText (.functionName name) = name := upper_functionTexts name h
    rw [hupper]
    exact .fixed (by simp [fixedTexts, show name ∈ functionTexts from h])
  | raw text =>
    rcases h with hraw | ⟨v, hv, rfl⟩
    · exact .fixed (by simp [fixedTexts, Dialect.tokenText, hraw])
    · exact .decimal hv

/-- The tokens of the statements that a query is written as, by its own kind or by another. -/
def Dialect.streams (d : Dialect) (q : Query) : List (QueryResult (List Token)) :=
  [d.statementTokens q, d.selectTokens q, d.limitSelectTokens q, d.insertTokens q,
    d.updateTokens q, d.deleteTokens q]

theorem streams_vetted {d : Dialect} (hd : d.IsFixed) (q : Query) :
    ∀ stream ∈ d.streams q, Gives (AllVetted q.HasDecimal) stream := by
  simp only [Dialect.streams, List.forall_mem_cons]
  exact ⟨statementTokens_vetted hd q, selectTokens_vetted hd q, limitSelectTokens_vetted hd q,
    insertTokens_vetted hd q, updateTokens_vetted hd q, deleteTokens_vetted hd q,
    fun stream hstream => absurd hstream List.not_mem_nil⟩

/-- Text of a query reaches the text of a statement through quoting only.  Every token holds fixed
text, a decimal of the query, a constant, or a text to quote; so every piece of the text is fixed, a
number, or quoted. -/
theorem streams_quote (n : DialectName) (q : Query) (ts : List Token)
    (h : .ok ts ∈ n.dialect.streams q) :
    ∀ t ∈ ts, t.Vetted q.HasDecimal ∧ n.dialect.Piece q.HasDecimal (n.dialect.tokenText t) := by
  intro t ht
  have hvetted := streams_vetted n.isFixed q _ h ts rfl t ht
  exact ⟨hvetted, hvetted.piece n.isFixed⟩

/-- A change of a table with quotes in its names and a decimal in its filter. -/
def quotedChange : Query :=
  { Query.empty with
    collection := some (Entity.named "it's")
    payload := some (.update [⟨"a\x60 = 1 --", .string "'; DROP TABLE x; --"⟩])
    filter := some (.compare .gt (.field "pri\"ce") (.literal (.decimal ⟨false, 150, 2⟩))) }

theorem streams_quote_quotedChange :
    ∃ ts, .ok ts ∈ Dialect.mySql.streams quotedChange ∧
      Dialect.mySql.text ts = "UPDATE \x60it's\x60 SET \x60a\x60\x60 = 1 --\x60 = " ++
        "'''; DROP TABLE x; --' WHERE \x60pri\"ce\x60 > 1.50" ∧
      ∀ t ∈ ts, t.Vetted quotedChange.HasDecimal ∧
        Dialect.mySql.Piece quotedChange.HasDecimal (Dialect.mySql.tokenText t) := by
  refine ⟨_, List.mem_cons_self, ?_, streams_quote .mySql quotedChange _ List.mem_cons_self⟩
  decide

end Polyquery.Sql
