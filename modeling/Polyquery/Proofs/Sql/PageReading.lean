import Polyquery.Proofs.Sql.Naming
import Polyquery.Proofs.Sql.Writable
import Polyquery.Sql.Reader

/-!
# Reading a page of a table

A selection of everything from a table, with a paging clause behind it, in the grammar of every
dialect.

* `PagingForm` - the forms of a paging clause, with the trees they are read as;
* `sourceWords`, `relation_page`, `relation_sourceWord` - the name of a table, and the words that
  announce a source of another kind in its place;
* `selection_front` - a selection of everything, up to its sources;
* `query_page`, `query_sourceWord` - the query, or its refusal;
* `statements?_query`, `statements?_refused` - texts with a single query;
* `toQuery_page` - the query that the tree means;
* `parse_page`, `parse_sourceWord` - the whole reading.
-/

namespace Polyquery.Sql

/-! ### Paging clauses -/

/-- A paging clause, with the trees of its bound and its offset. -/
inductive PagingForm : List Lexeme → Option Tree → Option Tree → Prop
  | none : PagingForm [] none none
  | limit (n : String) :
    PagingForm [wordLexeme "LIMIT", .number n false] (some (numberTree n)) none
  | offset (m : String) :
    PagingForm [wordLexeme "OFFSET", .number m false] none (some (numberTree m))
  | both (n m : String) :
    PagingForm [wordLexeme "LIMIT", .number n false, wordLexeme "OFFSET", .number m false]
      (some (numberTree n)) (some (numberTree m))
  | negative (n m : String) :
    PagingForm
      [wordLexeme "LIMIT", .symbol "-", .number n false, wordLexeme "OFFSET", .number m false]
      (some (.unary .minus (numberTree n))) (some (numberTree m))

/-- The lexemes of a page of everything in a table. -/
def pageLexemes (name : Ident) (names : List Ident) (paging : List Lexeme) : List Lexeme :=
  wordLexeme "SELECT" :: .symbol "*" :: wordLexeme "FROM" ::
    .word name :: (pointed names ++ paging)

section Reading

variable {d : DialectName} {paging : List Lexeme} {limit offset : Option Tree}

/-! ### Names of tables -/

theorem objectName_page (h : PagingForm paging limit offset) (name : Ident) (names : List Ident) :
    objectName (.word name :: (pointed names ++ paging)) = .ok (name :: names, paging) := by
  have hname : identifier (.word name :: (pointed names ++ paging))
      = .ok (name, pointed names ++ paging) := rfl
  have hend : (do
      if ← symbol? "." then return some (← identifier) else return none : Parse (Option Ident))
      paging = .ok (none, paging) := by
    cases h <;> rfl
  rw [objectName, bind_of_ok hname, bind_remaining,
    bind_of_ok (repeated_pointed (fun _ _ => rfl) hend names)]
  rfl

/-- No clause of a table stands between its name and its page. -/
theorem namedRelation_page (h : PagingForm paging limit offset) (r : Readings) (name : Ident)
    (names : List Ident) :
    ∃ front, namedRelation d r (.word name :: (pointed names ++ paging))
      = .ok (.table (name :: names) ⟨front, none, ""⟩, paging) := by
  rw [namedRelation, bind_of_ok (objectName_page h name names)]
  cases h <;> cases d <;> exact ⟨_, rfl⟩

/-- The words that announce a source of another kind where the name of a table stands. -/
def sourceWords : List String := ["LATERAL", "TABLE", "UNNEST"]

theorem keyword?_of_ne {l : Lexeme} {word : String} (h : l.keyword? ≠ some word)
    (ls : List Lexeme) : keyword? word (l :: ls) = .ok (false, l :: ls) := by
  refine keywords?_of_not_ahead ?_
  rw [keywordsAhead, Lexeme.isKeyword, decide_eq_false h, Bool.false_and]

theorem symbolAhead_page (h : PagingForm paging limit offset) (names : List Ident) :
    symbolAhead "(" (pointed names ++ paging) = false := by
  cases names with
  | nil => cases h <;> rfl
  | cons name names => rfl

theorem symbol?_word (text : String) (name : Ident) (ls : List Lexeme) :
    symbol? text (.word name :: ls) = .ok (false, .word name :: ls) := rfl

theorem no_rows_page (d : DialectName) (h : PagingForm paging limit offset) (l : Lexeme)
    (names : List Ident) :
    ¬ (decide (d = .generic) && valuesAhead (l :: (pointed names ++ paging))) = true := by
  have hrows : valuesAhead (l :: (pointed names ++ paging)) = false := by
    cases names with
    | nil => cases h <;> rfl
    | cons name names => rfl
  rw [hrows, Bool.and_false]
  exact Bool.false_ne_true

theorem pivoted_page (h : PagingForm paging limit offset) (r : Readings) (source : Relation) :
    pivoted d r paging.length source paging = .ok (source, paging) := by
  cases h <;> rfl

/-- A name that announces no other source is the name of a table. -/
theorem relation_page (h : PagingForm paging limit offset) (r : Readings) {name : Ident}
    (hname : (Lexeme.word name).isOneOf sourceWords = false) (names : List Ident) (n : Nat) :
    ∃ front, relation d r (n + 1) (.word name :: (pointed names ++ paging))
      = .ok (.table (name :: names) ⟨front, none, ""⟩, paging) := by
  obtain ⟨front, htable⟩ := @namedRelation_page d paging limit offset h r name names
  have hnot : ∀ word ∈ sourceWords, keyword? word (.word name :: (pointed names ++ paging))
      = .ok (false, .word name :: (pointed names ++ paging)) := by
    intro word hword
    refine keyword?_of_ne (fun hkey => isOneOf_eq_false hname (by decide) ?_) _
    rwa [hkey, Option.getD_some]
  have hunnest : onlyIf (d = .generic || d = .postgres) (keyword? "UNNEST")
      (.word name :: (pointed names ++ paging))
      = .ok (false, .word name :: (pointed names ++ paging)) := by
    unfold onlyIf
    split
    · exact hnot "UNNEST" (by decide)
    · rfl
  -- the words behind these need a parenthesis
  have hparen : ∀ p : Parse Bool, onlyIf (symbolAhead "("
      ((Lexeme.word name :: (pointed names ++ paging)).drop 1)) p
        (.word name :: (pointed names ++ paging))
      = .ok (false, .word name :: (pointed names ++ paging)) := by
    intro p
    show onlyIf (symbolAhead "(" (pointed names ++ paging)) p _ = _
    rw [symbolAhead_page h names]
    rfl
  refine ⟨front, ?_⟩
  rw [relation, bind_get, bind_if_false (hnot "LATERAL" (by decide)),
    bind_if_false (hnot "TABLE" (by decide)), bind_if_false (symbol?_word "(" name _),
    if_neg (no_rows_page d h _ names), bind_if_false hunnest, bind_if_false (hparen _),
    bind_if_false (hparen _), bind_of_ok htable, bind_remaining, pivoted_page h]

/-- Behind a word that announces another source, neither a point nor a page makes one. -/
theorem relation_sourceWord (h : PagingForm paging limit offset) (r : Readings) {name : Ident}
    (hname : (Lexeme.word name).isOneOf sourceWords = true) (names : List Ident) (n : Nat) :
    relation .generic r (n + 1) (.word name :: (pointed names ++ paging))
      = .error .mismatch := by
  unfold Lexeme.isOneOf at hname
  cases hkey : (Lexeme.word name).keyword? with
  | none =>
    rw [hkey] at hname
    cases hname
  | some key =>
    rw [hkey] at hname
    have hnot : ∀ word ≠ key, keyword? word (.word name :: (pointed names ++ paging))
        = .ok (false, .word name :: (pointed names ++ paging)) := by
      intro word hword
      refine keyword?_of_ne (fun heq => hword ?_) _
      rw [hkey] at heq
      exact (Option.some.inj heq).symm
    have hparens : ∀ {α β : Type} (p : Parse α) (f : α → Parse β),
        (inParens p >>= f) (pointed names ++ paging) = .error .mismatch := fun p f =>
      bind_of_error (inParens_of_not_ahead p (symbolAhead_page h names))
    simp only [sourceWords, List.contains_cons, List.contains_nil, Bool.or_false, Bool.or_eq_true,
      beq_iff_eq] at hname
    rw [relation, bind_get]
    rcases hname with rfl | rfl | rfl
    · rw [bind_if_true (keyword?_of_eq hkey _)]
      cases names with
      | nil => cases h <;> rfl
      | cons name names => rfl
    · rw [bind_if_false (hnot "LATERAL" (by decide)), bind_if_true (keyword?_of_eq hkey _)]
      exact hparens r.expression _
    · have hunnest : onlyIf (decide (DialectName.generic = .generic)
          || decide (DialectName.generic = .postgres)) (keyword? "UNNEST")
          (.word name :: (pointed names ++ paging)) = .ok (true, pointed names ++ paging) :=
        keyword?_of_eq hkey _
      rw [bind_if_false (hnot "LATERAL" (by decide)), bind_if_false (hnot "TABLE" (by decide)),
        bind_if_false (symbol?_word "(" name _), if_neg (no_rows_page .generic h _ names),
        bind_if_true hunnest]
      exact hparens r.expressionTexts _

theorem joinedSource_page (h : PagingForm paging limit offset) (r : Readings) {name : Ident}
    (hname : (Lexeme.word name).isOneOf sourceWords = false) (names : List Ident) :
    ∃ front, joinedSource d r (.word name :: (pointed names ++ paging))
      = .ok ((.table (name :: names) ⟨front, none, ""⟩, []), paging) := by
  obtain ⟨front, htable⟩ := @relation_page d paging limit offset h r name hname names
    (3 * (Lexeme.word name :: (pointed names ++ paging)).length + 1)
  have hjoins : ∀ n, joinChain d r (n + 1) paging = .ok ([], paging) := by
    intro n
    cases h <;> rfl
  refine ⟨front, ?_⟩
  rw [joinedSource, bind_remaining, relationWithJoins, bind_of_ok htable,
    bind_of_ok (hjoins _)]
  rfl

/-! ### Selections -/

/-- The tree of a selection of everything from a source. -/
def everythingFrom (source : Relation) : SelectTree :=
  .mk .all [.everything] 1 (some source) [] none (.by []) false

/-- A selection of everything goes on with its sources, and takes a page for none of its clauses. -/
theorem selection_front (d : DialectName) (r : Readings) (ls : List Lexeme) :
    ∃ f, selection d r (wordLexeme "SELECT" :: .symbol "*" :: wordLexeme "FROM" :: ls)
        = (commaSeparated (joinedSource d r) >>= f) ls ∧
      ∀ {paging limit offset}, PagingForm paging limit offset → ∀ source,
        ∃ text, f [(source, [])] paging = .ok ((everythingFrom source, text), paging) := by
  have hselect : expectKeyword "SELECT"
      (wordLexeme "SELECT" :: .symbol "*" :: wordLexeme "FROM" :: ls)
      = .ok ((), .symbol "*" :: wordLexeme "FROM" :: ls) := rfl
  have hdistinct : distinctClause r (.symbol "*" :: wordLexeme "FROM" :: ls)
      = .ok ((.all, ""), .symbol "*" :: wordLexeme "FROM" :: ls) := rfl
  have htop : topClause r (.symbol "*" :: wordLexeme "FROM" :: ls)
      = .ok ("", .symbol "*" :: wordLexeme "FROM" :: ls) := rfl
  have hitems : commaSeparated (selectItem d r) (.symbol "*" :: wordLexeme "FROM" :: ls)
      = .ok ([(.everything, "*")], wordLexeme "FROM" :: ls) := by
    cases d <;> rfl
  have hinto : intoClause (wordLexeme "FROM" :: ls) = .ok ("", wordLexeme "FROM" :: ls) := rfl
  have hfrom : keyword? "FROM" (wordLexeme "FROM" :: ls) = .ok (true, ls) := rfl
  rw [selection, bind_of_ok hselect, bind_of_ok hdistinct]
  simp only []
  rw [bind_of_ok htop, bind_of_ok hitems, bind_of_ok hinto, bind_of_ok hfrom, if_pos rfl]
  refine ⟨_, rfl, fun h source => ?_⟩
  cases h <;> cases d <;> exact ⟨_, rfl⟩

theorem selection_page (h : PagingForm paging limit offset) (r : Readings) {name : Ident}
    (hname : (Lexeme.word name).isOneOf sourceWords = false) (names : List Ident) :
    ∃ front text, selection d r (pageLexemes name names paging)
      = .ok ((everythingFrom (.table (name :: names) ⟨front, none, ""⟩), text), paging) := by
  obtain ⟨front, hsource⟩ := @joinedSource_page d paging limit offset h r name hname names
  have hsources : commaSeparated (joinedSource d r) (.word name :: (pointed names ++ paging))
      = .ok ([(.table (name :: names) ⟨front, none, ""⟩, [])], paging) := by
    have hcomma : symbolAhead "," paging = false := by cases h <;> rfl
    rw [commaSeparated, bind_remaining, bind_of_ok hsource,
      bind_of_ok (commaRest_of_not_ahead _ hcomma _)]
    rfl
  obtain ⟨f, hfront, hrest⟩ := selection_front d r (.word name :: (pointed names ++ paging))
  obtain ⟨text, hrest⟩ := hrest h (.table (name :: names) ⟨front, none, ""⟩)
  refine ⟨front, text, ?_⟩
  rw [pageLexemes, hfront, bind_of_ok hsources, hrest]

theorem selection_sourceWord (h : PagingForm paging limit offset) (r : Readings) {name : Ident}
    (hname : (Lexeme.word name).isOneOf sourceWords = true) (names : List Ident) :
    selection .generic r (pageLexemes name names paging) = .error .mismatch := by
  have hsource : joinedSource .generic r (.word name :: (pointed names ++ paging))
      = .error .mismatch := by
    rw [joinedSource, bind_remaining, relationWithJoins,
      bind_of_error (relation_sourceWord h r hname names _)]
  have hsources : commaSeparated (joinedSource .generic r) (.word name :: (pointed names ++ paging))
      = .error .mismatch := by
    rw [commaSeparated, bind_remaining, bind_of_error hsource]
  obtain ⟨f, hfront, -⟩ := selection_front .generic r (.word name :: (pointed names ++ paging))
  rw [pageLexemes, hfront, bind_of_error hsources]

/-! ### Queries -/

/-- A text that starts with `SELECT` is a selection without named queries. -/
theorem query_select (d : DialectName) (r : Readings) (ls : List Lexeme) :
    query d r (wordLexeme "SELECT" :: ls) = selectingQuery d r "" (wordLexeme "SELECT" :: ls) := rfl

/-- No other selection is combined with that of a page. -/
theorem queryBody_page (h : PagingForm paging limit offset) (r : Readings) {name : Ident}
    (hname : (Lexeme.word name).isOneOf sourceWords = false) (names : List Ident) :
    ∃ front body, queryBody d r (pageLexemes name names paging)
      = .ok ((some (everythingFrom (.table (name :: names) ⟨front, none, ""⟩)), body), paging) := by
  obtain ⟨front, body, hselection⟩ := @selection_page d paging limit offset h r name hname names
  have hsimple : simpleBody d r (pageLexemes name names paging)
      = .ok ((some (everythingFrom (.table (name :: names) ⟨front, none, ""⟩)), body), paging) := by
    have hahead : keywordsAhead ["SELECT"] (pageLexemes name names paging) = true := rfl
    rw [simpleBody, bind_get, if_pos hahead, bind_of_ok hselection]
    rfl
  have htight : (do
      let first ← simpleBody d r
      setChain ["INTERSECT"] (simpleBody d r) (← remaining) first :
        Parse (Option SelectTree × String)) (pageLexemes name names paging)
      = .ok ((some (everythingFrom (.table (name :: names) ⟨front, none, ""⟩)), body), paging) := by
    rw [bind_of_ok hsimple, bind_remaining]
    cases h <;> rfl
  refine ⟨front, body, ?_⟩
  rw [queryBody, bind_of_ok htight, bind_remaining]
  cases h <;> rfl

/-- The bound and the offset of a page are read wherever two levels are left to nest. -/
theorem query_page (h : PagingForm paging limit offset) {name : Ident}
    (hname : (Lexeme.word name).isOneOf sourceWords = false) (names : List Ident) (n : Nat) :
    ∃ front body text,
      query d (readings d (readers d false (n + 2))) (pageLexemes name names paging)
        = .ok (.mk false (some (everythingFrom (.table (name :: names) ⟨front, none, ""⟩))) body []
            limit offset text, []) := by
  obtain ⟨front, body, hbody⟩ := @queryBody_page d paging limit offset h
    (readings d (readers d false (n + 2))) name hname names
  refine ⟨front, body, ?_⟩
  rw [pageLexemes, query_select, ← pageLexemes, selectingQuery, bind_of_ok hbody]
  cases h <;> cases d <;> exact ⟨_, rfl⟩

theorem query_sourceWord (h : PagingForm paging limit offset) (r : Readings) {name : Ident}
    (hname : (Lexeme.word name).isOneOf sourceWords = true) (names : List Ident) :
    query .generic r (pageLexemes name names paging) = .error .mismatch := by
  have hsimple : simpleBody .generic r (pageLexemes name names paging) = .error .mismatch := by
    have hahead : keywordsAhead ["SELECT"] (pageLexemes name names paging) = true := rfl
    rw [simpleBody, bind_get, if_pos hahead, bind_of_error (selection_sourceWord h r hname names)]
  have hbody : queryBody .generic r (pageLexemes name names paging) = .error .mismatch := by
    rw [queryBody]
    exact bind_of_error (bind_of_error hsimple)
  rw [pageLexemes, query_select, ← pageLexemes, selectingQuery, bind_of_error hbody]

end Reading

/-! ### Texts -/

section Texts

variable {d : DialectName} {text : String} {ls : List Lexeme}

/-- The reading of the queries of a text. -/
def textQuery (d : DialectName) : Parse QueryTree :=
  query d (readings d (readers d false (nestingLimit - 2)))

/-- A text that starts with `SELECT` starts with a query. -/
theorem statementList_select (d : DialectName) (n : Nat) (ls : List Lexeme) :
    statementList d (n + 1) true (wordLexeme "SELECT" :: ls)
      = ((textQuery d >>= fun tree => return Statement.query tree) >>= fun first => do
          return first :: (← statementList d n false)) (wordLexeme "SELECT" :: ls) := rfl

theorem statements?_query {tree : QueryTree}
    (htext : lexemes? d text = some (wordLexeme "SELECT" :: ls))
    (hquery : textQuery d (wordLexeme "SELECT" :: ls) = .ok (tree, [])) :
    statements? d text = some [.query tree] := by
  have hlist : statementList d (2 * (wordLexeme "SELECT" :: ls).length + 1) true
      (wordLexeme "SELECT" :: ls) = .ok ([.query tree], []) := by
    rw [statementList_select, bind_of_ok (bind_of_ok hquery)]
    rfl
  simp only [statements?, htext, Option.bind_eq_bind, Option.bind_some, hlist]

theorem statements?_refused {refusal : Refusal}
    (htext : lexemes? d text = some (wordLexeme "SELECT" :: ls))
    (hquery : textQuery d (wordLexeme "SELECT" :: ls) = .error refusal) :
    statements? d text = none := by
  have hlist : statementList d (2 * (wordLexeme "SELECT" :: ls).length + 1) true
      (wordLexeme "SELECT" :: ls) = .error refusal := by
    rw [statementList_select, bind_of_error (bind_of_error hquery)]
  simp only [statements?, htext, Option.bind_eq_bind, Option.bind_some, hlist]

end Texts

/-! ### Meaning -/

/-- The query of everything in a table. -/
def wholeTable (rs : Resolvers) (path : String) : Query :=
  { Query.empty with resolvers := rs }.fromCollection (Entity.named path)

/-- The query that a page is read as: a bound or an offset counts only if it is a number. -/
def pageQuery (rs : Resolvers) (path : String) (limit offset : Option Tree) :
    QueryResult Query := do
  let limit ← limit.mapM (pagingValue "LIMIT")
  let offset ← offset.mapM (pagingValue "OFFSET")
  let q := (limit.map (wholeTable rs path).take).getD (wholeTable rs path)
  return (offset.map q.skip).getD q

theorem toQuery_page (rs : Resolvers) (names : List Ident) (front body text : String)
    (limit offset : Option Tree) :
    (QueryTree.mk false (some (everythingFrom (.table names ⟨front, none, ""⟩))) body [] limit
        offset text).toQuery rs
      = pageQuery rs (plainName names) limit offset := rfl

section Parse

variable {d : DialectName} {text : String} {name : Ident} {names : List Ident}
  {paging : List Lexeme} {limit offset : Option Tree}

theorem parse_page (rs : Resolvers) (h : PagingForm paging limit offset)
    (htext : lexemes? d text = some (pageLexemes name names paging))
    (hname : (Lexeme.word name).isOneOf sourceWords = false) :
    parse d rs text = pageQuery rs (plainName (name :: names)) limit offset := by
  obtain ⟨front, body, wording, hquery⟩ := @query_page d paging limit offset h name hname names
    (nestingLimit - 4)
  rw [parse, statements?_query htext hquery]
  exact toQuery_page rs (name :: names) front body wording limit offset

theorem parse_sourceWord (rs : Resolvers) (h : PagingForm paging limit offset)
    (htext : lexemes? .generic text = some (pageLexemes name names paging))
    (hname : (Lexeme.word name).isOneOf sourceWords = true) :
    parse .generic rs text = .error .sqlSyntax := by
  have hrefused : textQuery .generic (pageLexemes name names paging) = .error .mismatch :=
    query_sourceWord h _ hname names
  rw [parse, statements?_refused htext hrefused]

end Parse

end Polyquery.Sql
