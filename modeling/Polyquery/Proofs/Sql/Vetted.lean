import Polyquery.Proofs.Expr.Document
import Polyquery.Sql.Statement

/-!
# Tokens without loose text

What the tokens of an expression may hold: fixed texts, exact decimals, constants, and texts that
are quoted when they are written.

* `Query.Holds`, `Query.HasDecimal` - the expressions and the decimals that stand in a query;
* `symbolTexts`, `functionTexts`, `rawTexts` - the fixed texts of tokens;
* `Token.Vetted`, `AllVetted` - tokens that hold nothing else;
* `Dialect.IsFixed` - dialects whose own words are fixed, as those of the built-in ones are;
* `render_vetted` - the tokens of an expression are vetted.
-/

namespace Polyquery

/-! ### What stands in a query -/

namespace Expr

/-- The trees right below a node. -/
def subtrees : Expr → List Expr
  | .field _ | .literal _ => []
  | .compare _ left right | .arithmetic _ left right => [left, right]
  | .logical _ args | .call _ args | .custom _ args => args
  | .not arg | .regexMatch arg _ _ => [arg]
  | .cond condition yes no => [condition, yes, no]
  | .switch branches default => branches.map Prod.fst ++ branches.map Prod.snd ++ default.toList

/-- A tree is a part of another. -/
inductive Within (part : Expr) : Expr → Prop where
  | self : Within part part
  | inside {sub whole : Expr} : sub ∈ whole.subtrees → Within part sub → Within part whole

/-- A decimal is a constant of the tree. -/
def HasDecimal (e : Expr) (d : Decimal) : Prop := Within (.literal (.decimal d)) e

/-- What holds of the decimals of a tree holds of those of its subtrees. -/
theorem forall_decimal_subtree {decimal : Decimal → Prop} {sub whole : Expr}
    (h : ∀ d, whole.HasDecimal d → decimal d) (hsub : sub ∈ whole.subtrees) :
    ∀ d, sub.HasDecimal d → decimal d :=
  fun d hd => h d (.inside hsub hd)

end Expr

/-- The values that a payload assigns to columns. -/
def Payload.assignments : Payload → List Assignment
  | .insert values | .update values => values
  | .delete => []

namespace Query

/-- An expression stands in a clause of the query, or in one of a query that it joins. -/
inductive Holds : Query → Expr → Prop where
  | field {q : Query} {f : Field} {e : Expr} : f ∈ q.fields → f.expr = some e → Holds q e
  | filter {q : Query} {e : Expr} : q.filter = some e → Holds q e
  | prepared {q : Query} {e : Expr} : q.prepared = some e → Holds q e
  | ordering {q : Query} {t : OrderTerm} : t ∈ q.ordering → Holds q t.expr
  | grouping {q : Query} {e : Expr} : e ∈ q.grouping → Holds q e
  | assignment {q : Query} {p : Payload} {a : Assignment} :
      q.payload = some p → a ∈ p.assignments → Holds q a.value
  | condition {q : Query} {l : Lookup Query} {e : Expr} :
      l ∈ q.lookups → l.condition = .filter e → Holds q e
  | joined {q sub : Query} {l : Lookup Query} {e : Expr} :
      l ∈ q.lookups → l.target = .query sub → Holds sub e → Holds q e

/-- A decimal is a constant of an expression of the query. -/
def HasDecimal (q : Query) (d : Decimal) : Prop := ∃ e, q.Holds e ∧ e.HasDecimal d

/-- Induction over a query, with the queries that it joins. -/
theorem induction {P : Query → Prop}
    (step : ∀ q, (∀ l ∈ q.lookups, ∀ sub, l.target = .query sub → P sub) → P q) (q : Query) :
    P q := by
  refine Query.rec (motive_1 := P)
    (motive_2 := fun lookups => ∀ l ∈ lookups, ∀ sub, l.target = .query sub → P sub)
    (motive_3 := fun _ => True) (motive_4 := fun l => ∀ sub, l.target = .query sub → P sub)
    (motive_5 := fun _ => True) (motive_6 := fun target => ∀ sub, target = .query sub → P sub)
    ?_ ?_ ?_ trivial (fun _ _ => trivial) ?_ (fun _ _ _ _ => trivial) ?_ ?_ q
  · intro collection fields filter prepared ordering grouping lookups limit offset distinct payload
      pending connective staged resolvers hlookups _
    exact step _ hlookups
  · exact fun l hl => absurd hl List.not_mem_nil
  · exact fun l rest hl hrest => List.forall_mem_cons.2 ⟨hl, hrest⟩
  · exact fun target direction aliasName condition htarget => htarget
  · intro entity sub h
    cases h
  · intro q hq sub h
    cases h
    exact hq

end Query

namespace Sql

/-! ### Fixed texts -/

/-- Every symbol that statements are written with. -/
def symbolTexts : List String :=
  ["*", ",", "(", ")", ".", "=", "<>", ">", ">=", "<", "<=", "+", "-", "/", "%", "~", "~*",
    "REGEXP"]

/-- Every function that statements call. -/
def functionTexts : List String :=
  ["YEAR", "MONTH", "DAY", "HOUR", "MINUTE", "SECOND", "EXTRACT", "STRFTIME",
    "LOWER", "UPPER", "TRIM", "LENGTH", "CONCAT", "SUBSTRING", "SUBSTR", "LOCATE", "INSTR",
    "STRPOS", "ROUND", "CEIL", "FLOOR", "MIN", "MAX", "COUNT", "SUM", "AVG", "REGEXP_LIKE"]

/-- Every text that is written as it is, decimals apart. -/
def rawTexts : List String :=
  ["YEAR", "MONTH", "DAY", "HOUR", "MINUTE", "SECOND", "INTEGER", "-1", "18446744073709551615"]

/-- Spellings of truth values, of null, of concatenation and of a space. -/
def constantTexts : List String := ["TRUE", "FALSE", "true", "false", "1", "0", "NULL", "||", " "]

/-! ### Vetted tokens -/

/-- A token holds a fixed text, one of the given decimals, a constant, or a text to quote. -/
def Token.Vetted (decimal : Decimal → Prop) : Token → Prop
  | .symbol text => text ∈ symbolTexts
  | .functionName name => name ∈ functionTexts
  | .raw text => text ∈ rawTexts ∨ ∃ d, decimal d ∧ text = d.text
  | .keyword _ | .concat | .space => True
  | .int _ | .float _ | .bool _ | .null => True
  | .ident _ | .string _ => True

/-- Every token is vetted. -/
def AllVetted (decimal : Decimal → Prop) (ts : List Token) : Prop := ∀ t ∈ ts, t.Vetted decimal

section Arrangements

variable {decimal : Decimal → Prop} {ts us : List Token} {items : List (List Token)}

@[simp] theorem allVetted_nil : AllVetted decimal [] := fun _ h => absurd h List.not_mem_nil

@[simp] theorem allVetted_cons {t : Token} :
    AllVetted decimal (t :: ts) ↔ t.Vetted decimal ∧ AllVetted decimal ts :=
  List.forall_mem_cons

@[simp] theorem allVetted_append :
    AllVetted decimal (ts ++ us) ↔ AllVetted decimal ts ∧ AllVetted decimal us :=
  List.forall_mem_append

theorem AllVetted.separated {separator : List Token} (hs : AllVetted decimal separator)
    (h : ∀ item ∈ items, AllVetted decimal item) :
    AllVetted decimal (Token.separated separator items) := by
  fun_induction Token.separated separator items with
  | case1 => exact allVetted_nil
  | case2 item => exact h item List.mem_cons_self
  | case3 item rest _ ih =>
    rw [List.forall_mem_cons] at h
    exact allVetted_append.2 ⟨allVetted_append.2 ⟨h.1, hs⟩, ih h.2⟩

theorem AllVetted.commaSeparated (h : ∀ item ∈ items, AllVetted decimal item) :
    AllVetted decimal (Token.commaSeparated items) := by
  refine .separated ?_ h
  simp [Token.comma, Token.Vetted, symbolTexts]

theorem AllVetted.parenthesized (h : AllVetted decimal ts) :
    AllVetted decimal (Token.parenthesized ts) := by
  simp [Token.parenthesized, Token.leftParen, Token.rightParen, Token.Vetted, symbolTexts, h]

theorem AllVetted.spaced {t : Token} (h : t.Vetted decimal) :
    AllVetted decimal (Token.spaced t) :=
  allVetted_cons.2 ⟨trivial, allVetted_cons.2 ⟨h, allVetted_cons.2 ⟨trivial, allVetted_nil⟩⟩⟩

theorem AllVetted.infixed {t : Token} (hts : AllVetted decimal ts) (ht : t.Vetted decimal)
    (hus : AllVetted decimal us) : AllVetted decimal (Token.infixed ts t us) :=
  allVetted_append.2 ⟨allVetted_append.2 ⟨hts, .spaced ht⟩, hus⟩

theorem AllVetted.keywords (ks : List Keyword) : AllVetted decimal (Token.keywords ks) := by
  refine .separated (by simp [Token.Vetted]) fun item hitem => ?_
  obtain ⟨k, -, rfl⟩ := List.mem_map.1 hitem
  simp [Token.Vetted]

theorem AllVetted.call {name : String} (hname : name ∈ functionTexts)
    (h : ∀ item ∈ items, AllVetted decimal item) : AllVetted decimal (Token.call name items) := by
  have hargs := AllVetted.commaSeparated h
  simp [Token.call, Token.leftParen, Token.rightParen, Token.Vetted, symbolTexts, hname, hargs]

theorem AllVetted.flatten (h : ∀ item ∈ items, AllVetted decimal item) :
    AllVetted decimal items.flatten := by
  intro t ht
  obtain ⟨item, hitem, ht⟩ := List.mem_flatten.1 ht
  exact h item hitem t ht

theorem AllVetted.path (path : String) : AllVetted decimal (pathTokens path) := by
  refine .separated (by simp [Token.Vetted, symbolTexts]) fun item hitem => ?_
  obtain ⟨s, -, rfl⟩ := List.mem_map.1 hitem
  simp [Token.Vetted]

end Arrangements

/-! ### Expressions -/

/-- The words that a dialect chooses are fixed, and it knows no foreign operators. -/
structure Dialect.IsFixed (d : Dialect) : Prop where
  lengthFunction : d.lengthFunction ∈ functionTexts
  substringFunction : d.substringFunction ∈ functionTexts
  locateFunction : d.locateFunction ∈ functionTexts
  unboundedLimit : ∀ text ∈ d.unboundedLimit, text ∈ rawTexts
  customFunction? : ∀ name, d.customFunction? name = none
  boolText : ∀ b, d.boolText b ∈ constantTexts
  nullText : d.nullText ∈ constantTexts
  concatOperator : d.concatOperator ∈ constantTexts

theorem DialectName.isFixed (n : DialectName) : n.dialect.IsFixed := by
  cases n <;> exact ⟨by decide, by decide, by decide, by decide, fun _ => rfl,
    by decide, by decide, by decide⟩

section Expressions

variable {d : Dialect} {decimal : Decimal → Prop} {ts : List Token}

theorem literalToken_vetted {value : Literal} (h : ∀ v, value = .decimal v → decimal v) :
    Gives (Token.Vetted decimal) (literalToken value) := by
  have hfinite : ∀ f, Gives (Token.Vetted decimal) (finiteToken f) := by
    intro f
    unfold finiteToken
    split
    · exact .ok trivial
    · exact .error _ _
  cases value with
  | decimal v => exact .ok (.inr ⟨v, h v rfl, rfl⟩)
  | single f => exact hfinite _
  | double f => exact hfinite _
  | null | bool | int | long | string | guid | dateTime | time | binary => exact .ok trivial

theorem comparisonToken_vetted (op : ComparisonOp) : (comparisonToken op).Vetted decimal := by
  cases op <;> simp [comparisonToken, Token.Vetted, symbolTexts]

theorem arithmeticToken_vetted (op : ArithmeticOp) : (arithmeticToken op).Vetted decimal := by
  cases op <;> simp [arithmeticToken, Token.Vetted, symbolTexts]

theorem AllVetted.grouped {e : Expr} (h : AllVetted decimal ts) :
    AllVetted decimal (grouped e ts) := by
  unfold Sql.grouped
  split
  · exact h.parenthesized
  · exact h

theorem AllVetted.oneBased {start : Expr} (h : AllVetted decimal ts) :
    AllVetted decimal (oneBased start ts) := by
  unfold Sql.oneBased
  split
  · simp [Token.Vetted]
  · simp [Token.Vetted]
  · exact .parenthesized (h.infixed (by simp [Token.Vetted, symbolTexts]) (by simp [Token.Vetted]))

theorem AllVetted.minusOne (h : AllVetted decimal ts) : AllVetted decimal (minusOne ts) :=
  .parenthesized (h.infixed (by simp [Token.Vetted, symbolTexts]) (by simp [Token.Vetted]))

theorem datePartName_mem (f : Func) :
    datePartName f ∈ functionTexts ∧ datePartName f ∈ rawTexts := by
  cases f <;> decide

theorem datePartTokens_vetted (form : DatePartForm) (f : Func) (h : AllVetted decimal ts) :
    AllVetted decimal (datePartTokens form f ts) := by
  obtain ⟨hname, hraw⟩ := datePartName_mem f
  cases form with
  | function => exact .call hname (by simpa using h)
  | extract =>
    simp [datePartTokens, Token.leftParen, Token.rightParen, Token.spaced, Token.Vetted,
      symbolTexts, functionTexts, hraw, h]
  | formatted =>
    simp [datePartTokens, Token.leftParen, Token.rightParen, Token.comma, Token.spaced,
      Token.Vetted, symbolTexts, functionTexts, rawTexts, h]

theorem callTokens_vetted (hd : d.IsFixed) (f : Func) {args : List (List Token)}
    (h : ∀ ts ∈ args, AllVetted decimal ts) : AllVetted decimal (callTokens d f args) := by
  cases f with
  | year | month | day | hour | minute | second =>
    exact datePartTokens_vetted _ _ (.flatten h)
  | length => exact .call hd.lengthFunction h
  | substr => exact .call hd.substringFunction h
  | indexOf => exact .call hd.locateFunction h
  | concat =>
    unfold callTokens
    simp only
    split
    · exact .parenthesized (.separated (.spaced trivial) h)
    · exact .call (by decide) h
  | count =>
    unfold callTokens
    simp only
    split
    · exact .call (by decide) (by simp [Token.Vetted, symbolTexts])
    · exact .call (by decide) h
  | toLower | toUpper | trim | round | ceil | floor | min | max | sum | avg =>
    exact .call (by decide) h

theorem textFunctionTokens_vetted (p : TextPattern) (h : AllVetted decimal ts) :
    AllVetted decimal (textFunctionTokens ts p) := by
  have hlocated : ∀ s, AllVetted decimal (textFunctionTokens.located ts s) := fun s =>
    .infixed (.call (by decide) (by simp [Token.Vetted, h])) (by simp [Token.Vetted, symbolTexts])
      (by simp [Token.Vetted])
  cases p with
  | startsWith s =>
    unfold textFunctionTokens
    simp only
    split
    · exact hlocated s
    · exact .infixed (.call (by decide) (by simp [Token.Vetted, h]))
        (by simp [Token.Vetted, symbolTexts]) (by simp [Token.Vetted])
  | endsWith s =>
    unfold textFunctionTokens
    simp only
    split
    · exact hlocated s
    · exact .infixed (.call (by decide) (by simp [Token.Vetted, h]))
        (by simp [Token.Vetted, symbolTexts]) (by simp [Token.Vetted])
  | contains s => exact hlocated s

theorem regexTokens_vetted (form : RegexForm) (regex : String) (options : Option String)
    (h : AllVetted decimal ts) : AllVetted decimal (regexTokens form ts regex options) := by
  have hinfixed : ∀ {t : Token} (s : String), t.Vetted decimal →
      AllVetted decimal (Token.infixed ts t [.string s]) := fun s ht =>
    h.infixed ht (by simp [Token.Vetted])
  cases form with
  | function =>
    refine .call (by decide) fun item hitem => ?_
    simp only [List.mem_append, List.mem_cons, List.not_mem_nil, or_false] at hitem
    rcases hitem with (rfl | rfl) | hitem
    · exact h
    · simp [Token.Vetted]
    · split at hitem
      · cases hitem
      · obtain rfl := List.mem_singleton.1 hitem
        simp [Token.Vetted]
  | operator =>
    refine hinfixed regex ?_
    split <;> simp [Token.Vetted, symbolTexts]
  | textFunctions =>
    have hgeneral : ∀ s, AllVetted decimal (Token.infixed ts (.symbol "REGEXP") [.string s]) :=
      fun s => hinfixed s (by simp [Token.Vetted, symbolTexts])
    unfold regexTokens
    simp only
    split
    · exact hgeneral _
    · split
      · exact textFunctionTokens_vetted _ h
      · split
        · exact hinfixed _ trivial
        · exact hgeneral _

theorem renderList_vetted {args : List Expr}
    (h : ∀ a ∈ args, Gives (AllVetted decimal) (d.render a)) :
    Gives (fun parts => ∀ ts ∈ parts, AllVetted decimal ts) (d.renderList args) := by
  rw [Dialect.renderList_eq_mapM]
  exact .mapM h

theorem renderOperands_vetted {args : List Expr}
    (h : ∀ a ∈ args, Gives (AllVetted decimal) (d.render a)) :
    Gives (fun parts => ∀ ts ∈ parts, AllVetted decimal ts) (d.renderOperands args) := by
  rw [Dialect.renderOperands_eq_mapM]
  exact .mapM fun a ha => (h a ha).map fun ts hts => hts.grouped

theorem branchTokens_vetted {us : List Token} (hts : AllVetted decimal ts)
    (hus : AllVetted decimal us) : AllVetted decimal (branchTokens ts us) := by
  have hwords : ∀ k, AllVetted decimal (Token.spaced (.keyword k)) := fun _ => .spaced trivial
  simp [branchTokens, hwords, hts, hus]

theorem caseTokens_vetted {us : List Token} (hts : AllVetted decimal ts)
    (hus : AllVetted decimal us) : AllVetted decimal (caseTokens ts us) := by
  simp [caseTokens, Token.Vetted, hts, hus]

theorem renderBranches_vetted {branches : List (Expr × Expr)}
    (hc : ∀ b ∈ branches, Gives (AllVetted decimal) (d.render b.1))
    (hv : ∀ b ∈ branches, Gives (AllVetted decimal) (d.render b.2)) :
    Gives (AllVetted decimal) (d.renderBranches branches) := by
  induction branches with
  | nil =>
    rw [Dialect.renderBranches]
    exact .ok allVetted_nil
  | cons b rest ih =>
    rw [List.forall_mem_cons] at hc hv
    rw [Dialect.renderBranches]
    refine .bind hc.1 fun ts hts => .bind hv.1 fun us hus => .bind (ih hc.2 hv.2) fun vs hvs => ?_
    exact .ok (allVetted_append.2 ⟨branchTokens_vetted hts hus, hvs⟩)

theorem renderDefault_vetted {default : Option Expr}
    (h : ∀ e ∈ default, Gives (AllVetted decimal) (d.render e)) :
    Gives (AllVetted decimal) (d.renderDefault default) := by
  cases default with
  | none =>
    rw [Dialect.renderDefault]
    exact .ok allVetted_nil
  | some e =>
    rw [Dialect.renderDefault]
    exact .bind (h e rfl) fun ts hts => .ok (allVetted_append.2 ⟨.spaced trivial, hts⟩)

theorem render_compare_vetted {left right : Expr} (op : ComparisonOp)
    (hleft : Gives (AllVetted decimal) (d.render left))
    (hright : Gives (AllVetted decimal) (d.render right)) :
    Gives (AllVetted decimal) (d.render (.compare op left right)) := by
  have hnull : AllVetted decimal (Token.spaced (.keyword .is) ++ [.null]) :=
    allVetted_append.2 ⟨.spaced trivial, by simp [Token.Vetted]⟩
  rw [Dialect.render]
  split
  · refine .bind hleft fun ts hts => .ok ?_
    rw [List.append_assoc]
    exact allVetted_append.2 ⟨hts, hnull⟩
  · split
    · refine .bind hleft fun ts hts => .ok ?_
      rw [List.append_assoc, List.append_assoc]
      exact allVetted_append.2 ⟨by simp [Token.Vetted], allVetted_append.2 ⟨hts, hnull⟩⟩
    · refine .bind hleft fun ts hts => .bind hright fun us hus => .ok ?_
      exact .infixed hts (comparisonToken_vetted op) hus

theorem render_call_vetted (hd : d.IsFixed) {args : List Expr} (f : Func)
    (h : ∀ a ∈ args, Gives (AllVetted decimal) (d.render a)) :
    Gives (AllVetted decimal) (d.render (.call f args)) := by
  have hpair : ∀ {ts us}, AllVetted decimal ts → AllVetted decimal us →
      AllVetted decimal (minusOne (callTokens d .indexOf [ts, us])) := fun hts hus =>
    .minusOne (callTokens_vetted hd _ (by simp [hts, hus]))
  rw [Dialect.render.eq_def]
  split
  any_goals contradiction
  · rename_i input start rest heq
    cases heq
    simp only [List.forall_mem_cons] at h
    obtain ⟨hinput, hstart, hrest⟩ := h
    split
    · exact .error _ _
    · split
      · refine .bind hinput fun ts hts => .bind hstart fun us hus =>
          .bind (renderList_vetted hrest) fun parts hparts => .ok (callTokens_vetted hd _ ?_)
        exact List.forall_mem_cons.2 ⟨hts, List.forall_mem_cons.2 ⟨hus.oneBased, hparts⟩⟩
      · exact .error _ _
  · rename_i haystack needle heq
    cases heq
    simp only [List.forall_mem_cons] at h
    obtain ⟨hhaystack, hneedle, -⟩ := h
    split
    · exact .bind hneedle fun ts hts => .bind hhaystack fun us hus => .ok (hpair hts hus)
    · exact .bind hhaystack fun ts hts => .bind hneedle fun us hus => .ok (hpair hts hus)
  · rename_i func args' _ _ heq
    cases heq
    split
    · exact .bind (renderList_vetted h) fun parts hparts => .ok (callTokens_vetted hd _ hparts)
    · exact .error _ _

/-- The tokens of an expression are vetted, its own decimals being the only ones. -/
theorem render_vetted (hd : d.IsFixed) {e : Expr} (h : ∀ v, e.HasDecimal v → decimal v) :
    Gives (AllVetted decimal) (d.render e) := by
  induction e using Expr.induction with
  | field path =>
    rw [Dialect.render]
    exact .ok (.path path)
  | literal value =>
    rw [Dialect.render]
    refine (literalToken_vetted fun v hv => h v ?_).map fun t ht => by simpa using ht
    subst hv
    exact .self
  | compare op left right ihl ihr =>
    exact render_compare_vetted op (ihl (Expr.forall_decimal_subtree h (by simp [Expr.subtrees])))
      (ihr (Expr.forall_decimal_subtree h (by simp [Expr.subtrees])))
  | logical op args ih =>
    have hargs := fun a ha => ih a ha (Expr.forall_decimal_subtree h ha)
    rw [Dialect.render]
    refine .bind (renderOperands_vetted hargs) fun parts hparts => .ok (.separated ?_ hparts)
    cases op <;> exact .spaced trivial
  | not arg ih =>
    rw [Dialect.render]
    refine .bind (ih (Expr.forall_decimal_subtree h (by simp [Expr.subtrees]))) fun ts hts => .ok ?_
    simp [Token.Vetted, hts.grouped]
  | arithmetic op left right ihl ihr =>
    rw [Dialect.render]
    refine .bind (ihl (Expr.forall_decimal_subtree h (by simp [Expr.subtrees]))) fun ts hts =>
      .bind (ihr (Expr.forall_decimal_subtree h (by simp [Expr.subtrees]))) fun us hus => .ok ?_
    exact .parenthesized (hts.infixed (arithmeticToken_vetted op) hus)
  | call func args ih =>
    exact render_call_vetted hd func fun a ha => ih a ha (Expr.forall_decimal_subtree h ha)
  | regexMatch input regex options ih =>
    rw [Dialect.render]
    refine .bind (ih (Expr.forall_decimal_subtree h (by simp [Expr.subtrees]))) fun ts hts => .ok ?_
    exact regexTokens_vetted _ _ _ hts
  | cond condition yes no ihc ihy ihn =>
    rw [Dialect.render]
    refine .bind (ihc (Expr.forall_decimal_subtree h (by simp [Expr.subtrees]))) fun ts hts =>
      .bind (ihy (Expr.forall_decimal_subtree h (by simp [Expr.subtrees]))) fun us hus =>
      .bind (ihn (Expr.forall_decimal_subtree h (by simp [Expr.subtrees]))) fun vs hvs => .ok ?_
    exact caseTokens_vetted (branchTokens_vetted hts hus)
      (allVetted_append.2 ⟨.spaced trivial, hvs⟩)
  | switch branches default ihc ihv ihd =>
    have hdefault : ∀ e ∈ default, Gives (AllVetted decimal) (d.render e) := fun e he =>
      ihd e he (Expr.forall_decimal_subtree h
        (List.mem_append_right _ (Option.mem_toList.2 he)))
    rw [Dialect.render.eq_def]
    simp only
    split
    · cases default with
      | none => exact .error _ _
      | some e => exact hdefault e rfl
    · have hbranches : Gives (AllVetted decimal) (d.renderBranches branches) :=
        renderBranches_vetted
          (fun b hb => ihc b hb (Expr.forall_decimal_subtree h
            (List.mem_append_left _ (List.mem_append_left _ (List.mem_map_of_mem hb)))))
          (fun b hb => ihv b hb (Expr.forall_decimal_subtree h
            (List.mem_append_left _ (List.mem_append_right _ (List.mem_map_of_mem hb)))))
      exact .bind hbranches fun ts hts => .bind (renderDefault_vetted hdefault) fun us hus =>
        .ok (caseTokens_vetted hts hus)
  | custom name args ih =>
    rw [Dialect.render, hd.customFunction?]
    exact .error _ _

end Expressions

end Sql

end Polyquery
