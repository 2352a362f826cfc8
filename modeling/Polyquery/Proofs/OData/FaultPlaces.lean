import Polyquery.OData.Expand
import Polyquery.Proofs.OData.FailingCalls
import Polyquery.Proofs.OData.Places

/-!
# Where syntax faults point

Every reader of query options that meets no listeners points its syntax faults into the text that it
was given, also where the fault is inside an expansion, whose options are read by themselves.

* `FaultsIn` - a computation points into the text, if it fails with a syntax fault;
* `Points` - a parser points into the text, and leaves tokens that stand in it;
* `productions_point` - so does every production, by induction on the bound on the nesting of calls;
* `nodeOptions_points` - a fault in the value of an option is moved to where the value stands;
* `expansions_point` - so it is at every depth of expansions, by induction on the levels;
* `syntaxFault_placed` - the place of a fault in the text, and what stands there.
-/

namespace Polyquery.OData

/-- A computation that fails with a syntax fault points into a text. -/
abbrev FaultsIn (text : List Char) {α : Type} (x : QueryResult α) : Prop :=
  Settles (fun _ => True) (QueryError.PointsInto text) x

/-- A parser points into a text, if it fails, and leaves tokens that stand in it, if it succeeds. -/
def Points (text : List Char) {α : Type} (p : Parser α) : Prop :=
  ∀ ts, StandsIn text ts →
    Settles (fun r => StandsIn text r.2) (QueryError.PointsInto text) (p ts)

section Text

variable {text : List Char} {ctx : Context} {ts ts' : List Token}

/-! ### Tokens in front -/

/-- What is left if the token in front is taken, on whatever condition. -/
theorem suffix_of_taken {p : Token → Prop} [DecidablePred p]
    (h : (match ts with | t :: rest => if p t then some rest else none | [] => none) = some ts') :
    ts' <:+ ts := by
  cases ts with
  | nil => cases h
  | cons t rest =>
    obtain ⟨-, hrest⟩ := Option.ite_none_right_eq_some.1 h
    cases hrest
    exact List.suffix_cons t _

theorem eat?_suffix {kind : TokenKind} (h : eat? kind ts = some ts') : ts' <:+ ts :=
  suffix_of_taken (p := (·.kind = kind)) h

theorem eatKeyword?_suffix {keyword : String} (h : eatKeyword? keyword ts = some ts') :
    ts' <:+ ts :=
  suffix_of_taken (p := (·.isKeyword keyword)) h

theorem operator?_suffix {α : Type} {ofWord : String → Option α} {op : α}
    (h : operator? ofWord ts = some (op, ts')) : ts' <:+ ts := by
  cases ts with
  | nil => cases h
  | cons t rest =>
    obtain ⟨op, -, hop⟩ := Option.map_eq_some_iff.1 h
    cases hop
    exact List.suffix_cons t _

theorem StandsIn.suffix (hts : StandsIn text ts) (h : ts' <:+ ts) : StandsIn text ts' := by
  obtain ⟨front, rfl⟩ := h
  exact hts.back

theorem StandsIn.eat (hts : StandsIn text ts) {kind : TokenKind} (h : eat? kind ts = some ts') :
    StandsIn text ts' :=
  hts.suffix (eat?_suffix h)

theorem StandsIn.eatKeyword (hts : StandsIn text ts) {keyword : String}
    (h : eatKeyword? keyword ts = some ts') : StandsIn text ts' :=
  hts.suffix (eatKeyword?_suffix h)

theorem StandsIn.operator (hts : StandsIn text ts) {α : Type} {ofWord : String → Option α} {op : α}
    (h : operator? ofWord ts = some (op, ts')) : StandsIn text ts' :=
  hts.suffix (operator?_suffix h)

section Cursor

variable (hstop : ctx.stop = Text.byteLength text)

include hstop

theorem currentSpan_marks (hts : StandsIn text ts) :
    ∃ marked, (ctx.currentSpan ts).Marks text marked := by
  cases ts with
  | nil => exact ⟨[], text, [], by simp, by rw [Context.currentSpan, hstop]; rfl⟩
  | cons t rest => exact ⟨t.text, hts.marks⟩

/-- A fault that quotes nothing, at the current token. -/
theorem syntaxAt_pointsInto (hts : StandsIn text ts) {fault : SyntaxFault}
    (h : ∀ marked, fault.Quotes marked) :
    (QueryError.syntaxAt fault (ctx.currentSpan ts)).PointsInto text := by
  obtain ⟨marked, hmarks⟩ := currentSpan_marks hstop hts
  exact .of_syntaxError ⟨marked, hmarks, h marked⟩

theorem expectedOperand_pointsInto (hts : StandsIn text ts) :
    (ctx.expectedOperand ts).PointsInto text :=
  syntaxAt_pointsInto hstop hts fun _ => trivial

theorem unexpected_pointsInto (hts : StandsIn text ts) : (ctx.unexpected ts).PointsInto text := by
  cases ts with
  | nil => exact expectedOperand_pointsInto hstop hts
  | cons t rest => exact .of_syntaxError ⟨t.text, hts.marks, rfl⟩

theorem expect_points (hts : StandsIn text ts) (kind : TokenKind) :
    Settles (StandsIn text) (QueryError.PointsInto text) (ctx.expect kind ts) := by
  unfold Context.expect
  split
  · split
    · exact .ok hts.tail
    · exact .error (unexpected_pointsInto hstop hts)
  · exact .error (unexpected_pointsInto hstop hts)

/-- A name that is read can be quoted at the place where it stands. -/
theorem identifier_quotes (hts : StandsIn text ts) :
    Settles (fun r => StandsIn text r.2 ∧
        (QueryError.syntaxAt (.unexpectedToken r.1) (ctx.currentSpan ts)).PointsInto text)
      (QueryError.PointsInto text) (ctx.identifier ts) := by
  unfold Context.identifier
  split
  · rename_i t rest
    split
    · rename_i name hname
      have hkind : t.kind = .identifier name := by
        unfold Token.name? at hname
        split at hname
        · rename_i hkind
          rw [hkind, Option.some.inj hname]
        · cases hname
      exact .ok ⟨hts.tail, .of_syntaxError ⟨t.text, hts.marks, hts.name hkind⟩⟩
    · exact .error (.of_syntaxError ⟨_, hts.marks, trivial⟩)
  · exact .error (syntaxAt_pointsInto hstop hts fun _ => trivial)

theorem identifier_points : Points text ctx.identifier :=
  fun _ hts => (identifier_quotes hstop hts).imp fun _ hr => hr.1

theorem finish_points (hts : StandsIn text ts) : FaultsIn text (ctx.finish ts) := by
  unfold Context.finish
  split
  · exact .ok trivial
  · exact .error (unexpected_pointsInto hstop hts)

theorem pathSegments_point (segments : List String) (fuel : Nat) :
    Points text (pathSegments ctx segments fuel) := by
  induction fuel generalizing segments with
  | zero => exact fun ts hts => .ok hts
  | succ fuel ih =>
    intro ts hts
    rw [pathSegments]
    split
    · exact .ok hts
    · rename_i rest hrest
      exact .bind (identifier_points hstop rest (hts.eat hrest)) fun r hr => ih _ r.2 hr

end Cursor

/-! ### Calls -/

theorem expectArgs_points (e : MethodEvent) (least most : Nat) :
    FaultsIn text (e.expectArgs least most) := by
  unfold MethodEvent.expectArgs
  split
  · exact .ok trivial
  · exact .error (QueryError.pointsInto_unsupported _)

theorem twoWithText_points (e : MethodEvent) (make : Expr → String → Expr) :
    FaultsIn text (twoWithText e make) := by
  unfold twoWithText
  refine .bind (expectArgs_points e 2 2) fun _ _ => ?_
  split
  · refine .bind (P := fun _ => True) ?_ fun _ _ => .ok trivial
    unfold textArgument
    split
    · exact .ok trivial
    · exact .error fun fault hfault => by cases hfault
  · exact .ok trivial

/-- The built-in functions refuse a call without a syntax fault. -/
theorem builtin_points (e : MethodEvent) : FaultsIn text (builtin e) := by
  unfold builtin
  split
  · exact (expectArgs_points e _ _).map fun _ _ => trivial
  · split
    · refine .bind (expectArgs_points e 2 2) fun _ _ => ?_
      split
      · exact .ok trivial
      · exact .ok trivial
    · split
      · exact twoWithText_points e _
      · split
        · exact twoWithText_points e _
        · exact .ok trivial

theorem resolveMethod_points (e : MethodEvent) :
    FaultsIn text (Resolvers.empty.resolveMethod builtin e) := by
  unfold Resolvers.resolveMethod
  refine .bind (P := fun _ => True) (.ok trivial) fun e _ => ?_
  dsimp only
  split
  · refine .bind (builtin_points e) fun e _ => ?_
    split
    · exact .ok trivial
    · exact .error fun fault hfault => by cases hfault
  · refine .bind (P := fun _ => True) (.ok trivial) fun e _ => ?_
    split
    · exact .ok trivial
    · exact .error fun fault hfault => by cases hfault

/-! ### Expressions -/

/-- Every production of the grammar points into the text, with a bound on the nesting of calls. -/
structure ProductionsPoint (text : List Char) (ctx : Context) (fuel : Nat) : Prop where
  level : ∀ l : Level, Points text (l.reader ctx fuel)
  further : ∀ (c : Chain) (left : Expr), Points text (c.reader ctx fuel left)
  arguments : Points text (arguments ctx fuel)
  moreArguments : Points text (moreArguments ctx fuel)
  caseBranches : ∀ branches default, Points text (caseBranches ctx fuel branches default)

section Productions

variable (hstop : ctx.stop = Text.byteLength text) {fuel : Nat}

/-- One operand, or one and the others behind a connective. -/
theorem ProductionsPoint.joined (h : ProductionsPoint text ctx fuel) (k : LogicalOp) :
    Points text ((connectiveLevel k).reader ctx (fuel + 1)) := by
  intro ts hts
  rw [reader_connectiveLevel, OData.joined]
  refine .bind (h.level (operandLevel k) ts hts) fun left hleft => ?_
  dsimp only
  split
  · exact .ok hleft
  · rename_i rest hrest
    exact .bind (h.level (connectiveLevel k) rest (hleft.eatKeyword hrest)) fun right hright =>
      .ok hright

theorem ProductionsPoint.chain (h : ProductionsPoint text ctx fuel) (c : Chain) :
    Points text (c.level.reader ctx (fuel + 1)) := by
  intro ts hts
  rw [reader_chainLevel]
  exact .bind (h.level c.operand ts hts) fun left hleft => h.further c left.1 left.2 hleft

/-- The end of a chain, or an operand and those behind it. -/
theorem ProductionsPoint.chainRest (h : ProductionsPoint text ctx fuel) (c : Chain)
    (left : Expr) : Points text (c.reader ctx (fuel + 1) left) := by
  intro ts hts
  rw [Chain.reader_succ, OData.further]
  split
  · exact .ok hts
  · rename_i op rest hrest
    exact .bind (h.level c.operand rest (hts.operator hrest)) fun right hright =>
      h.further c _ right.2 hright

theorem ProductionsPoint.negation (h : ProductionsPoint text ctx fuel) :
    Points text (OData.notExpr ctx (fuel + 1)) := by
  intro ts hts
  rw [OData.notExpr]
  split
  · rename_i rest hrest
    exact .bind (h.level .negation rest (hts.eatKeyword hrest)) fun arg harg => .ok harg
  · exact h.level .comparison ts hts

theorem ProductionsPoint.compared (h : ProductionsPoint text ctx fuel) :
    Points text (OData.comparison ctx (fuel + 1)) := by
  intro ts hts
  rw [OData.comparison]
  refine .bind (h.level .sum ts hts) fun left hleft => ?_
  dsimp only
  split
  · exact .ok hleft
  · rename_i op rest hrest
    exact .bind (h.level .sum rest (hleft.operator hrest)) fun right hright => .ok hright

include hstop

theorem ProductionsPoint.operand (hempty : ctx.resolvers = .empty)
    (h : ProductionsPoint text ctx fuel) : Points text (OData.primary ctx (fuel + 1)) := by
  intro ts hts
  cases ts with
  | nil =>
    rw [OData.primary]
    exact .error (expectedOperand_pointsInto hstop hts)
    exact Nat.succ_ne_zero fuel
  | cons t rest =>
    rw [OData.primary]
    split
    · refine .bind (h.level .disjunction rest hts.tail) fun inner hinner => ?_
      exact .bind (expect_points hstop hinner .rightParen) fun _ hrest => .ok hrest
    · exact .ok hts.tail
    · split
      · exact .error (expectedOperand_pointsInto hstop hts)
      · split
        · rename_i ts' hparen
          have hbehind := hts.tail.eat hparen
          split
          · exact h.caseBranches [] none ts' hbehind
          · refine .bind (h.arguments ts' hbehind) fun args hargs => ?_
            rw [hempty]
            exact .bind (resolveMethod_points _) fun _ _ => .ok hargs
        · exact .bind (pathSegments_point hstop _ _ rest hts.tail) fun segments hrest => .ok hrest
    · exact .error (expectedOperand_pointsInto hstop hts)

theorem ProductionsPoint.furtherArguments (h : ProductionsPoint text ctx fuel) :
    Points text (OData.moreArguments ctx (fuel + 1)) := by
  intro ts hts
  rw [OData.moreArguments]
  refine .bind (h.level .disjunction ts hts) fun arg harg => ?_
  dsimp only
  split
  · rename_i rest hrest
    exact .bind (h.moreArguments rest (harg.eat hrest)) fun args hargs => .ok hargs
  · exact .bind (expect_points hstop harg .rightParen) fun _ hrest => .ok hrest

theorem ProductionsPoint.branches (h : ProductionsPoint text ctx fuel)
    (branches : List (Expr × Expr)) (default : Option Expr) :
    Points text (OData.caseBranches ctx (fuel + 1) branches default) := by
  intro ts hts
  rw [OData.caseBranches]
  split
  · exact .error (unexpected_pointsInto hstop hts)
  · refine .bind (h.level .disjunction ts hts) fun condition hcondition => ?_
    refine .bind (expect_points hstop hcondition .colon) fun ts₁ hts₁ => ?_
    refine .bind (h.level .disjunction ts₁ hts₁) fun value hvalue => ?_
    dsimp only
    split
    · rename_i rest hrest
      exact h.caseBranches _ _ rest (hvalue.eat hrest)
    · exact .bind (expect_points hstop hvalue .rightParen) fun _ hrest => .ok hrest

/-- Every production points into the text. -/
theorem productions_point (hempty : ctx.resolvers = .empty) (fuel : Nat) :
    ProductionsPoint text ctx fuel := by
  induction fuel with
  | zero =>
    have hnone : ∀ ts, StandsIn text ts → Settles (fun r : Expr × List Token => StandsIn text r.2)
        (QueryError.PointsInto text) (.error (ctx.expectedOperand ts)) :=
      fun ts hts => .error (expectedOperand_pointsInto hstop hts)
    have hnoList : ∀ ts, StandsIn text ts →
        Settles (fun r : List Expr × List Token => StandsIn text r.2)
          (QueryError.PointsInto text) (.error (ctx.expectedOperand ts)) :=
      fun ts hts => .error (expectedOperand_pointsInto hstop hts)
    exact ⟨fun l => by cases l <;> exact hnone, fun c _ => by cases c <;> exact hnone, hnoList,
      hnoList, fun _ _ => hnone⟩
  | succ fuel ih =>
    refine ⟨fun l => ?_, ih.chainRest, ?_, ih.furtherArguments hstop, ih.branches hstop⟩
    · cases l with
      | disjunction => exact ih.joined .or
      | conjunction => exact ih.joined .and
      | negation => exact ih.negation
      | comparison => exact ih.compared
      | sum => exact ih.chain .sum
      | product => exact ih.chain .product
      | primary => exact ih.operand hstop hempty
    · intro ts hts
      rw [arguments]
      split
      · rename_i rest hrest
        exact .ok (hts.eat hrest)
      · exact ih.moreArguments ts hts

theorem expression_points (hempty : ctx.resolvers = .empty) : Points text (expression ctx) :=
  fun ts hts => (productions_point hstop hempty (depthBound ts)).level .disjunction ts hts

end Productions

/-! ### Lists and whole texts -/

theorem moreItems_point {α : Type} {item : Parser α} (h : Points text item) (fuel : Nat) :
    Points text (moreItems item fuel) := by
  induction fuel with
  | zero => exact fun ts hts => .ok hts
  | succ fuel ih =>
    intro ts hts
    rw [moreItems]
    split
    · exact .ok hts
    · rename_i rest hrest
      exact .bind (h rest (hts.eat hrest)) fun first hfirst =>
        .bind (ih first.2 hfirst) fun others hothers => .ok hothers

theorem commaSeparated_points {α : Type} {item : Parser α} (h : Points text item) :
    Points text (commaSeparated item) := by
  intro ts hts
  exact .bind (h ts hts) fun first hfirst =>
    .bind (moreItems_point h _ first.2 hfirst) fun others hothers => .ok hothers

/-- Reading a whole text points into it. -/
theorem parseText_points {α : Type} {item : Context → Parser α}
    (h : Points text (item ⟨.empty, Text.byteLength text⟩)) :
    FaultsIn text (parseText .empty item text) := by
  have htokens : Settles (StandsIn text) (QueryError.PointsInto text)
      ((tokenize text).mapError .syntaxError) := by
    cases hscan : tokenize text with
    | ok ts => exact .ok ⟨[], text, rfl, scan_stands hscan⟩
    | error e => exact .error (.of_syntaxError (@scan_pointsInto [] text e hscan))
  refine .bind htokens fun ts hts => .bind (h ts hts) fun r hr => ?_
  exact .bind (finish_points rfl hr) fun _ _ => .ok trivial

theorem selectEntry_points (hstop : ctx.stop = Text.byteLength text)
    (hempty : ctx.resolvers = .empty) : Points text (selectEntry ctx) := by
  intro ts hts
  unfold selectEntry
  split
  · rename_i rest hrest
    exact .ok (hts.eat hrest)
  · refine .bind (expression_points hstop hempty ts hts) fun expr hexpr => ?_
    dsimp only
    split
    · exact .ok hexpr
    · rename_i rest hrest
      have hname := identifier_points hstop rest (hexpr.eatKeyword hrest)
      exact .bind hname fun name hbehind => .ok hbehind

theorem orderEntry_points (hstop : ctx.stop = Text.byteLength text)
    (hempty : ctx.resolvers = .empty) : Points text (orderEntry ctx) := by
  intro ts hts
  refine .bind (expression_points hstop hempty ts hts) fun expr hexpr => ?_
  dsimp only
  split
  · rename_i rest hrest
    exact .ok (hexpr.eatKeyword hrest)
  · refine .ok ?_
    cases hasc : eatKeyword? "asc" expr.2 with
    | none => exact hexpr
    | some rest => exact hexpr.eatKeyword hasc

theorem parseFilter_points (text : List Char) : FaultsIn text (parseFilter .empty text) :=
  parseText_points (expression_points rfl rfl)

theorem parseOrder_points (text : List Char) : FaultsIn text (parseOrder .empty text) :=
  parseText_points (commaSeparated_points (orderEntry_points rfl rfl))

theorem parseGroup_points (text : List Char) : FaultsIn text (parseGroup .empty text) :=
  parseText_points (commaSeparated_points (expression_points rfl rfl))

theorem parseSelect_points (text : List Char) : FaultsIn text (parseSelect .empty text) :=
  (parseText_points (commaSeparated_points (selectEntry_points rfl rfl))).map fun _ _ => trivial

end Text

/-! ### Values of options -/

/-- A value that is refused as a whole. -/
theorem badValue_pointsInto (text : List Char) : (badValue text).PointsInto text :=
  .of_syntaxError ⟨text, ⟨[], [], by simp, by simp⟩, rfl⟩

theorem numberValue_points (text : List Char) : FaultsIn text (numberValue text) := by
  unfold numberValue
  split
  · exact .ok trivial
  · exact .error (badValue_pointsInto text)

theorem flagValue_points (text : List Char) : FaultsIn text (flagValue text) := by
  unfold flagValue
  split
  · exact .ok trivial
  · exact .ok trivial
  · exact .error (badValue_pointsInto text)

theorem levelsValue_points (text : List Char) : FaultsIn text (levelsValue text) := by
  unfold levelsValue
  dsimp only
  split
  · exact .ok trivial
  · split
    · exact .ok trivial
    · exact .error (badValue_pointsInto text)

namespace Node

theorem place_points {text : List Char} {like : Node → Bool} {change : Node → QueryResult Node}
    {new : Node} (h : ∀ sibling, FaultsIn text (change sibling)) (siblings : List Node) :
    FaultsIn text (place like change new siblings) := by
  induction siblings with
  | nil => exact .ok trivial
  | cons first rest ih =>
    rw [place]
    split
    · exact (h first).map fun _ _ => trivial
    · exact ih.map fun _ _ => trivial

theorem mergeAll_points {text : List Char} {children : List Node}
    (h : ∀ child ∈ children, ∀ ours, FaultsIn text (merge ours child)) (n : Node) :
    FaultsIn text (n.mergeAll children) := by
  induction children generalizing n with
  | nil =>
    rw [mergeAll]
    exact .ok trivial
  | cons child rest ih =>
    rw [List.forall_mem_cons] at h
    rw [mergeAll_cons]
    exact .bind (place_points h.1 n.expand) fun siblings _ => ih h.2 _

/-- A conflict between expansions is no syntax fault. -/
theorem merge_points (text : List Char) (theirs ours : Node) :
    FaultsIn text (merge ours theirs) := by
  induction theirs using Node.induction generalizing ours with
  | mk query expand levels count ih =>
    rw [merge]
    split
    · exact .error (QueryError.pointsInto_unsupported _)
    · exact .bind (mergeAll_points ih ours) fun _ _ => .ok trivial

theorem expandAll_points {text : List Char} {children : List Node} {n m : Node} {e : QueryError}
    (h : n.expandAll children = (m, .error e)) : e.PointsInto text := by
  obtain ⟨done, child, rest, -, -, hchild⟩ := expandAll_eq_error.1 h
  have hmerge : ∀ c ∈ [child], ∀ ours, FaultsIn text (merge ours c) :=
    fun c _ ours => merge_points text c ours
  exact (mergeAll_points hmerge m).2 e hchild

theorem changed_points {α : Type} {text : List Char} {n m : Node} {x : QueryResult α}
    {f : α → Node} {e : QueryError} (h : FaultsIn text x)
    (hset : n.changed (x.map f) = (m, .error e)) : e.PointsInto text := by
  cases x with
  | ok a => cases hset
  | error e' =>
    cases hset
    exact h.2 e rfl

/-- The value of an option is pointed into where it is refused. -/
theorem setOption_points {text : List Char} {expansions : List Char → QueryResult (List Node)}
    (hexpand : FaultsIn text (expansions text)) {n m : Node} {name : OptionName} {e : QueryError}
    (h : n.setOption .empty expansions name text = (m, .error e)) : e.PointsInto text := by
  cases name with
  | expand =>
    unfold setOption at h
    cases hread : expansions text with
    | ok children =>
      rw [hread] at h
      exact expandAll_points h
    | error e' =>
      rw [hread] at h
      cases h
      exact hexpand.2 e hread
  | filter => exact changed_points (parseFilter_points text) h
  | select => exact changed_points (parseSelect_points text) h
  | orderby => exact changed_points (parseOrder_points text) h
  | groupby => exact changed_points (parseGroup_points text) h
  | top | skip => exact changed_points (numberValue_points text) h
  | count => exact changed_points (flagValue_points text) h
  | levels => exact changed_points (levelsValue_points text) h

end Node

/-! ### Expansions -/

theorem valueTokens_append (depth : Nat) (ts : List Token) :
    (valueTokens depth ts).1 ++ (valueTokens depth ts).2 = ts := by
  fun_induction valueTokens depth ts <;> simp_all

section Expansions

variable {text : List Char} {ctx : Context} (hstop : ctx.stop = Text.byteLength text)

include hstop

/-- The span of a value is the place of some characters. -/
theorem optionValue_points {ts : List Token} (hts : StandsIn text ts) :
    Settles (fun r => StandsIn text r.2 ∧ ∃ value, r.1.Marks text value)
      (QueryError.PointsInto text) (optionValue ctx ts) := by
  have happend := valueTokens_append 0 ts
  unfold optionValue
  split
  · exact .error (expectedOperand_pointsInto hstop hts)
  · rename_i first more after hvalue
    rw [hvalue] at happend
    rw [← happend] at hts
    refine .ok ⟨hts.back, ?_⟩
    cases hlast : (first :: more).getLast? with
    | none => simp at hlast
    | some last => exact hts.front.between last hlast

variable {apply : Node → OptionName → List Char → Node × QueryResult Unit}
  (happly : ∀ {n m option value e}, apply n option value = (m, .error e) → e.PointsInto value)

include happly

/-- The options of an expansion.  A fault in a value, which is read by itself, is moved to where the
value stands. -/
theorem nodeOptions_points (fuel : Nat) (n : Node) :
    Points text (nodeOptions ctx text apply fuel n) := by
  induction fuel generalizing n with
  | zero => exact fun ts hts => .error (unexpected_pointsInto hstop hts)
  | succ fuel ih =>
    intro ts hts
    rw [nodeOptions]
    refine .bind (identifier_quotes hstop hts) fun name hname => ?_
    refine .bind (expect_points hstop hname.1 .equals) fun ts₁ hts₁ => ?_
    refine .bind (optionValue_points hstop hts₁) fun value hvalue => ?_
    obtain ⟨hbehind, chars, hmarks⟩ := hvalue
    dsimp only
    split
    · exact .error hname.2
    · split
      · rename_i m e hset
        rw [hmarks.slice] at hset
        have hinside := happly hset
        obtain ⟨before, after, hsplit, hspan⟩ := hmarks
        rw [hspan, hsplit]
        exact .error (hinside.shifted before after)
      · rename_i m hset
        split
        · rename_i rest hrest
          exact ih m rest (hbehind.eat hrest)
        · exact .bind (expect_points hstop hbehind .rightParen) fun _ hrest => .ok hrest

end Expansions

namespace Reader

variable {r : Reader} (hr : r.resolvers = .empty) {text : List Char}

include hr

theorem expandEntry_points {ctx : Context} (hstop : ctx.stop = Text.byteLength text)
    {deeper : Nat → List Char → QueryResult (List Node)}
    (h : ∀ parents inner, FaultsIn inner (deeper parents inner))
    (levels : Nat) : Points text (r.expandEntry ctx text levels deeper) := by
  intro ts hts
  have hpath : Settles (fun r => StandsIn text r.2) (QueryError.PointsInto text)
      (pathNames ctx ts) :=
    .bind (identifier_points hstop ts hts) fun name hname =>
      pathSegments_point hstop _ _ name.2 hname
  refine .bind hpath fun names hnames => ?_
  dsimp only
  split
  · exact .error (QueryError.pointsInto_unsupported _)
  · split
    · rename_i rest hrest
      rw [hr]
      refine .bind (nodeOptions_points hstop (fun hset => ?_) _ _ rest (hnames.eat hrest))
        fun leaf hleaf => .ok hleaf
      exact Node.setOption_points (h _ _) hset
    · exact .ok hnames

/-- The expansions of a text, at every depth. -/
theorem expansions_point (levels : Nat) (text : List Char) :
    FaultsIn text (r.expansions levels text) := by
  -- on the levels that are left, for every text: the values of options are texts of their own
  induction levels using Nat.strongRecOn generalizing text with
  | ind levels ih =>
  cases levels with
  | zero =>
    rw [expansions]
    exact .error (QueryError.pointsInto_unsupported _)
  | succ below =>
    rw [expansions, hr]
    refine parseText_points (commaSeparated_points ?_)
    exact expandEntry_points hr rfl (fun parents inner => ih (below - parents) (by omega) inner) _

theorem applyOption_points {n : Node} {name value : String} {e : SyntaxError}
    (h : (r.applyOption n name value).2 = .error (.syntaxError e)) :
    e.PointsInto value.toList := by
  unfold applyOption at h
  split at h
  · cases h
  · rename_i option _
    dsimp only at h
    cases hset : n.setOption r.resolvers r.parseExpand option value.toList with
    | mk m outcome =>
      rw [hset] at h
      cases outcome with
      | ok _ => cases h
      | error e' =>
        cases h
        rw [hr] at hset
        exact Node.setOption_points (expansions_point hr r.maxDepth _) hset e rfl

end Reader

/-! ### Every reader -/

/-- A reader without listeners refuses a text with a syntax fault. -/
inductive Refuses (text : List Char) (e : SyntaxError) : Prop where
  | filter : parseFilter .empty text = .error (.syntaxError e) → Refuses text e
  | select : parseSelect .empty text = .error (.syntaxError e) → Refuses text e
  | order : parseOrder .empty text = .error (.syntaxError e) → Refuses text e
  | group : parseGroup .empty text = .error (.syntaxError e) → Refuses text e
  | expand (maxDepth : Nat) :
      Reader.parseExpand ⟨.empty, maxDepth⟩ text = .error (.syntaxError e) → Refuses text e
  | option (maxDepth : Nat) (n : Node) (name value : String) : value.toList = text →
      (Reader.applyOption ⟨.empty, maxDepth⟩ n name value).2 = .error (.syntaxError e) →
      Refuses text e

theorem Refuses.pointsInto {text : List Char} {e : SyntaxError} (h : Refuses text e) :
    e.PointsInto text := by
  cases h with
  | filter h => exact (parseFilter_points text).2 _ h e rfl
  | select h => exact (parseSelect_points text).2 _ h e rfl
  | order h => exact (parseOrder_points text).2 _ h e rfl
  | group h => exact (parseGroup_points text).2 _ h e rfl
  | expand maxDepth h => exact (Reader.expansions_point rfl maxDepth text).2 _ h e rfl
  | option maxDepth n name value htext h =>
    subst htext
    exact Reader.applyOption_points rfl h

/-- Syntax faults point at the text they are about.  The place of a fault is a range of whole
characters of the text that was given to the reader, and what the fault quotes stands there. -/
theorem syntaxFault_placed (text : List Char) (e : SyntaxError) (h : Refuses text e) :
    e.span.start ≤ e.span.stop ∧ e.span.stop ≤ Text.byteLength text ∧
      Text.IsBoundary text e.span.start ∧ Text.IsBoundary text e.span.stop ∧
      (∀ t, e.fault = .unexpectedToken t ∨ e.fault = .invalidLiteral t →
        Text.slice e.span.start e.span.stop text = t.toList) ∧
      ∀ c, e.fault = .unknownCharacter c → Text.slice e.span.start e.span.stop text = [c] := by
  obtain ⟨marked, hmarks, hquotes⟩ := h.pointsInto
  have hslice := hmarks.slice
  obtain ⟨before, after, htext, hspan⟩ := hmarks
  rw [hslice]
  refine ⟨by simp [hspan], by simp [hspan, htext, ← Nat.add_assoc], ?_, ?_, ?_, ?_⟩
  · exact ⟨before, marked ++ after, htext, by rw [hspan]⟩
  · exact ⟨before ++ marked, after, by simp [htext], by simp [hspan]⟩
  · rintro t (hfault | hfault) <;>
    · rw [hfault] at hquotes
      have hquote : t = String.ofList marked := hquotes
      rw [hquote, String.toList_ofList]
  · intro c hfault
    rw [hfault] at hquotes
    exact hquotes

/-- An expansion in an expansion, with a token too many in its filter. -/
def nestedFault : List Char := "kö/b($expand=c( $filter= ü  5))".toList

theorem syntaxFault_placed_nestedFault :
    Refuses nestedFault ⟨.unexpectedToken "5", ⟨30, 31⟩⟩ ∧
      Text.slice 30 31 nestedFault = "5".toList := by
  have hread : (Reader.parseExpand ⟨.empty, 8⟩ nestedFault).map (fun _ => ())
      = .error (.syntaxError ⟨.unexpectedToken "5", ⟨30, 31⟩⟩) := by decide +kernel
  have hrefused : Refuses nestedFault ⟨.unexpectedToken "5", ⟨30, 31⟩⟩ := by
    refine .expand 8 ?_
    cases hx : Reader.parseExpand ⟨.empty, 8⟩ nestedFault with
    | ok ns =>
      rw [hx] at hread
      cases hread
    | error e =>
      rw [hx] at hread
      exact congrArg Except.error (Except.error.inj hread)
  exact ⟨hrefused, (syntaxFault_placed _ _ hrefused).2.2.2.2.1 "5" (.inl rfl)⟩

end Polyquery.OData
