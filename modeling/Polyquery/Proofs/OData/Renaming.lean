import Polyquery.Proofs.Expr.Fields
import Polyquery.Proofs.OData.FaultPlaces
import Polyquery.Proofs.OData.Precedence

/-!
# Listeners that rename fields

A chain whose method hooks do nothing acts on a filter by the paths of its fields only.  Two
readings of the same tokens, one with the chain and one without listeners, are compared production
by production.

* `Resolvers.renamePath` - the path that a chain gives to a path read without listeners;
* `Renames` - a parser reads what another one reads, renamed, and leaves the same tokens;
* `builtin_renamed`, `comparisonOf_mapFields` - nothing that is asked about a tree depends on names;
* `productions_rename` - every production renames, by induction on the bound on nested calls;
* `parseFilter_renamed` - so a filter is read with the chain as it is read without, renamed.
-/

namespace Polyquery

/-! ### Names -/

/-- The path that the chain gives to a path: a member by itself, or below all names in front of the
last dot. -/
def Resolvers.renamePath (rs : Resolvers) (path : String) : String :=
  let segments := Text.segments path
  let member := segments.getLast?.getD ""
  let qualifier := segments.dropLast
  if qualifier.isEmpty then rs.resolveMember member none
  else rs.resolveJoinMember (".".intercalate qualifier) member

/-- The method hooks of the chain do nothing. -/
def Resolvers.LeavesMethods (rs : Resolvers) : Prop := ∀ r ∈ rs.listeners, ∀ e, r.method e = .ok e

namespace Resolvers

variable (rs : Resolvers)

/-- A path of one segment is a member. -/
theorem renamePath_member {member : String} (h : '.' ∉ member.toList) :
    rs.renamePath member = rs.resolveMember member none := by
  have hsegments := Text.segments_intercalate (List.cons_ne_nil member [])
    (List.forall_mem_singleton.2 h)
  rw [String.intercalate_singleton] at hsegments
  rw [renamePath, hsegments]
  rfl

/-- A longer path is a member below a dotted name. -/
theorem renamePath_qualified {qualifier member : String} (h : '.' ∉ member.toList) :
    rs.renamePath (qualifier ++ "." ++ member) = rs.resolveJoinMember qualifier member := by
  have hne : (Text.segments qualifier).isEmpty = false := by
    simpa using Text.segments_ne_nil qualifier
  rw [renamePath, Text.segments_qualified h]
  simp [hne, Text.intercalate_segments]

/-- A call that the listeners leave alone is a matter of the built-in table. -/
theorem resolveMethod_of_leaves (h : rs.LeavesMethods)
    (table : MethodEvent → QueryResult MethodEvent) (event : MethodEvent) :
    rs.resolveMethod table event = Resolvers.empty.resolveMethod table event := by
  have hchain : ∀ listeners : List Resolver, (∀ r ∈ listeners, ∀ e, r.method e = .ok e) →
      listeners.foldlM (fun e r => r.method e) event = .ok event := by
    intro listeners hleaves
    induction listeners with
    | nil => rfl
    | cons r listeners ih =>
      rw [List.foldlM_cons, hleaves r List.mem_cons_self event]
      exact ih fun r hr => hleaves r (List.mem_cons_of_mem _ hr)
  rw [resolveMethod, hchain rs.listeners h]
  rfl

end Resolvers

namespace OData

/-! ### Tokens in front -/

/-- No identifier among the tokens has a dot. -/
def Undotted (ts : List Token) : Prop :=
  ∀ t ∈ ts, ∀ name ∈ t.name?, '.' ∉ name.toList

section Tokens

variable {ts ts' : List Token}

theorem Undotted.suffix (h : Undotted ts) (hts : ts' <:+ ts) : Undotted ts' :=
  fun t ht => h t (hts.subset ht)

theorem Undotted.tail {t : Token} (h : Undotted (t :: ts)) : Undotted ts :=
  h.suffix (List.suffix_cons t ts)

theorem Undotted.eat (h : Undotted ts) {kind : TokenKind} (heat : eat? kind ts = some ts') :
    Undotted ts' :=
  h.suffix (eat?_suffix heat)

theorem Undotted.eatKeyword (h : Undotted ts) {keyword : String}
    (heat : eatKeyword? keyword ts = some ts') : Undotted ts' :=
  h.suffix (eatKeyword?_suffix heat)

theorem Undotted.operator (h : Undotted ts) {α : Type} {ofWord : String → Option α} {op : α}
    (heat : operator? ofWord ts = some (op, ts')) : Undotted ts' :=
  h.suffix (operator?_suffix heat)

theorem Undotted.expect (h : Undotted ts) (ctx : Context) (kind : TokenKind) :
    Gives Undotted (ctx.expect kind ts) := by
  unfold Context.expect
  split
  · split
    · exact .ok h.tail
    · exact .error _ _
  · exact .error _ _

theorem Undotted.identifier (h : Undotted ts) (ctx : Context) :
    Gives (fun r => '.' ∉ r.1.toList ∧ Undotted r.2) (ctx.identifier ts) := by
  unfold Context.identifier
  split
  · rename_i t rest
    split
    · rename_i name hname
      exact .ok ⟨h t List.mem_cons_self name hname, h.tail⟩
    · exact .error _ _
  · exact .error _ _

end Tokens

/-! ### Trees that are asked about -/

section Trees

variable (rename : String → String)

@[simp] theorem isDefaultMark_mapFields (e : Expr) :
    isDefaultMark (e.mapFields rename) = isDefaultMark e := by
  cases e <;> rfl

/-- Whether a text test is compared with a truth value does not depend on names. -/
theorem comparisonOf_mapFields (op : ComparisonOp) (left right : Expr) :
    comparisonOf op (left.mapFields rename) (right.mapFields rename)
      = (comparisonOf op left right).mapFields rename := by
  cases left with
  | regexMatch input regex options =>
    cases right with
    | literal value =>
      cases value with
      | bool b => cases op <;> cases b <;> rfl
      | _ => rfl
    | _ => rfl
  | _ => rfl

theorem caseOf_mapFields (branches : List (Expr × Expr)) (default : Option Expr) :
    caseOf (Expr.mapFieldsBranches rename branches) (Expr.mapFieldsOption rename default)
      = (caseOf branches default).mapFields rename := by
  cases branches with
  | nil => rfl
  | cons branch rest =>
    cases rest with
    | nil => cases default <;> rfl
    | cons other rest => rfl

end Trees

/-! ### Calls -/

section Calls

variable (rename : String → String)

/-- A call with the fields of its arguments and of its translation renamed. -/
def renamedCall (e : MethodEvent) : MethodEvent :=
  ⟨e.name, Expr.mapFieldsList rename e.args, e.onInstance, Expr.mapFieldsOption rename e.resolved⟩

/-- Two calls come out together, one of them the other renamed. -/
abbrev CallsRename (x y : QueryResult MethodEvent) : Prop :=
  Matches (fun a b => a = renamedCall rename b) x y

variable (e : MethodEvent)

theorem expectArgs_renamed (least most : Nat) :
    (renamedCall rename e).expectArgs least most = e.expectArgs least most := by
  simp [MethodEvent.expectArgs, renamedCall]

theorem claimCall_renamed (func : Func) (least most : Nat) :
    CallsRename rename ((renamedCall rename e).claimCall func least most)
      (e.claimCall func least most) := by
  unfold MethodEvent.claimCall
  rw [expectArgs_renamed]
  cases e.expectArgs least most with
  | ok _ => exact .ok rfl
  | error fault => exact .error fault fault

theorem claimArithmetic_renamed (op : ArithmeticOp) :
    CallsRename rename ((renamedCall rename e).claimArithmetic op) (e.claimArithmetic op) := by
  obtain ⟨name, args, onInstance, resolved⟩ := e
  unfold MethodEvent.claimArithmetic
  rw [expectArgs_renamed]
  refine .continued (.any _) fun _ _ => ?_
  cases args with
  | nil => exact .ok rfl
  | cons left args =>
    cases args with
    | nil => exact .ok rfl
    | cons right args => exact .ok rfl

/-- Only a constant is a text, and a constant has no fields. -/
theorem textArgument_mapFields (name : String) (arg : Expr) :
    Matches (fun a b => a = b) (textArgument name (arg.mapFields rename))
      (textArgument name arg) := by
  cases arg with
  | literal value =>
    cases value with
    | string s => exact .ok rfl
    | _ => exact .error _ _
  | _ => exact .error _ _

theorem twoWithText_renamed {make : Expr → String → Expr}
    (hmake : ∀ input text,
      make (input.mapFields rename) text = (make input text).mapFields rename) :
    CallsRename rename (twoWithText (renamedCall rename e) make) (twoWithText e make) := by
  obtain ⟨name, args, onInstance, resolved⟩ := e
  unfold twoWithText
  rw [expectArgs_renamed]
  refine .continued (.any _) fun _ _ => ?_
  cases args with
  | nil => exact .ok rfl
  | cons input args =>
    cases args with
    | nil => exact .ok rfl
    | cons text args =>
      refine .bind (textArgument_mapFields rename name text) ?_
      rintro s _ rfl
      exact .ok (by rw [MethodEvent.claim, hmake]; rfl)

theorem patternMatch_mapFields (input : Expr) (pattern : String) :
    patternMatch (input.mapFields rename) pattern
      = (patternMatch input pattern).mapFields rename := by
  unfold patternMatch
  dsimp only
  split
  · rfl
  · rfl

/-- The built-in functions go by the name of a call and by the constants among its arguments. -/
theorem builtin_renamed : CallsRename rename (builtin (renamedCall rename e)) (builtin e) := by
  unfold builtin
  rw [show (renamedCall rename e).name = e.name from rfl]
  split
  · exact claimCall_renamed rename e _ _ _
  · split
    · exact claimArithmetic_renamed rename e _
    · split
      · exact twoWithText_renamed rename e fun _ _ => rfl
      · split
        · exact twoWithText_renamed rename e (patternMatch_mapFields rename)
        · exact .ok rfl

theorem resolveMethod_renamed (hnew : e.resolved = none) :
    Matches (fun a b => a = b.mapFields rename)
      (Resolvers.empty.resolveMethod builtin (renamedCall rename e))
      (Resolvers.empty.resolveMethod builtin e) := by
  obtain ⟨name, args, onInstance, _⟩ := e
  cases hnew
  show Matches _ (builtin _ >>= _) (builtin _ >>= _)
  refine .bind (builtin_renamed rename ⟨name, args, onInstance, none⟩) ?_
  rintro _ ⟨_, _, _, resolved⟩ rfl
  cases resolved with
  | none => exact .error _ _
  | some e' => exact .ok rfl

end Calls

/-! ### Member paths -/

section Paths

variable (rs : Resolvers) (stop : Nat)

theorem pathSegments_same {segments : List String} (hne : segments ≠ [])
    (hsegments : ∀ name ∈ segments, '.' ∉ name.toList) (fuel : Nat) {ts : List Token}
    (hts : Undotted ts) :
    Matches (fun r r' => r = r' ∧ r'.1 ≠ [] ∧ (∀ name ∈ r'.1, '.' ∉ name.toList) ∧ Undotted r'.2)
      (pathSegments ⟨rs, stop⟩ segments fuel ts)
      (pathSegments ⟨.empty, stop⟩ segments fuel ts) := by
  induction fuel generalizing segments ts with
  | zero => exact .ok ⟨rfl, hne, hsegments, hts⟩
  | succ fuel ih =>
    rw [pathSegments, pathSegments]
    split
    · exact .ok ⟨rfl, hne, hsegments, hts⟩
    · rename_i rest hrest
      refine .continued ((hts.eat hrest).identifier ⟨.empty, stop⟩) ?_
      rintro ⟨name, ts'⟩ ⟨hname, hts'⟩
      refine ih (by simp) (fun other hother => ?_) hts'
      rcases List.mem_append.1 hother with hother | hother
      · exact hsegments other hother
      · rwa [List.mem_singleton.1 hother]

/-- The field of names without dots, from the field that the same names make without listeners. -/
theorem namedField_renamed {names : List String} (hne : names ≠ [])
    (h : ∀ name ∈ names, '.' ∉ name.toList) :
    (if names.dropLast.isEmpty then Expr.field (rs.resolveMember (names.getLast?.getD "") none)
      else .field (rs.resolveJoinMember (".".intercalate names.dropLast) (names.getLast?.getD "")))
      = (if names.dropLast.isEmpty then
          Expr.field (Resolvers.empty.resolveMember (names.getLast?.getD "") none)
        else .field (Resolvers.empty.resolveJoinMember (".".intercalate names.dropLast)
          (names.getLast?.getD ""))).mapFields rs.renamePath := by
  rcases List.eq_nil_or_concat names with hnil | ⟨init, last, rfl⟩
  · exact absurd hnil hne
  · rw [List.concat_eq_append] at h ⊢
    have hlast := h last (List.mem_append_right init (List.mem_singleton_self last))
    rw [List.dropLast_concat, List.getLast?_concat, Option.getD_some]
    split
    · exact congrArg Expr.field (rs.renamePath_member hlast).symm
    · exact congrArg Expr.field (rs.renamePath_qualified hlast).symm

theorem memberField_renamed {segments : List String} (hne : segments ≠ [])
    (h : ∀ name ∈ segments, '.' ∉ name.toList) :
    memberField ⟨rs, stop⟩ segments
      = (memberField ⟨.empty, stop⟩ segments).mapFields rs.renamePath := by
  unfold memberField
  split
  · exact namedField_renamed rs (List.cons_ne_nil _ _) fun name hname =>
      h name (List.mem_cons_of_mem _ hname)
  · exact namedField_renamed rs hne h

end Paths

/-! ### Expressions -/

/-- A parser reads what another one reads, renamed, and leaves the same tokens. -/
def Renames {α : Type} (rename : α → α) (p q : Parser α) : Prop :=
  ∀ ts, Undotted ts → Matches (fun r r' => r = (rename r'.1, r'.2) ∧ Undotted r'.2) (p ts) (q ts)

/-- Every production reads with the listeners what it reads without, renamed, with a bound on the
nesting of calls. -/
structure ProductionsRename (rs : Resolvers) (stop fuel : Nat) : Prop where
  level : ∀ l : Level, Renames (Expr.mapFields rs.renamePath) (l.reader ⟨rs, stop⟩ fuel)
    (l.reader ⟨.empty, stop⟩ fuel)
  further : ∀ (c : Chain) (left : Expr), Renames (Expr.mapFields rs.renamePath)
    (c.reader ⟨rs, stop⟩ fuel (left.mapFields rs.renamePath)) (c.reader ⟨.empty, stop⟩ fuel left)
  arguments : Renames (Expr.mapFieldsList rs.renamePath) (arguments ⟨rs, stop⟩ fuel)
    (arguments ⟨.empty, stop⟩ fuel)
  moreArguments : Renames (Expr.mapFieldsList rs.renamePath) (moreArguments ⟨rs, stop⟩ fuel)
    (moreArguments ⟨.empty, stop⟩ fuel)
  caseBranches : ∀ (branches : List (Expr × Expr)) (default : Option Expr),
    Renames (Expr.mapFields rs.renamePath)
      (caseBranches ⟨rs, stop⟩ fuel (Expr.mapFieldsBranches rs.renamePath branches)
        (Expr.mapFieldsOption rs.renamePath default))
      (caseBranches ⟨.empty, stop⟩ fuel branches default)

section Productions

variable {rs : Resolvers} {stop fuel : Nat}

/-- One operand, or one and the others behind a connective. -/
theorem ProductionsRename.joined (h : ProductionsRename rs stop fuel) (k : LogicalOp) :
    Renames (Expr.mapFields rs.renamePath) ((connectiveLevel k).reader ⟨rs, stop⟩ (fuel + 1))
      ((connectiveLevel k).reader ⟨.empty, stop⟩ (fuel + 1)) := by
  intro ts hts
  rw [reader_connectiveLevel, reader_connectiveLevel, OData.joined, OData.joined]
  refine .bind (h.level (operandLevel k) ts hts) ?_
  rintro _ ⟨left, ts⟩ ⟨rfl, hts⟩
  dsimp only
  split
  · exact .ok ⟨rfl, hts⟩
  · rename_i rest hrest
    refine .bind (h.level (connectiveLevel k) rest (hts.eatKeyword hrest)) ?_
    rintro _ ⟨right, ts'⟩ ⟨rfl, hts'⟩
    exact .ok ⟨rfl, hts'⟩

theorem ProductionsRename.chain (h : ProductionsRename rs stop fuel) (c : Chain) :
    Renames (Expr.mapFields rs.renamePath) (c.level.reader ⟨rs, stop⟩ (fuel + 1))
      (c.level.reader ⟨.empty, stop⟩ (fuel + 1)) := by
  intro ts hts
  rw [reader_chainLevel, reader_chainLevel]
  refine .bind (h.level c.operand ts hts) ?_
  rintro _ ⟨left, ts⟩ ⟨rfl, hts⟩
  exact h.further c left ts hts

/-- The end of a chain, or an operand and those behind it. -/
theorem ProductionsRename.chainRest (h : ProductionsRename rs stop fuel) (c : Chain)
    (left : Expr) :
    Renames (Expr.mapFields rs.renamePath)
      (c.reader ⟨rs, stop⟩ (fuel + 1) (left.mapFields rs.renamePath))
      (c.reader ⟨.empty, stop⟩ (fuel + 1) left) := by
  intro ts hts
  rw [Chain.reader_succ, Chain.reader_succ, OData.further, OData.further]
  split
  · exact .ok ⟨rfl, hts⟩
  · rename_i op rest hrest
    refine .bind (h.level c.operand rest (hts.operator hrest)) ?_
    rintro _ ⟨right, ts'⟩ ⟨rfl, hts'⟩
    exact h.further c (.arithmetic op left right) ts' hts'

theorem ProductionsRename.negation (h : ProductionsRename rs stop fuel) :
    Renames (Expr.mapFields rs.renamePath) (OData.notExpr ⟨rs, stop⟩ (fuel + 1))
      (OData.notExpr ⟨.empty, stop⟩ (fuel + 1)) := by
  intro ts hts
  rw [OData.notExpr, OData.notExpr]
  split
  · rename_i rest hrest
    refine .bind (h.level .negation rest (hts.eatKeyword hrest)) ?_
    rintro _ ⟨arg, ts'⟩ ⟨rfl, hts'⟩
    exact .ok ⟨rfl, hts'⟩
  · exact h.level .comparison ts hts

theorem ProductionsRename.compared (h : ProductionsRename rs stop fuel) :
    Renames (Expr.mapFields rs.renamePath) (OData.comparison ⟨rs, stop⟩ (fuel + 1))
      (OData.comparison ⟨.empty, stop⟩ (fuel + 1)) := by
  intro ts hts
  rw [OData.comparison, OData.comparison]
  refine .bind (h.level .sum ts hts) ?_
  rintro _ ⟨left, ts⟩ ⟨rfl, hts⟩
  dsimp only
  split
  · exact .ok ⟨rfl, hts⟩
  · rename_i op rest hrest
    refine .bind (h.level .sum rest (hts.operator hrest)) ?_
    rintro _ ⟨right, ts'⟩ ⟨rfl, hts'⟩
    exact .ok ⟨by rw [comparisonOf_mapFields], hts'⟩

theorem ProductionsRename.operand (hleaves : rs.LeavesMethods)
    (h : ProductionsRename rs stop fuel) :
    Renames (Expr.mapFields rs.renamePath) (OData.primary ⟨rs, stop⟩ (fuel + 1))
      (OData.primary ⟨.empty, stop⟩ (fuel + 1)) := by
  intro ts hts
  cases ts with
  | nil =>
    rw [OData.primary, OData.primary]
    · exact .error _ _
    · exact Nat.succ_ne_zero fuel
    · exact Nat.succ_ne_zero fuel
  | cons t rest =>
    rw [OData.primary, OData.primary]
    split
    · refine .bind (h.level .disjunction rest hts.tail) ?_
      rintro _ ⟨inner, ts⟩ ⟨rfl, hts⟩
      exact .continued (hts.expect ⟨.empty, stop⟩ .rightParen) fun _ hts' => .ok ⟨rfl, hts'⟩
    · exact .ok ⟨rfl, hts.tail⟩
    · rename_i name hname
      split
      · exact .error _ _
      · split
        · rename_i ts' hparen
          have hbehind := hts.tail.eat hparen
          split
          · exact h.caseBranches [] none ts' hbehind
          · refine .bind (h.arguments ts' hbehind) ?_
            rintro _ ⟨args, ts⟩ ⟨rfl, hts⟩
            dsimp only
            -- the listeners leave the call to the table, which is asked about renamed arguments
            rw [rs.resolveMethod_of_leaves hleaves]
            refine .bind (resolveMethod_renamed rs.renamePath ⟨_, args, false, none⟩ rfl) ?_
            rintro _ call rfl
            exact .ok ⟨rfl, hts⟩
        · have hfirst := hts t List.mem_cons_self name (by rw [Token.name?, hname]; rfl)
          refine .bind (pathSegments_same rs stop (List.cons_ne_nil name [])
            (List.forall_mem_singleton.2 hfirst) _ hts.tail) ?_
          rintro _ ⟨segments, ts⟩ ⟨rfl, hne, hsegments, hts⟩
          exact .ok ⟨by rw [memberField_renamed rs stop hne hsegments], hts⟩
    · exact .error _ _

theorem ProductionsRename.furtherArguments (h : ProductionsRename rs stop fuel) :
    Renames (Expr.mapFieldsList rs.renamePath) (OData.moreArguments ⟨rs, stop⟩ (fuel + 1))
      (OData.moreArguments ⟨.empty, stop⟩ (fuel + 1)) := by
  intro ts hts
  rw [OData.moreArguments, OData.moreArguments]
  refine .bind (h.level .disjunction ts hts) ?_
  rintro _ ⟨arg, ts⟩ ⟨rfl, hts⟩
  dsimp only
  split
  · rename_i rest hrest
    refine .bind (h.moreArguments rest (hts.eat hrest)) ?_
    rintro _ ⟨args, ts'⟩ ⟨rfl, hts'⟩
    exact .ok ⟨rfl, hts'⟩
  · exact .continued (hts.expect ⟨.empty, stop⟩ .rightParen) fun _ hts' => .ok ⟨rfl, hts'⟩

/-- The condition that marks a default is a constant, so both readings find it in the same place. -/
theorem ProductionsRename.branches (h : ProductionsRename rs stop fuel)
    (branches : List (Expr × Expr)) (default : Option Expr) :
    Renames (Expr.mapFields rs.renamePath)
      (OData.caseBranches ⟨rs, stop⟩ (fuel + 1) (Expr.mapFieldsBranches rs.renamePath branches)
        (Expr.mapFieldsOption rs.renamePath default))
      (OData.caseBranches ⟨.empty, stop⟩ (fuel + 1) branches default) := by
  intro ts hts
  rw [OData.caseBranches, OData.caseBranches, Expr.mapFieldsOption_eq, Option.isSome_map]
  split
  · exact .error _ _
  · refine .bind (h.level .disjunction ts hts) ?_
    rintro _ ⟨condition, ts₁⟩ ⟨rfl, hts₁⟩
    refine .continued (hts₁.expect ⟨.empty, stop⟩ .colon) fun ts₂ hts₂ => ?_
    refine .bind (h.level .disjunction ts₂ hts₂) ?_
    rintro _ ⟨value, ts₃⟩ ⟨rfl, hts₃⟩
    have hdefault : (if isDefaultMark (condition.mapFields rs.renamePath) then
        some (value.mapFields rs.renamePath) else none)
          = Expr.mapFieldsOption rs.renamePath
            (if isDefaultMark condition then some value else none) := by
      rw [isDefaultMark_mapFields]
      split <;> rfl
    have hbranches : (if isDefaultMark (condition.mapFields rs.renamePath) then
        Expr.mapFieldsBranches rs.renamePath branches
        else Expr.mapFieldsBranches rs.renamePath branches
          ++ [(condition.mapFields rs.renamePath, value.mapFields rs.renamePath)])
          = Expr.mapFieldsBranches rs.renamePath
            (if isDefaultMark condition then branches else branches ++ [(condition, value)]) := by
      rw [isDefaultMark_mapFields]
      split
      · rfl
      · simp
    dsimp only
    rw [hdefault, hbranches]
    split
    · rename_i rest hrest
      exact h.caseBranches _ _ rest (hts₃.eat hrest)
    · refine .continued (hts₃.expect ⟨.empty, stop⟩ .rightParen) fun _ hts' => .ok ⟨?_, hts'⟩
      rw [caseOf_mapFields]

/-- Every production reads with the listeners what it reads without, renamed. -/
theorem productions_rename (hleaves : rs.LeavesMethods) (fuel : Nat) :
    ProductionsRename rs stop fuel := by
  induction fuel with
  | zero =>
    -- both readings fail at once, whatever the tokens are
    exact ⟨fun l _ _ => by cases l <;> exact .error _ _,
      fun c _ _ _ => by cases c <;> exact .error _ _, fun _ _ => .error _ _,
      fun _ _ => .error _ _, fun _ _ _ _ => .error _ _⟩
  | succ fuel ih =>
    refine ⟨fun l => ?_, ih.chainRest, ?_, ih.furtherArguments, ih.branches⟩
    · cases l with
      | disjunction => exact ih.joined .or
      | conjunction => exact ih.joined .and
      | negation => exact ih.negation
      | comparison => exact ih.compared
      | sum => exact ih.chain .sum
      | product => exact ih.chain .product
      | primary => exact ih.operand hleaves
    · intro ts hts
      rw [arguments, arguments]
      split
      · rename_i rest hrest
        exact .ok ⟨rfl, hts.eat hrest⟩
      · exact ih.moreArguments ts hts

end Productions

/-! ### Filters -/

/-- A filter whose identifiers have no dots is read with listeners that leave calls alone exactly if
it is read without them, and then as the same tree with the fields renamed. -/
theorem parseFilter_renamed {rs : Resolvers} (hleaves : rs.LeavesMethods) {text : List Char}
    (hnames : ∀ ts, tokenize text = .ok ts → Undotted ts) (e : Expr) :
    parseFilter rs text = .ok e ↔
      ∃ plain, parseFilter .empty text = .ok plain ∧ e = plain.mapFields rs.renamePath := by
  have hmatches : Matches (fun a b : Expr => a = b.mapFields rs.renamePath) (parseFilter rs text)
      (parseFilter .empty text) := by
    have htokens : Gives Undotted ((tokenize text).mapError QueryError.syntaxError) := by
      cases hscan : tokenize text with
      | ok ts => exact .ok (hnames ts hscan)
      | error fault => exact .error _ _
    refine .continued htokens fun ts hts => ?_
    refine .bind ((productions_rename hleaves (depthBound ts)).level .disjunction ts hts) ?_
    rintro _ ⟨plain, rest⟩ ⟨rfl, -⟩
    exact .continued (.any _) fun _ _ => .ok rfl
  exact hmatches.ok_iff e

/-- A listener that puts every field below the row, and a qualified one behind its qualifier. -/
def belowRow : Resolver where
  member e := { e with resolved := some ("row." ++ e.member) }
  joinMember e := { e with resolved := some ("row." ++ e.member ++ "@" ++ e.qualifier) }
  method := .ok

/-- A filter with a path below the row, a nested path in a call and a conditional with a default. -/
def nestedFilter : FilterTree :=
  .compare .lt
    (.cond (.compare .eq (.field "$it" ["Name"]) (.field "Code" []))
      (.call "Min" .min [.field "Shop" ["Owner", "Age"]]) (.field "Size" []))
    (.field "Most" [])

/-- The same filter as a text. -/
def nestedText : List Char :=
  " case ( $it / Name eq Code : Min ( Shop / Owner / Age ) , true : Size ) lt Most".toList

theorem nestedFilter_wellFormed : nestedFilter.WellFormed := by
  have hfield : ∀ name ∈ ["Code", "Size", "Most"], (FilterTree.field name []).WellFormed := by
    simp only [List.forall_mem_cons]
    exact ⟨.field (by decide) ⟨by decide, by decide⟩, .field (by decide) ⟨by decide, by decide⟩,
      .field (by decide) ⟨by decide, by decide⟩, by simp⟩
  have hname : (FilterTree.field "$it" ["Name"]).WellFormed :=
    .field (by decide) ⟨by decide, by decide⟩
  have hage : (FilterTree.field "Shop" ["Owner", "Age"]).WellFormed :=
    .field (by decide) ⟨by decide, by decide⟩
  have hcall : (FilterTree.call "Min" .min [.field "Shop" ["Owner", "Age"]]).WellFormed :=
    .call (by decide) (by decide) (by decide) (by simpa using hage)
  have hcondition :
      (FilterTree.compare .eq (.field "$it" ["Name"]) (.field "Code" [])).WellFormed :=
    .compare hname (hfield "Code" (by simp))
  exact .compare (.cond (by simp [FilterTree.expr]) hcondition hcall (hfield "Size" (by simp)))
    (hfield "Most" (by simp))

theorem parseFilter_renamed_belowRow :
    Resolvers.LeavesMethods ⟨[belowRow]⟩ ∧ (∀ ts, tokenize nestedText = .ok ts → Undotted ts) ∧
      parseFilter ⟨[belowRow]⟩ nestedText = .ok (.compare .lt
        (.cond (.compare .eq (.field "row.Name") (.field "row.Code"))
          (.call .min [.field "row.Age@Shop.Owner"]) (.field "row.Size"))
        (.field "row.Most")) := by
  have hleaves : Resolvers.LeavesMethods ⟨[belowRow]⟩ :=
    List.forall_mem_singleton.2 fun _ => rfl
  have hnames : ∀ ts, tokenize nestedText = .ok ts → Undotted ts := by
    have hall : (tokenize nestedText).toOption.all (fun ts => ts.all fun t =>
        t.name?.all fun name => !name.toList.contains '.') = true := by decide +kernel
    intro ts hts t ht name hname
    rw [hts] at hall
    have hfree := List.all_eq_true.1 hall t ht
    rw [hname] at hfree
    simpa using hfree
  have hplain : parseFilter .empty nestedText = .ok nestedFilter.expr := by
    have htext : nestedText = nestedFilter.kinds.flatMap fun k => [' '] ++ k.chars := by
      decide +kernel
    have hs := spaced_flatMap (List.cons_ne_nil ' ' [])
      (List.forall_mem_singleton.2 (by decide)) nestedFilter.kinds
    rw [← htext] at hs
    exact parseFilter_of_lexes (hs.lexes nestedFilter_wellFormed.lexable)
      nestedFilter_wellFormed.correct.alone
  have hpaths : Resolvers.renamePath ⟨[belowRow]⟩ "Name" = "row.Name" ∧
      Resolvers.renamePath ⟨[belowRow]⟩ "Code" = "row.Code" ∧
      Resolvers.renamePath ⟨[belowRow]⟩ "Shop.Owner.Age" = "row.Age@Shop.Owner" ∧
      Resolvers.renamePath ⟨[belowRow]⟩ "Size" = "row.Size" ∧
      Resolvers.renamePath ⟨[belowRow]⟩ "Most" = "row.Most" := by decide +kernel
  obtain ⟨hname, hcode, hage, hsize, hmost⟩ := hpaths
  refine ⟨hleaves, hnames, (parseFilter_renamed hleaves hnames _).2 ⟨_, hplain, ?_⟩⟩
  rw [← hname, ← hcode, ← hage, ← hsize, ← hmost]
  rfl

end OData

end Polyquery
