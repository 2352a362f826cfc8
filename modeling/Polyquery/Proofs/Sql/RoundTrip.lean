import Polyquery.Proofs.OData.Printable
import Polyquery.Proofs.Sql.Printing

/-!
# SQL text read back

The reader gives back what the generic dialect writes, with many-operand connectives nested to the
right and inequality to null as a negated test for null.

* `Expr.sqlNormal` - this form of an expression;
* `toExpr_sqlTree` - the tree of a text means the normal form of its expression.
-/

namespace Polyquery

namespace Expr

mutual

/-- The tree with connectives nested to the right and inequality to null as a negated test for null,
everything else as it is. -/
def sqlNormal : Expr → Expr
  | .field path => .field path
  | .literal value => .literal value
  | .compare op left right =>
    if right.isNull && op = .ne then .not (.compare .eq (sqlNormal left) .null)
    else .compare op (sqlNormal left) (sqlNormal right)
  | .logical op args => nestRight (.logical op) (sqlNormalList args)
  | .not arg => .not (sqlNormal arg)
  | .arithmetic op left right => .arithmetic op (sqlNormal left) (sqlNormal right)
  | .call func args => .call func (sqlNormalList args)
  | .regexMatch input regex options => .regexMatch (sqlNormal input) regex options
  | .cond condition yes no => .cond (sqlNormal condition) (sqlNormal yes) (sqlNormal no)
  | .switch branches default => .switch (sqlNormalBranches branches) (sqlNormalOption default)
  | .custom name args => .custom name (sqlNormalList args)

/-- Trees in a list. -/
def sqlNormalList : List Expr → List Expr
  | [] => []
  | e :: rest => sqlNormal e :: sqlNormalList rest

/-- Conditions and values of branches. -/
def sqlNormalBranches : List (Expr × Expr) → List (Expr × Expr)
  | [] => []
  | (condition, value) :: rest => (sqlNormal condition, sqlNormal value) :: sqlNormalBranches rest

/-- An optional tree. -/
def sqlNormalOption : Option Expr → Option Expr
  | none => none
  | some e => some (sqlNormal e)

end

theorem sqlNormalList_eq_map (args : List Expr) : sqlNormalList args = args.map sqlNormal := by
  induction args with
  | nil => rfl
  | cons e rest ih => rw [sqlNormalList, ih, List.map_cons]

theorem sqlNormalBranches_length (branches : List (Expr × Expr)) :
    (sqlNormalBranches branches).length = branches.length := by
  induction branches with
  | nil => rfl
  | cons b rest ih => rw [sqlNormalBranches, List.length_cons, ih, List.length_cons]

end Expr

namespace Sql

open Polyquery.Expr

/-! ### Names and constants -/

theorem value_identOf (names : List String) : (names.map identOf).map Ident.value = names := by
  rw [List.map_map]
  exact List.map_id names

/-- The tree of a path names the path. -/
theorem toExpr_pathTree (path : String) : (pathTree path).toExpr .empty = .ok (.field path) := by
  have hjoined := Text.intercalate_segments path
  unfold pathTree
  split
  · rename_i name hname
    rw [hname, String.intercalate_singleton] at hjoined
    rw [Tree.toExpr, ← hjoined]
    rfl
  · rename_i hmany
    have hlen : 2 ≤ ((Text.segments path).map identOf).length := by
      rw [List.length_map]
      rcases hsegments : Text.segments path with _ | ⟨name, _ | ⟨next, names⟩⟩
      · exact absurd hsegments (Text.segments_ne_nil path)
      · exact absurd hsegments (hmany name)
      · simp
    rw [toExpr_path hlen, value_identOf, hjoined]

/-- A number with a sign, from the number of its digits. -/
theorem literal?_signedTree {negative : Bool} {digits : String} {value result : Literal}
    (h : numberLiteral digits = .ok value)
    (hsign : (if negative then value.neg? else .ok value) = .ok result) :
    (signedTree negative digits).literal? = some result := by
  have hnumber : (numberTree digits).literal? = some value := by
    rw [numberTree, Tree.literal?, Constant.toLiteral, h]
    rfl
  cases negative with
  | true =>
    have hneg : value.neg? = .ok result := hsign
    rw [signedTree, if_pos rfl, Tree.literal?, hnumber, Option.bind_some, hneg]
    rfl
  | false =>
    have hsame : value = result := Except.ok.inj hsign
    rw [← hsame]
    exact hnumber

/-- The tree of an integer is the integer; the least one has no positive counterpart. -/
theorem literal?_intTree {n : Int64} (h : n ≠ Int64.minValue) :
    (intTree n.toInt).literal? = some (.int n) := by
  refine literal?_signedTree (numberLiteral_natText (natAbs_lt h)) ?_
  by_cases hn : n < 0
  · have hneg : n.toInt < 0 := Int64.lt_iff_toInt_lt.1 hn
    rw [decide_eq_true hneg, if_pos rfl, neg?_natural hn h]
  · have hpos : ¬ n.toInt < 0 := fun hlt => hn (Int64.lt_iff_toInt_lt.2 hlt)
    rw [decide_eq_false hpos, if_neg (by decide), ofNat_natAbs hn h]

/-- The tree of a double is the double. -/
theorem literal?_floatTree {f : Double} (h : f.IsCanonical) (hfinite : f.isFinite = true) :
    (floatTree f).literal? = some (.double f) := by
  cases f with
  | finite negative m e =>
    refine @literal?_signedTree _ _ (.double (.finite false m e)) _ ?_ ?_
    · have hdigits : floatDigits (.finite negative m e)
          = NumberLayout.literal.render (.finite false m e : Double) := by
        cases negative <;> rfl
      rw [hdigits]
      exact numberLiteral_render h
    · cases negative <;> rfl
  | _ => cases hfinite

/-- The tree of a constant is the constant. -/
theorem literal?_literalTree {value : Literal} (h : WritableLiteral value) :
    (literalTree value).literal? = some value := by
  cases h with
  | null => rfl
  | bool b => rfl
  | int hn => exact literal?_intTree hn
  | double hcanonical hfinite => exact literal?_floatTree hcanonical hfinite
  | string s => rfl

theorem toExpr_intTree {n : Int64} (h : n ≠ Int64.minValue) :
    (intTree n.toInt).toExpr .empty = .ok (.int n) := toExpr_of_literal? (literal?_intTree h)

theorem toExpr_textTree (s : String) : (textTree s).toExpr .empty = .ok (.string s) :=
  toExpr_of_literal? rfl

theorem toExpr_literalTree {value : Literal} (h : WritableLiteral value) :
    (literalTree value).toExpr .empty = .ok (.literal value) :=
  toExpr_of_literal? (literal?_literalTree h)

/-! ### Lists -/

section Lists

/-- Parentheses change nothing. -/
theorem toExpr_groupedTree (e : Expr) (t : Tree) :
    (groupedTree e t).toExpr .empty = t.toExpr .empty := by
  unfold groupedTree
  split
  · rw [Tree.toExpr]
  · rfl

variable {args : List Expr} (h : ∀ a ∈ args, (sqlTree a).toExpr .empty = .ok a.sqlNormal)

include h

theorem toExprs_operandTrees : toExprs .empty (operandTrees args) = .ok (sqlNormalList args) := by
  rw [operandTrees_eq_map, sqlNormalList_eq_map]
  refine toExprs_map fun a ha => ?_
  rw [toExpr_groupedTree, h a ha]

theorem toExprs_sqlTrees : toExprs .empty (sqlTrees args) = .ok (sqlNormalList args) := by
  rw [sqlTrees_eq_map, sqlNormalList_eq_map]
  exact toExprs_map h

theorem toArguments_sqlTrees :
    toArguments .empty ((sqlTrees args).map .value) = .ok (sqlNormalList args) := by
  rw [toArguments_values, toExprs_sqlTrees h]

end Lists

theorem toBranches_branchTrees {branches : List (Expr × Expr)}
    (hconditions : ∀ b ∈ branches, (sqlTree b.1).toExpr .empty = .ok b.1.sqlNormal)
    (hvalues : ∀ b ∈ branches, (sqlTree b.2).toExpr .empty = .ok b.2.sqlNormal) :
    toBranches .empty none (branchTrees branches) = .ok (sqlNormalBranches branches) := by
  induction branches with
  | nil => rfl
  | cons b branches ih =>
    have hcondition := hconditions b List.mem_cons_self
    have hvalue := hvalues b List.mem_cons_self
    have hrest := ih (fun b hb => hconditions b (List.mem_cons_of_mem _ hb))
      fun b hb => hvalues b (List.mem_cons_of_mem _ hb)
    obtain ⟨condition, value⟩ := b
    rw [branchTrees, toBranches, hcondition, hvalue, hrest, sqlNormalBranches]
    rfl

theorem toExprOption_defaultTree {default : Option Expr}
    (h : ∀ e ∈ default, (sqlTree e).toExpr .empty = .ok e.sqlNormal) :
    toExprOption .empty (defaultTree default) = .ok (sqlNormalOption default) := by
  cases default with
  | none => rfl
  | some e =>
    rw [defaultTree, toExprOption, h e rfl]
    rfl

/-! ### Calls -/

theorem pathText_word (word : String) : pathText [⟨word, none⟩] = word := by
  rw [pathText, List.map_singleton, String.intercalate_singleton]
  rfl

/-- A call by its word, if the built-in table claims it. -/
theorem toExpr_wordCall {word : String} {arguments : List Argument} {xs : List Expr} {e : Expr}
    (hargs : toArguments .empty arguments = .ok xs)
    (h : functions ⟨Text.lower word, xs, false, none⟩
      = .ok ⟨Text.lower word, xs, false, some e⟩) :
    (wordCall word arguments).toExpr .empty = .ok e := by
  have hresolve : resolveCall .empty (Text.lower (pathText [⟨word, none⟩])) xs = .ok e := by
    rw [pathText_word]
    exact Resolvers.resolveMethod_empty h
  rw [wordCall, Tree.toExpr]
  exact bind_eq_ok.2 ⟨(), rfl, bind_eq_ok.2 ⟨xs, hargs, hresolve⟩⟩

theorem claimCall_of_length {e : MethodEvent} {func : Func} {least most : Nat}
    (h : least ≤ e.args.length ∧ e.args.length ≤ most) :
    e.claimCall func least most = .ok (e.claim (.call func e.args)) := by
  rw [MethodEvent.claimCall, MethodEvent.expectArgs, if_pos h]
  rfl

/-- The built-in table knows the words of the plain functions. -/
theorem functions_plain {func : Func} (hfunc : func ∈ plainFunctions) {xs : List Expr}
    (harity : arity func xs.length = true) :
    functions ⟨Text.lower (functionWord func), xs, false, none⟩
      = .ok ⟨Text.lower (functionWord func), xs, false, some (.call func xs)⟩ := by
  have hone : ∀ f, arity f xs.length = decide (xs.length = 1) → arity f xs.length = true →
      1 ≤ xs.length ∧ xs.length ≤ 1 := by
    intro f hf hone
    rw [hf, decide_eq_true_eq] at hone
    omega
  have hround : arity .round xs.length = true → 1 ≤ xs.length ∧ xs.length ≤ 2 := by
    intro h
    have hor : xs.length = 1 ∨ xs.length = 2 := by simpa [arity] using h
    omega
  have hcount : arity .count xs.length = true → 0 ≤ xs.length ∧ xs.length ≤ 1 := by
    intro h
    have hle : xs.length ≤ 1 := by simpa [arity] using h
    omega
  revert hfunc
  cases func with
  | round => exact fun _ => claimCall_of_length (hround harity)
  | count => exact fun _ => claimCall_of_length (hcount harity)
  | concat => exact fun h => absurd h (by decide)
  | substr => exact fun h => absurd h (by decide)
  | indexOf => exact fun h => absurd h (by decide)
  | trim => exact fun h => absurd h (by decide)
  | ceil => exact fun h => absurd h (by decide)
  | floor => exact fun h => absurd h (by decide)
  | _ => exact fun _ => claimCall_of_length (hone _ rfl harity)

/-- The tree of a call of a function that takes its arguments as they are. -/
theorem toExpr_call {func : Func} {args : List Expr} (hconcat : func ≠ .concat)
    (hsubstr : func ≠ .substr) (hindex : func ≠ .indexOf) (harity : arity func args.length = true)
    (h : ∀ a ∈ args, (sqlTree a).toExpr .empty = .ok a.sqlNormal) :
    (sqlTree (.call func args)).toExpr .empty = .ok (.call func (sqlNormalList args)) := by
  cases args with
  | nil =>
    obtain rfl := eq_count_of_arity harity
    rw [sqlTree]
    exact toExpr_wordCall rfl rfl
  | cons arg args =>
    rcases plain_or_special hconcat hsubstr hindex with hplain | hspecial
    · have hlength : (sqlNormalList (arg :: args)).length = (arg :: args).length := by
        rw [sqlNormalList_eq_map, List.length_map]
      rw [← hlength] at harity
      rw [sqlTree, callTree_plain hplain]
      exact toExpr_wordCall (toArguments_sqlTrees h) (functions_plain hplain harity)
    · have hone := length_eq_one hspecial harity
      obtain rfl : args = [] := List.length_eq_zero_iff.1 (Nat.succ.inj hone)
      have harg := h arg List.mem_cons_self
      have hlower : Text.lower "CEIL" = "ceil" ∧ Text.lower "FLOOR" = "floor" := by decide
      simp only [List.mem_cons, List.not_mem_nil, or_false] at hspecial
      rcases hspecial with rfl | rfl | rfl
      · show (Tree.trim (sqlTree arg) []).toExpr .empty = _
        rw [Tree.toExpr, harg]
        show resolveCall .empty "trim" [arg.sqlNormal] = _
        exact Resolvers.resolveMethod_empty rfl
      · show (Tree.rounding "CEIL" (sqlTree arg) "").toExpr .empty = _
        rw [Tree.toExpr, harg, hlower.1]
        show resolveCall .empty "ceil" [arg.sqlNormal] = _
        exact Resolvers.resolveMethod_empty rfl
      · show (Tree.rounding "FLOOR" (sqlTree arg) "").toExpr .empty = _
        rw [Tree.toExpr, harg, hlower.2]
        show resolveCall .empty "floor" [arg.sqlNormal] = _
        exact Resolvers.resolveMethod_empty rfl

/-- The tree of a part of a text: the start is written one later and read back one earlier. -/
theorem toExpr_substr {text : Expr} {start : Int64} {length : Option Expr}
    (hstart : start ≠ Int64.maxValue) (htext : (sqlTree text).toExpr .empty = .ok text.sqlNormal)
    (hlength : ∀ e ∈ length, (sqlTree e).toExpr .empty = .ok e.sqlNormal) :
    (sqlTree (.call .substr (text :: .int start :: length.toList))).toExpr .empty
      = .ok (Expr.call .substr (text :: .int start :: length.toList)).sqlNormal := by
  have htree : sqlTree (.call .substr (text :: .int start :: length.toList))
      = .substring true (sqlTree text) (some (intTree (start + 1).toInt))
          (length.map sqlTree) := by
    cases length <;> rfl
  have hposition : toExprOption .empty (some (intTree (start + 1).toInt))
      = .ok (some (.int (start + 1))) := by
    rw [toExprOption, toExpr_intTree (next_ne_minValue hstart)]
    rfl
  have hlengths : toExprOption .empty (length.map sqlTree) = .ok (length.map sqlNormal) := by
    rw [← defaultTree_eq_map, toExprOption_defaultTree hlength]
    cases length <;> rfl
  have hnormal : (Expr.call .substr (text :: .int start :: length.toList)).sqlNormal
      = .call .substr (text.sqlNormal :: .int start :: (length.map sqlNormal).toList) := by
    cases length <;> rfl
  have hcalls := (Tree.Calls.substring true htext hposition hlengths).callsSubstring (by decide)
  rw [Option.getD_some] at hcalls
  rw [htree, hcalls.toExpr (by cases length <;> simp), zeroBased_int,
    if_neg (next_ne_minValue hstart), Int64.add_sub_cancel, hnormal]
  rfl

/-- A call that the built-in table takes for a match. -/
theorem functions_regex (input : Expr) (regex : String) (options : Option String) :
    functions ⟨"regexp_like", input :: .string regex :: (options.map Expr.string).toList, false, none⟩
      = .ok ⟨"regexp_like", input :: .string regex :: (options.map Expr.string).toList, false,
          some (.regexMatch input regex options)⟩ := by
  cases options <;> rfl

/-- The tree of a match is a call of the word for it. -/
theorem toExpr_regexMatch {input : Expr} {regex : String} {options : Option String}
    (h : (sqlTree input).toExpr .empty = .ok input.sqlNormal) :
    (sqlTree (.regexMatch input regex options)).toExpr .empty
      = .ok (Expr.regexMatch input regex options).sqlNormal := by
  have hargs : toArguments .empty
      ((sqlTree input :: textTree regex :: (options.map textTree).toList).map .value)
      = .ok (input.sqlNormal :: .string regex :: (options.map Expr.string).toList) := by
    have hregex := toExpr_textTree regex
    cases options with
    | none =>
      simp only [Option.map_none, Option.toList_none, List.map_cons, List.map_nil, toArguments, h,
        hregex]
      rfl
    | some flags =>
      have hflags := toExpr_textTree flags
      simp only [Option.map_some, Option.toList_some, List.map_cons, List.map_nil, toArguments, h,
        hregex, hflags]
      rfl
  have hlower : Text.lower "REGEXP_LIKE" = "regexp_like" := by decide
  rw [sqlTree, sqlNormal]
  refine toExpr_wordCall hargs ?_
  rw [hlower]
  exact functions_regex _ _ _

/-- Several branches, or one without a default, are no conditional of two values. -/
theorem caseExpr_of_many {branches : List (Expr × Expr)} {default : Option Expr}
    (h : ¬ (branches.length = 1 ∧ default.isSome = true)) :
    caseExpr branches default = .switch branches default := by
  unfold caseExpr
  split
  · exact absurd ⟨rfl, rfl⟩ h
  · rfl

/-! ### Every writable expression -/

/-- The tree of several branches is a conditional of branches again, not one of two values. -/
theorem toExpr_switch {branches : List (Expr × Expr)} {default : Option Expr}
    (hmany : ¬ (branches.length = 1 ∧ default.isSome = true))
    (hconditions : ∀ b ∈ branches, (sqlTree b.1).toExpr .empty = .ok b.1.sqlNormal)
    (hvalues : ∀ b ∈ branches, (sqlTree b.2).toExpr .empty = .ok b.2.sqlNormal)
    (hdefault : ∀ e ∈ default, (sqlTree e).toExpr .empty = .ok e.sqlNormal) :
    (sqlTree (.switch branches default)).toExpr .empty
      = .ok (Expr.switch branches default).sqlNormal := by
  have hlength := sqlNormalBranches_length branches
  have hsome : (sqlNormalOption default).isSome = default.isSome := by cases default <;> rfl
  rw [sqlTree, Tree.toExpr, sqlNormal]
  show (toBranches .empty none (branchTrees branches) >>= _) = _
  rw [toBranches_branchTrees hconditions hvalues]
  show (toExprOption .empty (defaultTree default) >>= _) = _
  rw [toExprOption_defaultTree hdefault]
  show Except.ok (caseExpr (sqlNormalBranches branches) (sqlNormalOption default)) = _
  rw [caseExpr_of_many (by rw [hlength, hsome]; exact hmany)]

/-- The tree of a text means the normal form of its expression. -/
theorem toExpr_sqlTree {e : Expr} (h : Writable e) :
    (sqlTree e).toExpr .empty = .ok e.sqlNormal := by
  induction h with
  | @field path _ =>
    rw [sqlTree, sqlNormal]
    exact toExpr_pathTree path
  | literal hvalue =>
    rw [sqlTree, sqlNormal]
    exact toExpr_literalTree hvalue
  | @isNull left _ _ ih =>
    have htree : sqlTree (.compare .eq left .null) = .isNull false (sqlTree left) := by
      simp only [sqlTree, comparisonForm, Expr.null, Expr.isNull, decide_true, Bool.and_self, if_true]
    rw [htree, Tree.toExpr, ih]
    rfl
  | @isNotNull left _ _ _ ih =>
    have htree : sqlTree (.compare .ne left .null) = .unary .not (.isNull false (sqlTree left)) := by
      simp only [sqlTree, comparisonForm, Expr.null, Expr.isNull]
      rfl
    rw [htree, Tree.toExpr]
    show ((Tree.isNull false (sqlTree left)).toExpr .empty >>= _) = _
    rw [Tree.toExpr, ih]
    rfl
  | @compare op left right hform _ _ _ _ ihl ihr =>
    have htree : sqlTree (.compare op left right)
        = .binary (.compare op) (sqlTree left) (sqlTree right) := by
      simp only [sqlTree, hform]
    have hnormal : (Expr.compare op left right).sqlNormal
        = .compare op left.sqlNormal right.sqlNormal := by
      unfold comparisonForm at hform
      rw [sqlNormal, if_neg]
      intro hne
      rw [if_pos hne] at hform
      split at hform <;> cases hform
    rw [htree, Tree.toExpr, ihl, ihr, hnormal]
    rfl
  | @logical op args hlen _ ih =>
    have hnormals : 2 ≤ (sqlNormalList args).length := by
      rw [sqlNormalList_eq_map, List.length_map]
      exact hlen
    rw [sqlTree, Tree.toExpr, toExprs_operandTrees ih, sqlNormal]
    show ChainOp.combine (.logical op) (sqlNormalList args) = _
    rw [ChainOp.combine, foldLogical?_eq_nestRight hnormals]
  | not _ ih =>
    rw [sqlTree, Tree.toExpr]
    show ((groupedTree _ _).toExpr .empty >>= _) = _
    rw [toExpr_groupedTree, ih]
    rfl
  | arithmetic _ _ _ _ ihl ihr =>
    rw [sqlTree, Tree.toExpr_nested, Tree.toExpr, ihl, ihr]
    rfl
  | @concat first rest hne _ _ _ _ ihfirst ihrest =>
    have hall : ∀ a ∈ first :: rest, (sqlTree a).toExpr .empty = .ok a.sqlNormal :=
      List.forall_mem_cons.2 ⟨ihfirst, ihrest⟩
    have htree : sqlTree (.call .concat (first :: rest))
        = .nested (.chain .concat (sqlTrees (first :: rest))) := rfl
    rw [htree, Tree.toExpr_nested, Tree.toExpr, toExprs_sqlTrees hall]
    rfl
  | substr hstart _ _ ihtext ihlength =>
    exact toExpr_substr hstart ihtext ihlength
  | @call func args hconcat hsubstr hindex harity _ _ ih =>
    exact toExpr_call hconcat hsubstr hindex harity ih
  | regexMatch _ _ _ ih =>
    exact toExpr_regexMatch ih
  | cond _ _ _ ihc ihy ihn =>
    rw [sqlTree, Tree.toExpr]
    simp only [toExprOption, toBranches, ihc, ihy, ihn]
    rfl
  | switch _ hmany _ _ _ ihconditions ihvalues ihdefault =>
    exact toExpr_switch hmany ihconditions ihvalues ihdefault

/-- The generic text of a writable expression that nests less deeply than the reader allows is read
back as its normal form. -/
theorem parseExpr_of_writable {e : Expr} (h : Writable e)
    (hlevels : (sqlTree e).nesting < nestingLimit) :
    ∃ text, Dialect.generic.exprText e = .ok text ∧
      parseExpr .generic .empty text = .ok e.sqlNormal := by
  obtain ⟨text, htext, hread⟩ := h.textReads
  refine ⟨text, htext, ?_⟩
  rw [parseExpr, hread.expression? hlevels]
  exact toExpr_sqlTree h

/-! ### Layers -/

/-- A name without a meaning in SQL. -/
def IsPlainName (name : String) : Prop := name ≠ "" ∧ Text.upper name ∉ vocabulary

/-- The arguments of a function: for a part of a text, the start is a constant with a successor. -/
def ArgumentsFit (func : Func) (args : List Expr) : Prop :=
  func = .substr → ∃ start : Int64, args[1]? = some (.int start) ∧ start ≠ Int64.maxValue

/-- Expressions in layers: connectives and negations, then comparisons, then whatever is closed, in
which the layers may start again. -/
inductive Layered : Expr → Prop where
  | field {path : String} :
      (∀ name ∈ Text.segments path, IsPlainName name) → Layered (.field path)
  | literal {value : Literal} : WritableLiteral value → Layered (.literal value)
  | logical {op : LogicalOp} {args : List Expr} :
      2 ≤ args.length → (∀ a ∈ args, Layered a) → Layered (.logical op args)
  | not {arg : Expr} : Layered arg → Layered (.not arg)
  | compare {op : ComparisonOp} {left right : Expr} :
      left.isClosed = true → right.isClosed = true → Layered left → Layered right →
      Layered (.compare op left right)
  | arithmetic {op : ArithmeticOp} {left right : Expr} :
      left.isClosed = true → right.isClosed = true → Layered left → Layered right →
      Layered (.arithmetic op left right)
  | call {func : Func} {args : List Expr} :
      func ≠ .indexOf → arity func args.length = true → ArgumentsFit func args →
      (∀ a ∈ args, a.isClosed = true) → (∀ a ∈ args, Layered a) → Layered (.call func args)
  | regexMatch {input : Expr} {regex : String} {options : Option String} :
      (∀ flags ∈ options, flags ≠ "" ∧ ∀ c ∈ flags.toList, c ∈ knownFlags) →
      input.isClosed = true → Layered input → Layered (.regexMatch input regex options)
  | cond {condition yes no : Expr} :
      Layered condition → Layered yes → Layered no → Layered (.cond condition yes no)
  | switch {branches : List (Expr × Expr)} {default : Option Expr} :
      branches ≠ [] → ¬ (branches.length = 1 ∧ default.isSome = true) →
      (∀ b ∈ branches, Layered b.1) → (∀ b ∈ branches, Layered b.2) →
      (∀ e ∈ default, Layered e) → Layered (.switch branches default)

theorem takenWords_operandWords : ∀ word ∈ takenWords, word ∈ operandWords := by decide

theorem IsPlainName.isName {name : String} (h : IsPlainName name) : IsName name := by
  unfold IsName Lexeme.isOneOf
  cases hkey : (Lexeme.word (identOf name)).keyword? with
  | none => rfl
  | some key =>
    have hupper : key = Text.upper name := by
      unfold identOf at hkey
      split at hkey
      · exact (Option.some.inj hkey).symm
      · cases hkey
    have hnot : key ∉ takenWords := by
      rw [hupper]
      exact fun hmem => h.2 (operandWords_vocabulary (takenWords_operandWords _ hmem))
    simpa using hnot

/-- Closed operands fit on both sides of every operator. -/
theorem writable_compare {op : ComparisonOp} {left right : Expr} (hcl : left.isClosed = true)
    (hcr : right.isClosed = true) (hl : Writable left) (hr : Writable right) :
    Writable (.compare op left right) := by
  have hfront : frontRank left = closedRank := frontRank_of_closed hcl
  have hback : backRank left = 40 := backRank_of_closed hcl
  have hright : frontRank right = closedRank := frontRank_of_closed hcr
  obtain ⟨rfl, rfl⟩ | ⟨rfl, rfl⟩ | hform := comparisonForm_cases op right
  · exact .isNull (by omega) hl
  · exact .isNotNull (by rw [hfront]; decide) (by omega) hl
  · exact .compare hform (by omega) (by rw [hright]; decide) hl hr

theorem writable_substr {args : List Expr} (harity : arity .substr args.length = true)
    (hfit : ArgumentsFit .substr args) (h : ∀ a ∈ args, Writable a) :
    Writable (.call .substr args) := by
  obtain ⟨start, hstart, hnext⟩ := hfit rfl
  have hlen : args.length = 2 ∨ args.length = 3 := by simpa [arity] using harity
  match args, hlen, hstart with
  | [text, position], _, hstart =>
    obtain rfl : position = .int start := Option.some.inj hstart
    exact @Writable.substr text start none hnext (h text (by simp)) (by simp)
  | [text, position, length], _, hstart =>
    obtain rfl : position = .int start := Option.some.inj hstart
    have hlength : ∀ a ∈ some length, Writable a := by simpa using h length (by simp)
    exact @Writable.substr text start (some length) hnext (h text (by simp)) hlength

/-- Expressions in layers are writable. -/
theorem Layered.writable {e : Expr} (h : Layered e) : Writable e := by
  induction h with
  | @field path hnames =>
    refine .field fun name hname => (hnames name ?_).isName
    exact List.mem_of_mem_head? hname
  | literal hvalue => exact .literal hvalue
  | logical hlen _ ih => exact .logical hlen ih
  | not _ ih => exact .not ih
  | compare hcl hcr _ _ ihl ihr => exact writable_compare hcl hcr ihl ihr
  | @arithmetic op left right hcl hcr _ _ ihl ihr =>
    have hrank : arithmeticRank op ≤ 40 := by cases op <;> decide
    refine .arithmetic ?_ ?_ ihl ihr
    · rw [backRank_of_closed hcl]
      exact hrank
    · rw [frontRank_of_closed hcr]
      exact Nat.lt_succ_of_le hrank
  | @call func args hindex harity hfit hclosed _ ih =>
    by_cases hconcat : func = .concat
    · subst hconcat
      have hlen : 2 ≤ args.length := of_decide_eq_true harity
      match args, hlen with
      | first :: second :: rest, _ =>
        obtain ⟨hfirst, hrest⟩ := List.forall_mem_cons.1 ih
        obtain ⟨hcfirst, hcrest⟩ := List.forall_mem_cons.1 hclosed
        refine .concat (List.cons_ne_nil _ _) ?_ (fun a ha => ?_) hfirst hrest
        · exact Nat.le_of_eq (backRank_of_closed hcfirst).symm
        · rw [frontRank_of_closed (hcrest a ha), backRank_of_closed (hcrest a ha)]
          decide
    · by_cases hsubstr : func = .substr
      · subst hsubstr
        exact writable_substr harity hfit ih
      · exact .call hconcat hsubstr hindex harity hclosed ih
  | regexMatch hoptions hclosed _ ih => exact .regexMatch hoptions hclosed ih
  | cond _ _ _ ihc ihy ihn => exact .cond ihc ihy ihn
  | switch hne hmany _ _ _ ihconditions ihvalues ihdefault =>
    exact .switch hne hmany ihconditions ihvalues ihdefault

/-- The generic text of an expression in layers is read back as its normal form. -/
theorem parseExpr_exprText {e : Expr} (h : Layered e) (hlevels : (sqlTree e).nesting < nestingLimit) :
    ∃ text, Dialect.generic.exprText e = .ok text ∧
      parseExpr .generic .empty text = .ok e.sqlNormal :=
  parseExpr_of_writable h.writable hlevels

/-- Columns whose names have no meaning. -/
def plainColumns : List String := ["a", "b", "c", "sale.buyer", "code", "price"]

theorem isPlainName_plainColumns {path : String} (h : path ∈ plainColumns) :
    ∀ name ∈ Text.segments path, IsPlainName name := by
  have hplain : ∀ name ∈ ["a", "b", "c", "sale", "buyer", "code", "price"],
      name ≠ "" ∧ Text.upper name ∉ vocabulary := by
    decide +kernel
  have hsegments : ∀ path ∈ plainColumns,
      ∀ name ∈ Text.segments path, name ∈ ["a", "b", "c", "sale", "buyer", "code", "price"] := by
    decide
  exact fun name hname => hplain name (hsegments path h name hname)

/-- A sale with a known buyer, cheap for its code: three operands, one of them a negated test. -/
def cheapSale : Expr :=
  .logical .and [.compare .ne (.field "sale.buyer") .null,
    .not (.compare .lt (.call .length [.field "code"]) (.field "price")),
    .compare .eq (.arithmetic .subtract (.field "price") (.int (-2))) (.int 3)]

theorem parseExpr_exprText_cheapSale : Layered cheapSale ∧
    (sqlTree cheapSale).nesting < nestingLimit ∧
    ∃ text, Dialect.generic.exprText cheapSale = .ok text ∧
      parseExpr .generic .empty text = .ok cheapSale.sqlNormal := by
  have hbuyer : Layered (.field "sale.buyer") := .field (isPlainName_plainColumns (by decide))
  have hcode : Layered (.field "code") := .field (isPlainName_plainColumns (by decide))
  have hprice : Layered (.field "price") := .field (isPlainName_plainColumns (by decide))
  have hnumber : ∀ n ∈ [(3 : Int64), -2], Layered (.int n) := by
    have hleast : ∀ n ∈ [(3 : Int64), -2], n ≠ Int64.minValue :=
      List.forall_mem_cons.2 ⟨by decide, List.forall_mem_singleton.2 (by decide)⟩
    exact fun n hn => .literal (.int (hleast n hn))
  have hlength : Layered (.call .length [.field "code"]) := by
    refine .call (by decide) rfl ?_ (List.forall_mem_singleton.2 rfl)
      (List.forall_mem_singleton.2 hcode)
    intro h
    cases h
  have hsold : Layered (.compare .ne (.field "sale.buyer") .null) :=
    .compare rfl rfl hbuyer (.literal .null)
  have hlong : Layered (.not (.compare .lt (.call .length [.field "code"]) (.field "price"))) :=
    .not (.compare rfl rfl hlength hprice)
  have hcheap : Layered (.compare .eq (.arithmetic .subtract (.field "price") (.int (-2))) (.int 3)) :=
    .compare rfl rfl (.arithmetic rfl rfl hprice (hnumber _ (by decide))) (hnumber _ (by decide))
  have h : Layered cheapSale :=
    .logical (by decide) (by simpa using ⟨hsold, hlong, hcheap⟩)
  have hlevels : (sqlTree cheapSale).nesting < nestingLimit := by decide
  exact ⟨h, hlevels, parseExpr_exprText h hlevels⟩

/-! ### The limit of nesting -/

/-- More opening parentheses than levels are nested too deeply, whatever stands behind them. -/
theorem subexpression_parentheses {rest : List Lexeme} (hrest : queryAhead rest = false)
    (n strength : Nat) :
    subexpression .generic (level n) strength (List.replicate (n + 1) (.symbol "(") ++ rest)
      = .error .tooDeep := by
  have hstep : ∀ m strength ls, queryAhead ls = false → (level m).expression ls = .error .tooDeep →
      subexpression .generic (level m) strength (.symbol "(" :: ls) = .error .tooDeep := by
    intro m strength ls hquery hinner
    have hoperand : (level m).operand (.symbol "(" :: ls) = .error .tooDeep := by
      refine operand_of_plain (fun r => typedConstant_symbol r _ _) fun op => ?_
      have hitems : commaSeparated (levelWith m op).expression ls = .error .tooDeep := by
        rw [commaSeparated, bind_remaining]
        exact bind_of_error hinner
      have hparens : parenthesized (levelWith m op) ls = .error .tooDeep := by
        rw [parenthesized, bind_get]
        simp only [hquery, Bool.false_eq_true, if_false]
        rw [bind_of_error hitems]
      show (symbolOperand .generic (levelWith m op) "(" >>= collated) ls = _
      exact bind_of_error hparens
    rw [subexpression]
    exact bind_of_error hoperand
  induction n generalizing strength with
  | zero => exact hstep 0 strength rest hrest rfl
  | succ n ih =>
    have hquery : queryAhead (List.replicate (n + 1) (.symbol "(") ++ rest) = false := by
      rw [List.replicate_succ, List.cons_append]
      rfl
    have hinner : (level (n + 1)).expression (List.replicate (n + 1) (.symbol "(") ++ rest)
        = .error .tooDeep := ih 0
    rw [List.replicate_succ, List.cons_append]
    exact hstep (n + 1) strength _ hquery hinner

/-- Sums nested to the left. -/
def nestedSum : Nat → Expr
  | 0 => .field "a"
  | n + 1 => .arithmetic .add (nestedSum n) (.field "b")

/-- The tokens of nested sums. -/
def nestedSumTokens : Nat → List Token
  | 0 => [.ident "a"]
  | n + 1 =>
    Token.parenthesized (Token.infixed (nestedSumTokens n) (.symbol "+") [.ident "b"])

theorem nestedSum_layered (n : Nat) : Layered (nestedSum n) ∧ (nestedSum n).isClosed = true := by
  have hname : ∀ name ∈ ["a", "b"], Layered (.field name) := by
    have hlisted : ∀ name ∈ ["a", "b"], name ∈ plainColumns := by decide
    exact fun name hmem => .field (isPlainName_plainColumns (hlisted name hmem))
  induction n with
  | zero => exact ⟨hname "a" (by decide), rfl⟩
  | succ n ih => exact ⟨.arithmetic ih.2 rfl ih.1 (hname "b" (by decide)), rfl⟩

theorem render_nestedSum (n : Nat) :
    Dialect.generic.render (nestedSum n) = .ok (nestedSumTokens n) ∧ Spelled (nestedSumTokens n) := by
  induction n with
  | zero => exact ⟨rfl, .ident "a"⟩
  | succ n ih =>
    refine ⟨?_, .parenthesized (.infixed ih.2 (.operator (by decide)) (.ident "b"))⟩
    rw [nestedSum, Dialect.render, ih.1]
    rfl

theorem lexemes_nestedSum (n : Nat) : ∃ rest, (nestedSumTokens n).flatMap Token.lexemes
    = List.replicate n (.symbol "(") ++ .word (identOf "a") :: rest := by
  induction n with
  | zero => exact ⟨[], rfl⟩
  | succ n ih =>
    obtain ⟨rest, hrest⟩ := ih
    rw [nestedSumTokens, lexemes_parenthesized, lexemes_infixed, hrest, enclosed, List.append_assoc,
      List.append_assoc, List.replicate_succ]
    exact ⟨_, rfl⟩

/-- Fifty sums nested in each other have a text that the reader refuses. -/
theorem nestedSum_refused : Layered (nestedSum 50) ∧
    ∃ text, Dialect.generic.exprText (nestedSum 50) = .ok text ∧
      parseExpr .generic .empty text = .error .sqlSyntax := by
  obtain ⟨hrendered, hspelled⟩ := render_nestedSum 50
  obtain ⟨rest, hlexemes⟩ := lexemes_nestedSum 50
  refine ⟨(nestedSum_layered 50).1, Dialect.generic.text (nestedSumTokens 50), ?_, ?_⟩
  · rw [Dialect.exprText, hrendered]
    rfl
  · have hdeep : (readings .generic (readers .generic false nestingLimit)).expression
        ((nestedSumTokens 50).flatMap Token.lexemes) = .error .tooDeep := by
      rw [hlexemes]
      have hname : queryAhead (.word (identOf "a") :: rest) = false := rfl
      exact subexpression_parentheses hname 49 0
    have hnone : expression? .generic (Dialect.generic.text (nestedSumTokens 50)) = none := by
      simp only [expression?, lexemes?_text hspelled, Option.bind_eq_bind, Option.bind_some, hdeep]
    rw [parseExpr, hnone]

end Sql

end Polyquery
