import Polyquery.Proofs.OData.Leaf
import Polyquery.Proofs.TextPattern

/-!
# Printed expressions read back

The standard text of every printable expression is read as the normal form of that expression.

* `functionText_written`, `PrintablePattern.written` - calls of functions and text tests;
* `Written.connectives`, `concatText_written` - connectives and concatenations of many operands;
* `Prints e` - `e` has a text, written at the level of its outermost operator;
* `Printable.prints` - every printable expression prints, and so does its negation;
* `parseFilter_render` - printing and reading gives the normal form.
-/

namespace Polyquery.OData

/-! ### Calls -/

theorem callText_toList (name : String) (texts : List String) :
    (callText name texts).toList
      = name.toList ++ ('(' :: ([','].intercalate (texts.map String.toList) ++ [')'])) := by
  simp [callText, String.toList_append, String.toList_intercalate]

/-- Texts of expressions that may stand as arguments. -/
abbrev Arguments (rs : Resolvers) : List String → List Expr → Prop :=
  List.Forall₂ fun text e => Written rs .disjunction text.toList e

/-- A call of a built-in name that claims the arguments. -/
theorem call_written {name : String} {texts : List String} {args : List Expr} {e : Expr}
    (hword : IsIdentifier name) (hn : StartsOperand name) (hname : Text.asciiLower name ≠ "case")
    (h : Arguments .empty texts args)
    (he : builtin ⟨Text.asciiLower name, args, false, none⟩
      = .ok ⟨Text.asciiLower name, args, false, some e⟩) :
    Written .empty .primary (callText name texts).toList e := by
  rw [callText_toList]
  exact .call hword hn hname (List.forall₂_map_left_iff.2 h) (Resolvers.resolveMethod_empty he)

theorem functionOf?_functionName (func : Func) : functionOf? (functionName func) = some func := by
  cases func <;> decide

theorem functionName_word (func : Func) :
    IsIdentifier (functionName func) ∧ isOperatorWord (functionName func) = false ∧
      Text.asciiLower (functionName func) = functionName func ∧
      functionName func ∉ ["not", "case"] := by
  cases func <;> decide

/-- The table claims a call of a function with a number of arguments that it accepts. -/
theorem builtin_function {name : String} {func : Func} {args : List Expr}
    (hname : functionOf? name = some func) (hleast : (functionArity func).1 ≤ args.length)
    (hmost : args.length ≤ (functionArity func).2) :
    builtin ⟨name, args, false, none⟩ = .ok ⟨name, args, false, some (.call func args)⟩ := by
  rw [builtin, hname]
  simp only [MethodEvent.claimCall, MethodEvent.expectArgs, if_pos (And.intro hleast hmost),
    Except.map, MethodEvent.claim]

/-- A function call with a number of arguments that the table accepts. -/
theorem functionText_written {func : Func} {texts : List String} {args : List Expr}
    (hleast : (functionArity func).1 ≤ args.length)
    (hmost : args.length ≤ (functionArity func).2) (h : Arguments .empty texts args) :
    Written .empty .primary (callText (functionName func) texts).toList (.call func args) := by
  obtain ⟨hword, hop, hlower, hnot⟩ := functionName_word func
  rw [List.mem_cons, List.mem_singleton, not_or] at hnot
  refine call_written hword ⟨hop, by rw [hlower]; exact hnot.1⟩ (by rw [hlower]; exact hnot.2) h ?_
  rw [hlower]
  exact builtin_function (functionOf?_functionName func) hleast hmost

/-! ### Text tests -/

/-- A call of two arguments, the second a text constant. -/
theorem textCall_written {name inputText argument : String} {input e : Expr}
    (hword : IsIdentifier name) (hn : StartsOperand name) (hname : Text.asciiLower name ≠ "case")
    (h : Written .empty .disjunction inputText.toList input)
    (he : builtin ⟨Text.asciiLower name, [input, .literal (.string argument)], false, none⟩
      = .ok ⟨Text.asciiLower name, [input, .literal (.string argument)], false, some e⟩) :
    Written .empty .primary (callText name [inputText, quote argument]).toList e :=
  call_written hword hn hname
    (.cons h (.cons ((written_string .empty argument).looser (by decide)) .nil)) he

theorem generalMatch_written {inputText pattern : String} {input : Expr}
    (h : Written .empty .disjunction inputText.toList input) :
    Written .empty .primary (callText "matchesPattern" [inputText, quote pattern]).toList
      (patternMatch input pattern) :=
  textCall_written (by decide) ⟨by decide, by decide⟩ (by decide) h rfl

theorem patternMatch_plain {regex : String} (input : Expr)
    (h : ignoreCaseMark.isPrefixOf regex.toList = false) :
    patternMatch input regex = .regexMatch input regex none := by
  rw [patternMatch, h]
  rfl

theorem patternMatch_flagged (input : Expr) (regex : String) :
    patternMatch input ("(?" ++ String.ofList ['i'] ++ ")" ++ regex)
      = .regexMatch input regex (some "i") := by
  have hchars : ("(?" ++ String.ofList ['i'] ++ ")" ++ regex).toList
      = ignoreCaseMark ++ regex.toList := by
    simp [String.toList_append, ignoreCaseMark]
  rw [patternMatch, hchars, List.drop_left, String.ofList_toList]
  rfl

/-- A test without flags of a regular expression of no known shape. -/
theorem textTest_plain {input regex : String} (h : TextPattern.ofRegex? regex = none) :
    textTest input regex none = callText "matchesPattern" [input, quote regex] := by
  rw [textTest, h]
  rfl

theorem textTest_ignoreCase (input regex : String) :
    textTest input regex (some "i")
      = callText "matchesPattern" [input, quote ("(?" ++ String.ofList ['i'] ++ ")" ++ regex)] := by
  have hplain : ((some "i").getD "").isEmpty = false := by decide
  have hflags : patternFlags (some "i") = ['i'] := by decide
  rw [textTest, hplain, hflags]
  cases TextPattern.ofRegex? regex with
  | none => rfl
  | some p => cases p <;> rfl

/-- The call that a text test is printed as. -/
theorem PrintablePattern.written {regex : String} {options : Option String}
    (hp : PrintablePattern regex options) {inputText : String} {input : Expr}
    (h : Written .empty .disjunction inputText.toList input) :
    Written .empty .primary (textTest inputText regex options).toList
      (.regexMatch input regex options) := by
  cases hp with
  | general hnone hflag =>
    rw [textTest_plain hnone, ← patternMatch_plain input hflag]
    exact generalMatch_written h
  | ignoreCase =>
    rw [textTest_ignoreCase, ← patternMatch_flagged]
    exact generalMatch_written h
  | text p =>
    by_cases hrec : p.Recognised
    · rw [textTest, TextPattern.ofRegex?_regex hrec]
      cases p with
      | startsWith s => exact textCall_written (by decide) ⟨by decide, by decide⟩ (by decide) h rfl
      | endsWith s => exact textCall_written (by decide) ⟨by decide, by decide⟩ (by decide) h rfl
      | contains s => exact textCall_written (by decide) ⟨by decide, by decide⟩ (by decide) h rfl
    · rw [textTest_plain (TextPattern.ofRegex?_regex_of_not hrec),
        ← patternMatch_plain input p.regex_not_flagged]
      exact generalMatch_written h

/-- A text test compared with a truth value is the test or its negation. -/
theorem compared_written {test : String} {input e : Expr} {regex : String} {options : Option String}
    {b : Bool} (h : Written .empty .primary test.toList (.regexMatch input regex options))
    (he : comparisonOf .eq (.regexMatch input regex options) (.literal (.bool b)) = e) :
    Written .empty .comparison (test ++ " eq " ++ literalText (.bool b)).toList e := by
  have hb := PrintableLiteral.written (.bool b) .empty
  have hcompare := Written.compare (show comparisonOf? "eq" = some .eq by decide)
    (h.looser (by decide)) (hb.looser (by decide))
  rw [he] at hcompare
  simpa [String.toList_append] using hcompare

/-! ### Chains -/

/-- Texts of two operands and of longer chains give the text of a chain nested to the right. -/
theorem nestRight_forall₂ {node : List Expr → Expr} {Operand : String → Expr → Prop}
    (Chain : String → Expr → Prop) {join : List String → String}
    (last : ∀ {s t x y}, Operand s x → Operand t y → Chain (join [s, t]) (node [x, y]))
    (step : ∀ {s t texts x y}, Operand s x → Chain (join (t :: texts)) y →
      Chain (join (s :: t :: texts)) (node [x, y]))
    {texts : List String} {args : List Expr} (h : List.Forall₂ Operand texts args)
    (hlen : 2 ≤ args.length) : Chain (join texts) (Expr.nestRight node args) := by
  induction h with
  | nil => exact absurd hlen (by decide)
  | cons ha hrest ih =>
    cases hrest with
    | nil => exact absurd hlen (by simp)
    | cons hb hmore =>
      cases hmore with
      | nil => exact last ha hb
      | cons hc hmore => exact step ha (ih (by simp))

/-- A connective between the texts of an operand and a chain. -/
theorem Written.connectiveText {rs : Resolvers} (op : LogicalOp) {s t : String} {x y : Expr}
    (hs : Written rs (operandLevel op) s.toList x)
    (ht : Written rs (connectiveLevel op) t.toList y) :
    Written rs (connectiveLevel op) (s ++ (" " ++ logicalWord op ++ " ") ++ t).toList
      (.logical op [x, y]) := by
  simpa [String.toList_append] using Written.connective op hs ht

/-- Operands with a connective between them. -/
theorem Written.connectives {rs : Resolvers} (op : LogicalOp) {texts : List String}
    {args : List Expr}
    (h : List.Forall₂ (fun text e => Written rs (operandLevel op) text.toList e) texts args)
    (hlen : 2 ≤ args.length) :
    Written rs (connectiveLevel op) ((" " ++ logicalWord op ++ " ").intercalate texts).toList
      (Expr.nestRight (.logical op) args) := by
  refine nestRight_forall₂ (fun text e => Written rs (connectiveLevel op) text.toList e) ?_ ?_ h
    hlen
  · intro s t x y hs ht
    rw [String.intercalate_cons_cons, String.intercalate_singleton]
    exact Written.connectiveText op hs (ht.looser (by have hrank := operandLevel_rank op; omega))
  · intro s t texts x y hs ht
    rw [String.intercalate_cons_cons]
    exact Written.connectiveText op hs ht

/-- A concatenation of many operands as calls of two. -/
theorem concatText_written {texts : List String} {args : List Expr}
    (h : Arguments .empty texts args) (hlen : 2 ≤ args.length) :
    Written .empty .primary (Dialect.concatText texts).toList
      (Expr.nestRight (.call .concat) args) := by
  have hmost : 2 ≤ (functionArity .concat).2 := by decide
  have hcall : ∀ {s t x y}, Written .empty .disjunction s.toList x →
      Written .empty .disjunction t.toList y →
      Written .empty .primary (callText "concat" [s, t]).toList (.call .concat [x, y]) :=
    fun {s t x y} hs ht =>
      show Written .empty .primary (callText (functionName .concat) [s, t]).toList _ from
        functionText_written (Nat.le_refl 2) hmost (.cons hs (.cons ht .nil))
  refine nestRight_forall₂ (fun text e => Written .empty .primary text.toList e) ?_ ?_ h hlen
  · intro s t x y hs ht
    exact hcall hs ht
  · intro s t texts x y hs ht
    exact hcall hs (ht.looser (by decide))

/-! ### Expressions -/

/-- The level of the text of an expression. -/
def textLevel : Expr → Level
  | .logical op _ => connectiveLevel op
  | .not _ => .negation
  | .regexMatch .. => .comparison
  | _ => .primary

/-- An expression has a text, and the text is written at its level as the normal form. -/
def Prints (e : Expr) : Prop :=
  ∃ text, Dialect.standard.render e = .ok text ∧
    Written .empty (textLevel e) text.toList e.normal

theorem Prints.argument {e : Expr} (h : Prints e) :
    ∃ text, Dialect.standard.render e = .ok text ∧
      Written .empty .disjunction text.toList e.normal := by
  obtain ⟨text, hr, hw⟩ := h
  exact ⟨text, hr, hw.looser (by cases textLevel e <;> decide)⟩

theorem textLevel_of_not_compound {e : Expr} (h : isCompound e = false) :
    textLevel e = .primary := by
  cases e <;> first | rfl | cases h

theorem parenthesized_toList (text : String) :
    ("(" ++ text ++ ")").toList = '(' :: (text.toList ++ [')']) := by
  simp [String.toList_append]

/-- An operand of a connective, in parentheses of its own if it needs them. -/
theorem Prints.operand {e : Expr} (h : Prints e) :
    ∃ text, Dialect.standard.render e = .ok text ∧
      Written .empty .primary (if isCompound e then "(" ++ text ++ ")" else text).toList
        e.normal := by
  obtain ⟨text, hr, hw⟩ := h
  refine ⟨text, hr, ?_⟩
  by_cases hc : isCompound e = true
  · rw [if_pos hc, parenthesized_toList]
    exact hw.parenthesized
  · rw [if_neg hc]
    rw [textLevel_of_not_compound (by simpa using hc)] at hw
    exact hw

/-- An expression has a text that stands alone next to any operator. -/
def PrintsAlone (e : Expr) : Prop :=
  ∃ text, Dialect.standard.render e = .ok text ∧ Written .empty .primary text.toList e.normal

/-- An operand of a comparison or of arithmetic. -/
theorem Prints.alone {e : Expr} (h : Prints e) (hc : isCompound e = false) : PrintsAlone e := by
  obtain ⟨text, hr, hw⟩ := h
  rw [textLevel_of_not_compound hc] at hw
  exact ⟨text, hr, hw⟩

theorem renderList_prints {args : List Expr} (h : ∀ a ∈ args, Prints a) :
    ∃ texts, Dialect.standard.renderList args = .ok texts ∧
      Arguments .empty texts (Expr.normalList args) := by
  obtain ⟨texts, hr, hw⟩ := exists_mapM fun a ha => (h a ha).argument
  refine ⟨texts, ?_, ?_⟩
  · rw [Dialect.renderList_eq_mapM, hr]
  · rw [Expr.normalList_eq_map]
    exact List.forall₂_map_right_iff.2 hw.flip

theorem renderOperands_prints {args : List Expr} (h : ∀ a ∈ args, Prints a) :
    ∃ texts, Dialect.standard.renderOperands args = .ok texts ∧
      List.Forall₂ (fun text e => Written .empty .primary text.toList e) texts
        (Expr.normalList args) := by
  have hoperand : ∀ a ∈ args, ∃ operand,
      ((Dialect.standard.render a).map fun text =>
        if isCompound a then "(" ++ text ++ ")" else text) = .ok operand ∧
      Written .empty .primary operand.toList a.normal := by
    intro a ha
    obtain ⟨text, hr, hw⟩ := (h a ha).operand
    refine ⟨_, ?_, hw⟩
    rw [hr]
    rfl
  obtain ⟨texts, hr, hw⟩ := exists_mapM hoperand
  refine ⟨texts, ?_, ?_⟩
  · rw [Dialect.renderOperands_eq_mapM, hr]
  · rw [Expr.normalList_eq_map]
    exact List.forall₂_map_right_iff.2 hw.flip

theorem renderBranches_prints {branches : List (Expr × Expr)}
    (hcondition : ∀ b ∈ branches, Prints b.1) (hvalue : ∀ b ∈ branches, Prints b.2) :
    ∃ texts, Dialect.standard.renderBranches branches = .ok texts ∧
      List.Forall₂ (fun text b => Written.Branch .empty text.toList b) texts
        (Expr.normalBranches branches) := by
  induction branches with
  | nil => exact ⟨[], rfl, .nil⟩
  | cons b branches ih =>
    obtain ⟨condition, hrc, hwc⟩ := (hcondition b List.mem_cons_self).argument
    obtain ⟨value, hrv, hwv⟩ := (hvalue b List.mem_cons_self).argument
    obtain ⟨texts, hrs, hws⟩ := ih (fun b' hb' => hcondition b' (List.mem_cons_of_mem b hb'))
      fun b' hb' => hvalue b' (List.mem_cons_of_mem b hb')
    refine ⟨(condition ++ ":" ++ value) :: texts, ?_, .cons ?_ hws⟩
    · rw [Dialect.renderBranches, hrc, hrv, hrs]
      rfl
    · exact ⟨condition.toList, value.toList, by simp [String.toList_append], hwc, hwv⟩

theorem renderDefault_prints {default : Option Expr} (h : ∀ d ∈ default, Prints d) :
    ∃ texts, Dialect.standard.renderDefault default = .ok texts ∧
      Written.Default .empty (texts.map String.toList) (Expr.normalOption default) := by
  cases default with
  | none => exact ⟨[], rfl, rfl⟩
  | some d =>
    obtain ⟨text, hr, hw⟩ := (h d rfl).argument
    refine ⟨["true:" ++ text], ?_, text.toList, ?_, hw⟩
    · rw [Dialect.renderDefault, hr]
      rfl
    · simp [String.toList_append]

/-! ### One printer case each -/

theorem isCompound_of_sameOperator {e e' : Expr} (h : e.SameOperator e') :
    isCompound e = isCompound e' := by
  cases h <;> rfl

theorem isDefaultMark_of_sameOperator {e e' : Expr} (h : e.SameOperator e') :
    isDefaultMark e = isDefaultMark e' := by
  cases h <;> rfl

theorem comparisonOf_of_not_compound {left : Expr} (op : ComparisonOp) (right : Expr)
    (h : isCompound left = false) : comparisonOf op left right = .compare op left right := by
  cases left <;> first | rfl | cases h

theorem comparisonOf?_comparisonWord (op : ComparisonOp) :
    comparisonOf? (Dialect.standard.comparisonWord op) = some op := by
  cases op <;> decide

/-- A word between two texts, in parentheses. -/
theorem between_toList (left word right : String) :
    ("(" ++ left ++ " " ++ word ++ " " ++ right ++ ")").toList
      = '(' :: ((left.toList ++ (' ' :: (word.toList ++ (' ' :: right.toList)))) ++ [')']) := by
  simp [String.toList_append]

theorem prints_compare {op : ComparisonOp} {left right : Expr} (hl : PrintsAlone left)
    (hr : PrintsAlone right)
    (hplain : comparisonOf op left.normal right.normal = .compare op left.normal right.normal) :
    Prints (.compare op left right) := by
  obtain ⟨l, hrl, hwl⟩ := hl
  obtain ⟨r, hrr, hwr⟩ := hr
  refine ⟨_, Dialect.render_compare hrl hrr, ?_⟩
  rw [between_toList]
  have h := Written.compare (comparisonOf?_comparisonWord op) (hwl.looser (by decide))
    (hwr.looser (by decide))
  rw [hplain] at h
  exact h.parenthesized

theorem written_arithmetic {rs : Resolvers} (op : ArithmeticOp) {a b : List Char} {x y : Expr}
    (ha : Written rs .primary a x) (hb : Written rs .primary b y) :
    Written rs .sum (a ++ (' ' :: ((arithmeticWord op).toList ++ (' ' :: b))))
      (.arithmetic op x y) := by
  have hchain := Written.chain (Chain.operatorOf?_arithmeticWord op) (ha.looser (Nat.zero_le _))
    (hb.looser (Nat.zero_le _))
  exact hchain.looser (Chain.operand_rank _).2

theorem prints_arithmetic {op : ArithmeticOp} {left right : Expr} (hl : PrintsAlone left)
    (hr : PrintsAlone right) : Prints (.arithmetic op left right) := by
  obtain ⟨l, hrl, hwl⟩ := hl
  obtain ⟨r, hrr, hwr⟩ := hr
  refine ⟨_, by rw [Dialect.render, hrl, hrr]; rfl, ?_⟩
  rw [between_toList]
  exact (written_arithmetic op hwl hwr).parenthesized

theorem prints_logical {op : LogicalOp} {args : List Expr} (hlen : 2 ≤ args.length)
    (h : ∀ a ∈ args, Prints a) : Prints (.logical op args) := by
  obtain ⟨texts, hr, hw⟩ := renderOperands_prints h
  refine ⟨_, by rw [Dialect.render, hr]; rfl, ?_⟩
  have hoperands := hw.imp fun text e h => h.looser (m := operandLevel op) (by cases op <;> decide)
  exact .connectives op hoperands (by simpa using hlen)

theorem prints_call {func : Func} {args : List Expr} (hleast : (functionArity func).1 ≤ args.length)
    (hmost : args.length ≤ (functionArity func).2) (h : ∀ a ∈ args, Prints a) :
    Prints (.call func args) := by
  obtain ⟨texts, hr, hw⟩ := renderList_prints h
  by_cases hfunc : func = .concat
  · subst hfunc
    have hlen : 2 ≤ args.length := hleast
    refine ⟨Dialect.concatText texts, ?_, ?_⟩
    · rw [Dialect.render, if_neg (by omega), hr]
      rfl
    · rw [Expr.normal, if_pos rfl]
      exact concatText_written hw (by simpa using hlen)
  · refine ⟨callText (functionName func) texts, ?_, ?_⟩
    · rw [Dialect.render, hr]
      · rfl
      · exact fun h => hfunc h
    · rw [Expr.normal, if_neg hfunc]
      exact functionText_written (by simpa using hleast) (by simpa using hmost) hw

theorem prints_regexMatch {input : Expr} {regex : String} {options : Option String}
    (hp : PrintablePattern regex options) (h : Prints input) :
    Prints (.regexMatch input regex options) ∧ Prints (.not (.regexMatch input regex options)) := by
  obtain ⟨text, hr, hw⟩ := h.argument
  have htest := hp.written hw
  have htrue := compared_written (b := true) htest rfl
  have hfalse := compared_written (b := false) htest rfl
  rw [String.append_assoc] at htrue hfalse
  constructor
  · refine ⟨_, by rw [Dialect.render, hr]; rfl, ?_⟩
    show Written .empty .comparison _ _
    by_cases hmatch : isGeneralMatch (textTest text regex options) = true
    · rw [if_pos hmatch]
      exact htest.looser (by decide)
    · rw [if_neg hmatch]
      exact htrue
  · refine ⟨_, by rw [Dialect.render, hr]; rfl, ?_⟩
    show Written .empty .negation _ _
    exact hfalse.looser (by decide)

/-- The negation of anything but a text test is a word before a text that stands alone. -/
theorem Prints.negated {e : Expr} (h : Prints e)
    (hne : ∀ input regex options, e ≠ .regexMatch input regex options) :
    ∃ text, Dialect.standard.render (.not e) = .ok ("not " ++ text) ∧
      Written .empty .primary text.toList e.normal := by
  obtain ⟨text, hr, hw⟩ := h
  by_cases hcompare : ∃ op left right, e = .compare op left right
  · obtain ⟨op, left, right, rfl⟩ := hcompare
    exact ⟨text, by rw [Dialect.render, hr]; rfl, hw⟩
  · refine ⟨"(" ++ text ++ ")", ?_, ?_⟩
    · rw [Dialect.render, hr]
      · show Except.ok ("not (" ++ text ++ ")") = _
        rw [show "not (" = "not " ++ "(" from rfl]
        simp only [String.append_assoc]
      · exact fun _ _ _ heq => hne _ _ _ heq
      · exact fun _ _ _ heq => hcompare ⟨_, _, _, heq⟩
    · rw [parenthesized_toList]
      exact hw.parenthesized

theorem Prints.not {e : Expr} (h : Prints e)
    (hne : ∀ input regex options, e ≠ .regexMatch input regex options) : Prints (.not e) := by
  obtain ⟨text, hr, hw⟩ := h.negated hne
  refine ⟨"not " ++ text, hr, ?_⟩
  have hnot := Written.not (hw.looser (m := .negation) (show 0 ≤ 4 by decide))
  simpa [String.toList_append, textLevel, Expr.normal] using hnot

theorem prints_cond {condition yes no : Expr} (hmark : isDefaultMark condition = false)
    (hc : Prints condition) (hy : Prints yes) (hn : Prints no) :
    Prints (.cond condition yes no) := by
  obtain ⟨c, hrc, hwc⟩ := hc.argument
  obtain ⟨y, hry, hwy⟩ := hy.argument
  obtain ⟨n, hrn, hwn⟩ := hn.argument
  refine ⟨_, by rw [Dialect.render, hrc, hry, hrn]; rfl, ?_⟩
  have hbranch : Written.Branch .empty (c.toList ++ (':' :: y.toList))
      (condition.normal, yes.normal) := ⟨_, _, rfl, hwc, hwy⟩
  have hdefault : Written.Default .empty ["true".toList ++ (':' :: n.toList)] (some no.normal) :=
    ⟨n.toList, rfl, hwn⟩
  have hplain : isDefaultMark condition.normal = false := by
    rw [isDefaultMark_of_sameOperator condition.sameOperator_normal, hmark]
  have hcase := Written.case (.cons hbranch .nil) (List.forall_mem_singleton.2 hplain) hdefault
    (List.cons_ne_nil _ _)
  simpa [String.toList_append, textLevel, Expr.normal, caseOf] using hcase

theorem normalBranches_length (branches : List (Expr × Expr)) :
    (Expr.normalBranches branches).length = branches.length := by
  induction branches with
  | nil => rfl
  | cons b branches ih => rw [Expr.normalBranches, List.length_cons, List.length_cons, ih]

theorem isDefaultMark_normalBranches {branches : List (Expr × Expr)}
    (h : ∀ b ∈ branches, isDefaultMark b.1 = false) :
    ∀ b ∈ Expr.normalBranches branches, isDefaultMark b.1 = false := by
  induction branches with
  | nil =>
    intro b hb
    cases hb
  | cons b branches ih =>
    intro b' hb'
    rw [Expr.normalBranches] at hb'
    rcases List.mem_cons.1 hb' with rfl | hb'
    · rw [isDefaultMark_of_sameOperator b.1.sameOperator_normal]
      exact h b List.mem_cons_self
    · exact ih (fun c hc => h c (List.mem_cons_of_mem b hc)) b' hb'

/-- Branches and a default stay a switch, unless they are one branch with a default. -/
theorem caseOf_eq_switch {branches : List (Expr × Expr)} {default : Option Expr}
    (h : ¬ (branches.length = 1 ∧ default.isSome = true)) :
    caseOf branches default = .switch branches default := by
  unfold caseOf
  split
  · exact absurd ⟨rfl, rfl⟩ h
  · rfl

theorem prints_switch {branches : List (Expr × Expr)} {default : Option Expr}
    (hne : branches ≠ [] ∨ default.isSome = true)
    (hcond : ¬ (branches.length = 1 ∧ default.isSome = true))
    (hmark : ∀ b ∈ branches, isDefaultMark b.1 = false) (hc : ∀ b ∈ branches, Prints b.1)
    (hv : ∀ b ∈ branches, Prints b.2) (hd : ∀ d ∈ default, Prints d) :
    Prints (.switch branches default) := by
  obtain ⟨parts, hrp, hwp⟩ := renderBranches_prints hc hv
  obtain ⟨last, hrl, hwl⟩ := renderDefault_prints hd
  refine ⟨_, by rw [Dialect.render, hrp, hrl]; rfl, ?_⟩
  have hsome : (Expr.normalOption default).isSome = default.isSome := by cases default <;> rfl
  have htexts : parts.map String.toList ++ last.map String.toList ≠ [] := by
    intro hnil
    obtain ⟨hparts, hlast⟩ := List.append_eq_nil_iff.1 hnil
    obtain rfl := List.map_eq_nil_iff.1 hparts
    rcases hne with hne | hne
    · have hlength := hwp.length_eq
      rw [normalBranches_length] at hlength
      exact hne (List.length_eq_zero_iff.1 hlength.symm)
    · obtain ⟨d, rfl⟩ := Option.isSome_iff_exists.1 hne
      obtain ⟨v, hv, -⟩ := hwl
      rw [hlast] at hv
      cases hv
  have hcase := Written.case (List.forall₂_map_left_iff.2 hwp) (isDefaultMark_normalBranches hmark)
    hwl htexts
  rw [caseOf_eq_switch (by rw [normalBranches_length, hsome]; exact hcond)] at hcase
  show Written .empty .primary _ (.switch _ _)
  simpa [String.toList_append, String.toList_intercalate] using hcase

/-! ### Every expression -/

theorem Prints.withNot {e : Expr} (h : Prints e)
    (hne : ∀ input regex options, e ≠ .regexMatch input regex options) :
    Prints e ∧ Prints (.not e) := ⟨h, h.not hne⟩

/-- Every printable expression prints, and so does its negation.  The negation is carried along
because a negated text test is printed from the input of the test, not from its text. -/
theorem Printable.prints {e : Expr} (h : Printable e) : Prints e ∧ Prints (.not e) := by
  induction h with
  | @field path hp =>
    have hprints : Prints (.field path) := ⟨_, rfl, hp.written⟩
    exact hprints.withNot (by simp)
  | @literal value hp =>
    have hprints : Prints (.literal value) := ⟨_, rfl, hp.written .empty⟩
    exact hprints.withNot (by simp)
  | @compare op left right hcl hcr _ _ ihl ihr =>
    have hcompound : isCompound left.normal = false := by
      rw [isCompound_of_sameOperator left.sameOperator_normal, hcl]
    have hplain := comparisonOf_of_not_compound op right.normal hcompound
    exact (prints_compare (ihl.1.alone hcl) (ihr.1.alone hcr) hplain).withNot (by simp)
  | arithmetic hcl hcr _ _ ihl ihr =>
    exact (prints_arithmetic (ihl.1.alone hcl) (ihr.1.alone hcr)).withNot (by simp)
  | logical hlen _ ih => exact (prints_logical hlen fun a ha => (ih a ha).1).withNot (by simp)
  | not _ ih => exact ih.2.withNot (by simp)
  | call hleast hmost _ ih =>
    exact (prints_call hleast hmost fun a ha => (ih a ha).1).withNot (by simp)
  | regexMatch hp _ ih => exact prints_regexMatch hp ih.1
  | cond hmark _ _ _ ihc ihy ihn =>
    exact (prints_cond hmark ihc.1 ihy.1 ihn.1).withNot (by simp)
  | switch hne hcond hmark _ _ _ ihc ihv ihd =>
    have hprints := prints_switch hne hcond hmark (fun b hb => (ihc b hb).1)
      (fun b hb => (ihv b hb).1) fun d hd => (ihd d hd).1
    exact hprints.withNot (by simp)

/-- A printable expression has a standard text, which reads back as its normal form. -/
theorem parseFilter_render {e : Expr} (h : Printable e) :
    ∃ text, Dialect.standard.render e = .ok text ∧
      parseFilter .empty text.toList = .ok e.normal := by
  obtain ⟨text, hr, hw⟩ := h.prints.1
  exact ⟨text, hr, hw.parseFilter⟩

/-- Three operands: a comparison of a joined member, a negated test of a text with a quote in it,
and a conditional. -/
theorem parseFilter_render_three :
    let older : Expr := .compare .gt (.field "Owner.Age") (.int (-5))
    let named : Expr := .not ((Expr.field "Name").contains "it's")
    let chosen : Expr := .cond older (.bool false) (.call .length [.field "Name"])
    ∃ text, Dialect.standard.render (.logical .and [older, named, chosen]) = .ok text ∧
      parseFilter .empty text.toList
        = .ok (.logical .and [older, .logical .and [named, chosen]]) := by
  have path : ∀ p ∈ ["Owner.Age", "Name"], Printable (.field p) := by
    intro p hp
    refine .field ⟨?_, ?_, ?_⟩ <;> revert p <;> decide
  have older : Printable (.compare .gt (.field "Owner.Age") (.int (-5))) :=
    .compare rfl rfl (path _ (by decide)) (.literal (.int _))
  have name : Printable (.field "Name") := path _ (by decide)
  refine parseFilter_render (e := .logical .and [_, _, _]) (.logical (by decide) ?_)
  simp only [List.forall_mem_cons, List.not_mem_nil, false_imp_iff, implies_true, and_true]
  refine ⟨older, .not (.regexMatch (.text (.contains "it's")) name),
    .cond rfl older (.literal (.bool false)) (.call (by decide) (by decide) ?_)⟩
  simpa using name

end Polyquery.OData
