import Polyquery.Proofs.OData.RoundTrip

/-!
# Operands that are conditions themselves

A connective puts its compound operands in parentheses; a comparison and an arithmetic operation put
only themselves in parentheses.  So a general match, which is printed as a call, stays an operand of
theirs, and every other condition is read with what stands next to it.

* `standsAlone` - whether the text of an expression is one operand next to any operator;
* `Enclosed`, `parseFilter_of_enclosed` - expressions with only such operands read back;
* `parseFilter_compare_logical`, `parseFilter_compare_not`, `parseFilter_arithmetic_test` - how the
  others are read.
-/

namespace Polyquery.OData

/-! ### Operands that stand alone -/

/-- Whether a test is printed as a function of its shape. -/
def isShapeTest (regex : String) (options : Option String) : Bool :=
  (TextPattern.ofRegex? regex).isSome && (options.getD "").isEmpty

/-- Whether the text of an expression stands alone next to any operator. -/
def standsAlone : Expr → Bool
  | .logical .. | .not _ => false
  | .regexMatch _ regex options => !isShapeTest regex options
  | _ => true

/-- Whether an expression is a test of a text. -/
def isTest : Expr → Bool
  | .regexMatch .. => true
  | _ => false

/-- Whether an expression is a truth value. -/
def isTruth : Expr → Bool
  | .literal (.bool _) => true
  | _ => false

/-- Expressions whose comparisons and arithmetic have operands that stand alone.  A test on the left
of a truth value may be ordered against it; equated with it, the two are read as the test. -/
inductive Enclosed : Expr → Prop where
  | field {path : String} : PrintablePath path → Enclosed (.field path)
  | literal {value : Literal} : PrintableLiteral value → Enclosed (.literal value)
  | compare {op : ComparisonOp} {left right : Expr} :
      standsAlone left = true → standsAlone right = true →
      (op = .eq ∨ op = .ne → (isTest left && isTruth right) = false) →
      Enclosed left → Enclosed right → Enclosed (.compare op left right)
  | arithmetic {op : ArithmeticOp} {left right : Expr} :
      standsAlone left = true → standsAlone right = true → Enclosed left → Enclosed right →
      Enclosed (.arithmetic op left right)
  | logical {op : LogicalOp} {args : List Expr} :
      2 ≤ args.length → (∀ a ∈ args, Enclosed a) → Enclosed (.logical op args)
  | not {arg : Expr} : Enclosed arg → Enclosed (.not arg)
  | call {func : Func} {args : List Expr} :
      (functionArity func).1 ≤ args.length → args.length ≤ (functionArity func).2 →
      (∀ a ∈ args, Enclosed a) → Enclosed (.call func args)
  | regexMatch {input : Expr} {regex : String} {options : Option String} :
      PrintablePattern regex options → Enclosed input →
      Enclosed (.regexMatch input regex options)
  | cond {condition yes no : Expr} :
      isDefaultMark condition = false → Enclosed condition → Enclosed yes → Enclosed no →
      Enclosed (.cond condition yes no)
  | switch {branches : List (Expr × Expr)} {default : Option Expr} :
      (branches ≠ [] ∨ default.isSome = true) →
      ¬ (branches.length = 1 ∧ default.isSome = true) →
      (∀ b ∈ branches, isDefaultMark b.1 = false) →
      (∀ b ∈ branches, Enclosed b.1) → (∀ b ∈ branches, Enclosed b.2) →
      (∀ d ∈ default, Enclosed d) → Enclosed (.switch branches default)

/-! ### Their texts -/

/-- A test of no shape is printed as a general match. -/
theorem isGeneralMatch_of_not_shape {regex : String} {options : Option String}
    (h : isShapeTest regex options = false) (input : String) :
    isGeneralMatch (textTest input regex options) = true := by
  have hgeneral : ∀ pattern,
      isGeneralMatch (callText "matchesPattern" [input, quote pattern]) = true := by
    intro pattern
    have hchars : (callText "matchesPattern" [input, quote pattern]).toList
        = "matchesPattern(".toList ++ ([','].intercalate [input.toList, (quote pattern).toList]
            ++ [')']) := by
      rw [callText_toList]
      simp
    rw [isGeneralMatch, hchars]
    simp
  unfold textTest
  unfold isShapeTest at h
  cases hshape : TextPattern.ofRegex? regex with
  | none => exact hgeneral _
  | some p =>
    rw [hshape] at h
    have hflags : (options.getD "").isEmpty = false := by simpa using h
    rw [hflags]
    cases p <;> exact hgeneral _

/-- A test of no shape stands alone. -/
theorem printsAlone_regexMatch {input : Expr} {regex : String} {options : Option String}
    (hp : PrintablePattern regex options) (hshape : isShapeTest regex options = false)
    (h : Prints input) : PrintsAlone (.regexMatch input regex options) := by
  obtain ⟨text, hr, hw⟩ := h.argument
  refine ⟨textTest text regex options, ?_, hp.written hw⟩
  rw [Dialect.render, hr]
  show Except.ok (if isGeneralMatch (textTest text regex options) then _ else _) = _
  rw [if_pos (isGeneralMatch_of_not_shape hshape text)]

theorem isTest_of_sameOperator {e e' : Expr} (h : e.SameOperator e') : isTest e = isTest e' := by
  cases h <;> rfl

theorem isTruth_of_sameOperator {e e' : Expr} (h : e.SameOperator e') :
    isTruth e = isTruth e' := by
  cases h <;> rfl

/-- Only a test that is equated with a truth value is read as something else than a comparison. -/
theorem comparisonOf_normal {op : ComparisonOp} {left right : Expr}
    (h : op = .eq ∨ op = .ne → (isTest left && isTruth right) = false) :
    comparisonOf op left.normal right.normal = .compare op left.normal right.normal := by
  rw [← isTest_of_sameOperator left.sameOperator_normal,
    ← isTruth_of_sameOperator right.sameOperator_normal] at h
  unfold comparisonOf
  split
  · rename_i hl hr
    rw [hl, hr] at h
    cases op with
    | eq => cases h (.inl rfl)
    | ne => cases h (.inr rfl)
    | gt | gte | lt | lte => rfl
  · rfl

/-- Every enclosed expression prints, and so does its negation; it stands alone if it may. -/
theorem Enclosed.prints {e : Expr} (h : Enclosed e) :
    (Prints e ∧ Prints (.not e)) ∧ (standsAlone e = true → PrintsAlone e) := by
  have plain : ∀ {e : Expr}, Prints e → isCompound e = false →
      (Prints e ∧ Prints (.not e)) ∧ (standsAlone e = true → PrintsAlone e) := by
    intro e he hc
    refine ⟨he.withNot ?_, fun _ => he.alone hc⟩
    rintro input regex options rfl
    cases hc
  induction h with
  | @field path hp => exact plain ⟨_, rfl, hp.written⟩ rfl
  | @literal value hp => exact plain ⟨_, rfl, hp.written .empty⟩ rfl
  | @compare op left right hal har htest _ _ ihl ihr =>
    exact plain (prints_compare (ihl.2 hal) (ihr.2 har) (comparisonOf_normal htest)) rfl
  | arithmetic hal har _ _ ihl ihr => exact plain (prints_arithmetic (ihl.2 hal) (ihr.2 har)) rfl
  | logical hlen _ ih =>
    exact ⟨(prints_logical hlen fun a ha => (ih a ha).1.1).withNot (by simp), fun h => by cases h⟩
  | not _ ih => exact ⟨ih.1.2.withNot (by simp), fun h => by cases h⟩
  | call hleast hmost _ ih =>
    exact plain (prints_call hleast hmost fun a ha => (ih a ha).1.1) rfl
  | regexMatch hp _ ih =>
    exact ⟨prints_regexMatch hp ih.1.1, fun h =>
      printsAlone_regexMatch hp (by simpa [standsAlone] using h) ih.1.1⟩
  | cond hmark _ _ _ ihc ihy ihn => exact plain (prints_cond hmark ihc.1.1 ihy.1.1 ihn.1.1) rfl
  | switch hne hcond hmark _ _ _ ihc ihv ihd =>
    exact plain (prints_switch hne hcond hmark (fun b hb => (ihc b hb).1.1)
      (fun b hb => (ihv b hb).1.1) fun d hd => (ihd d hd).1.1) rfl

/-- An expression whose comparisons and arithmetic have operands that stand alone reads back as its
normal form. -/
theorem parseFilter_of_enclosed {e : Expr} (h : Enclosed e) :
    ∃ text, Dialect.standard.render e = .ok text ∧
      parseFilter .empty text.toList = .ok e.normal := by
  obtain ⟨text, hr, hw⟩ := h.prints.1.1
  exact ⟨text, hr, hw.parseFilter⟩

theorem enclosed_abcn : ∀ name ∈ ["a", "b", "c", "n"], Enclosed (.field name) := by
  intro name hname
  refine .field ⟨?_, ?_, ?_⟩ <;> revert name <;> decide

/-- A field compared with a general match. -/
theorem parseFilter_of_enclosed_match :
    let e : Expr := .compare .eq (.field "b") (.regexMatch (.field "n") "x+" none)
    Enclosed e ∧ ∃ text, Dialect.standard.render e = .ok text ∧
      parseFilter .empty text.toList = .ok e.normal := by
  have hmatch : Enclosed (.regexMatch (.field "n") "x+" none) :=
    .regexMatch (.general (by decide) (by decide)) (enclosed_abcn "n" (by decide))
  have hwhole : Enclosed (.compare .eq (.field "b") (.regexMatch (.field "n") "x+" none)) :=
    .compare rfl (by decide) (fun _ => rfl) (enclosed_abcn "b" (by decide)) hmatch
  exact ⟨hwhole, parseFilter_of_enclosed hwhole⟩

/-! ### Operands that do not stand alone -/

/-- A connective on the left of a comparison is read as the connective of its first operand and the
comparison of its second one. -/
theorem parseFilter_compare_logical {op : ComparisonOp} {k : LogicalOp} {first second right : Expr}
    (hf : Enclosed first) (hs : Enclosed second) (hr : Enclosed right)
    (halone : standsAlone right = true) :
    ∃ text, Dialect.standard.render (.compare op (.logical k [first, second]) right) = .ok text ∧
      parseFilter .empty text.toList
        = .ok (.logical k [first.normal, comparisonOf op second.normal right.normal]) := by
  obtain ⟨f, hrf, hwf⟩ := hf.prints.1.1.operand
  obtain ⟨s, hrs, hws⟩ := hs.prints.1.1.operand
  obtain ⟨r, hrr, hwr⟩ := hr.prints.2 halone
  generalize htextf : (if isCompound first then "(" ++ f ++ ")" else f) = f' at hwf
  generalize htexts : (if isCompound second then "(" ++ s ++ ")" else s) = s' at hws
  have hleft : Dialect.standard.render (.logical k [first, second])
      = .ok (f' ++ (" " ++ logicalWord k ++ " ") ++ s') := by
    rw [← htextf, ← htexts, Dialect.render]
    simp only [Dialect.renderOperands, hrf, hrs]
    rfl
  refine ⟨_, Dialect.render_compare hleft hrr, ?_⟩
  have hcompare := Written.compare (comparisonOf?_comparisonWord op) (hws.looser (by decide))
    (hwr.looser (by decide))
  have hlevel : Level.comparison.rank ≤ (connectiveLevel k).rank := by cases k <;> decide
  have hoperand : Level.primary.rank ≤ (operandLevel k).rank := Nat.zero_le _
  have hwhole := (Written.connectiveText k (hwf.looser hoperand) (t := String.ofList _)
    (by rw [String.toList_ofList]; exact hcompare.looser hlevel)).parenthesized
  have hread := hwhole.parseFilter
  simpa [String.toList_append] using hread

/-- `(a or b) eq c` is printed without the inner parentheses, and so reads as `a or (b eq c)`. -/
theorem compared_connective_regrouped :
    let e : Expr := .compare .eq (.logical .or [.field "a", .field "b"]) (.field "c")
    ∃ text, Dialect.standard.render e = .ok text ∧
      parseFilter .empty text.toList
        = .ok (.logical .or [.field "a", .compare .eq (.field "b") (.field "c")]) ∧
      parseFilter .empty text.toList ≠ .ok e := by
  have hfields := enclosed_abcn
  obtain ⟨text, hprint, hread⟩ := @parseFilter_compare_logical .eq .or _ _ _
    (hfields "a" (by decide)) (hfields "b" (by decide)) (hfields "c" (by decide)) rfl
  have hread' : parseFilter .empty text.toList
      = .ok (.logical .or [.field "a", .compare .eq (.field "b") (.field "c")]) := hread
  refine ⟨text, hprint, hread', ?_⟩
  rw [hread']
  intro h
  injection h with h
  cases h

/-- A negation on the left of a comparison is read as the negation of the comparison. -/
theorem parseFilter_compare_not {op : ComparisonOp} {arg right : Expr} (ha : Enclosed arg)
    (hr : Enclosed right) (htest : isTest arg = false) (halone : standsAlone right = true) :
    ∃ text, Dialect.standard.render (.compare op (.not arg) right) = .ok text ∧
      parseFilter .empty text.toList = .ok (.not (comparisonOf op arg.normal right.normal)) := by
  have hne : ∀ input regex options, arg ≠ .regexMatch input regex options := by
    rintro input regex options rfl
    cases htest
  obtain ⟨a, hra, hwa⟩ := ha.prints.1.1.negated hne
  obtain ⟨r, hrr, hwr⟩ := hr.prints.2 halone
  refine ⟨_, Dialect.render_compare hra hrr, ?_⟩
  have hcompare := Written.compare (comparisonOf?_comparisonWord op) (hwa.looser (by decide))
    (hwr.looser (by decide))
  have hnot := Written.not (hcompare.looser (m := .negation) (by decide))
  have hread := hnot.parenthesized.parseFilter
  simpa [String.toList_append] using hread

/-- A test on the right of arithmetic is read as a comparison of the whole with `true`. -/
theorem parseFilter_arithmetic_test {op : ArithmeticOp} {left input : Expr} {regex : String}
    {options : Option String} (hl : Enclosed left) (halone : standsAlone left = true)
    (hp : PrintablePattern regex options) (hi : Enclosed input)
    (hshape : ∀ text, isGeneralMatch (textTest text regex options) = false) :
    ∃ text,
      Dialect.standard.render (.arithmetic op left (.regexMatch input regex options)) = .ok text ∧
      parseFilter .empty text.toList
        = .ok (.compare .eq (.arithmetic op left.normal (.regexMatch input.normal regex options))
            (.literal (.bool true))) := by
  obtain ⟨l, hrl, hwl⟩ := hl.prints.2 halone
  obtain ⟨i, hri, hwi⟩ := hi.prints.1.1.argument
  have htest := hp.written hwi
  have hright : Dialect.standard.render (.regexMatch input regex options)
      = .ok (textTest i regex options ++ " eq true") := by
    rw [Dialect.render, hri]
    show Except.ok (if isGeneralMatch (textTest i regex options) then _ else _) = _
    rw [hshape]
    rfl
  refine ⟨_, by rw [Dialect.render, hrl, hright]; rfl, ?_⟩
  have hwhole := Written.compare (show comparisonOf? "eq" = some .eq by decide)
    (written_arithmetic op hwl htest)
    ((@Written.true_text .empty).looser (by decide))
  have hread := hwhole.parenthesized.parseFilter
  simpa [String.toList_append, comparisonOf] using hread

end Polyquery.OData
