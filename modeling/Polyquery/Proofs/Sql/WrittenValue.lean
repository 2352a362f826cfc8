import Polyquery.Proofs.Sql.RoundTrip
import Polyquery.Proofs.Sql.Truth

/-!
# The value of the text of an expression

* `writtenValue`, `writtenTruth` - the value and the truth that the generic text of an expression
  has in a row;
* `writtenValue_compare`, `writtenValue_not`, `writtenValue_foldLogical`, `sqlTree_caseExpr` - their
  laws, one for each form of a condition;
* `writable_foldLogical`, `writable_negatedIf`, `writable_caseExpr` - these forms have such a text;
* `OfText` - the constants that a text may have.
-/

namespace Polyquery.Sql

/-! ### The value of a text -/

section Written

variable (D : Domain) (row : D.Row)

/-- The value of the text of an expression, in which equality to null is unknown. -/
def writtenValue (e : Expr) : Option D.Value := (sqlTree e).value D .unknown row

/-- The truth of the text of an expression. -/
def writtenTruth (e : Expr) : Truth := D.truthOf (writtenValue D row e)

/-- Parentheses keep the value. -/
theorem value_groupedTree (e : Expr) :
    (groupedTree e (sqlTree e)).value D .unknown row = writtenValue D row e := by
  unfold groupedTree
  split
  · rw [Tree.value, writtenValue]
  · rfl

variable {D row}

theorem equated_of_infixed {op : ComparisonOp} {right : Expr}
    (h : comparisonForm op right = .infixed) (nulls : NullEquality)
    (left value : Option D.Value) :
    D.equated nulls op left value right.isNull = D.compared op left value := by
  unfold comparisonForm at h
  cases hnull : right.isNull with
  | false => exact D.equated_of_not_null nulls op left value
  | true =>
    rw [hnull] at h
    refine D.equated_of_order ?_ ?_ nulls left value true
    · rintro rfl
      cases h
    · rintro rfl
      cases h

/-- A comparison is written as a test for null where equality to the constant means one. -/
theorem writtenValue_compare {nulls : NullEquality} {op : ComparisonOp} {left right : Expr}
    (h : nulls = .unknown → right.isNull = true → op ≠ .eq ∧ op ≠ .ne) :
    writtenValue D row (.compare op left right)
      = D.valueOf (D.equated nulls op (writtenValue D row left) (writtenValue D row right)
          right.isNull) := by
  obtain ⟨rfl, rfl⟩ | ⟨rfl, rfl⟩ | hform := comparisonForm_cases op right
  · have htree : sqlTree (.compare .eq left .null) = .isNull false (sqlTree left) := by
      rw [sqlTree]
      rfl
    cases nulls with
    | unknown => exact absurd rfl (h rfl rfl).1
    | test =>
      rw [writtenValue, htree, Tree.value]
      rfl
  · have htree : sqlTree (.compare .ne left .null)
        = .unary .not (.isNull false (sqlTree left)) := by
      rw [sqlTree]
      rfl
    cases nulls with
    | unknown => exact absurd rfl (h rfl rfl).2
    | test =>
      rw [writtenValue, htree, Tree.value, Tree.value, Domain.truthOf_valueOf]
      show D.valueOf (Truth.ofBool _).not = D.valueOf (.ofBool _)
      rw [Truth.not_ofBool]
      show D.valueOf (.ofBool !(writtenValue D row left).isNone) = _
      cases writtenValue D row left <;> rfl
  · have htree : sqlTree (.compare op left right)
        = .binary (.compare op) (sqlTree left) (sqlTree right) := by
      simp only [sqlTree, hform]
    rw [writtenValue, htree, Tree.value, Domain.equated_unknown, equated_of_infixed hform]
    rfl

theorem writtenValue_not (e : Expr) :
    writtenValue D row (.not e) = D.valueOf (writtenTruth D row e).not := by
  rw [writtenValue, sqlTree, Tree.value, value_groupedTree]
  rfl

theorem writtenValue_negatedIf {e : Expr} {t : Truth} (h : writtenValue D row e = D.valueOf t)
    (negated : Bool) :
    writtenValue D row (negatedIf negated e) = D.valueOf (t.negatedIf negated) := by
  cases negated with
  | false => exact h
  | true =>
    show writtenValue D row (.not e) = D.valueOf t.not
    rw [writtenValue_not, writtenTruth, h, Domain.truthOf_valueOf]

theorem writtenValue_pair (op : LogicalOp) (left right : Expr) :
    writtenValue D row (.logical op [left, right])
      = D.valueOf (Truth.connective op (writtenTruth D row left) (writtenTruth D row right)) := by
  rw [writtenValue, sqlTree]
  simp only [operandTrees, Tree.value, truths, value_groupedTree]
  rw [Truth.combine_pair]
  rfl

/-- A chain is written nested to the right and keeps its truth, as the connectives associate. -/
theorem writtenValue_foldLogical {op : LogicalOp} {es : List Expr} {e : Expr}
    (h : 2 ≤ es.length) (hfold : Expr.foldLogical? op es = some e) :
    writtenValue D row e = D.valueOf (.combine op (es.map (writtenTruth D row))) := by
  induction es generalizing e with
  | nil => exact absurd h (by decide)
  | cons first es ih =>
    cases es with
    | nil => exact absurd h (by simp)
    | cons second es =>
      obtain ⟨chain, hchain, rfl⟩ := Option.map_eq_some_iff.1 hfold
      rw [writtenValue_pair, List.map_cons, Truth.combine]
      cases es with
      | nil =>
        obtain rfl : second = chain := Option.some.inj hchain
        rw [List.map_singleton, Truth.combine_singleton]
      | cons third es =>
        have htruth : writtenTruth D row chain
            = .combine op ((second :: third :: es).map (writtenTruth D row)) := by
          rw [writtenTruth, ih (by simp) hchain, Domain.truthOf_valueOf]
        rw [htruth]

/-- A case is written with the same branches. -/
theorem sqlTree_caseExpr (branches : List (Expr × Expr)) (default : Option Expr) :
    sqlTree (caseExpr branches default)
      = .case none (branchTrees branches) (defaultTree default) := by
  unfold caseExpr
  split
  · rw [sqlTree, branchTrees, branchTrees, defaultTree]
  · rw [sqlTree]

end Written

/-! ### Texts of conditions -/

/-- A chain of two or more operands is a connective. -/
theorem foldLogical?_of_many {op : LogicalOp} {es : List Expr} (h : 2 ≤ es.length) :
    ∃ operands, Expr.foldLogical? op es = some (.logical op operands) := by
  induction es with
  | nil => exact absurd h (by decide)
  | cons first es ih =>
    match es, h, ih with
    | [second], _, _ => exact ⟨[first, second], rfl⟩
    | second :: third :: es, _, ih =>
      obtain ⟨operands, hoperands⟩ := ih (by simp)
      refine ⟨[first, .logical op operands], ?_⟩
      rw [Expr.foldLogical?, hoperands, Option.map_some]
      exact fun hnil => List.cons_ne_nil _ _ hnil

theorem writable_foldLogical {op : LogicalOp} {es : List Expr} {e : Expr}
    (h : Expr.foldLogical? op es = some e) (hall : ∀ a ∈ es, Writable a) : Writable e := by
  induction es generalizing e with
  | nil => cases h
  | cons first es ih =>
    obtain ⟨hfirst, hrest⟩ := List.forall_mem_cons.1 hall
    cases es with
    | nil =>
      obtain rfl : first = e := Option.some.inj h
      exact hfirst
    | cons second es =>
      obtain ⟨chain, hchain, rfl⟩ := Option.map_eq_some_iff.1 h
      have hpair : ∀ a ∈ [first, chain], Writable a := by
        simpa using ⟨hfirst, ih hchain hrest⟩
      exact .logical (Nat.le_refl 2) hpair

theorem writable_negatedIf {e : Expr} (h : Writable e) (negated : Bool) :
    Writable (negatedIf negated e) := by
  cases negated with
  | false => exact h
  | true => exact .not h

theorem writable_caseExpr {branches : List (Expr × Expr)} {default : Option Expr}
    (hne : branches ≠ []) (hconditions : ∀ b ∈ branches, Writable b.1)
    (hvalues : ∀ b ∈ branches, Writable b.2) (hdefault : ∀ e ∈ default, Writable e) :
    Writable (caseExpr branches default) := by
  unfold caseExpr
  split
  · exact .cond (hconditions _ List.mem_cons_self) (hvalues _ List.mem_cons_self) (hdefault _ rfl)
  · rename_i hmany
    refine .switch hne ?_ hconditions hvalues hdefault
    rintro ⟨hone, hsome⟩
    obtain ⟨b, rfl⟩ := List.length_eq_one_iff.1 hone
    obtain ⟨otherwise, rfl⟩ := Option.isSome_iff_exists.1 hsome
    exact hmany b.1 b.2 otherwise rfl rfl

/-! ### Constants -/

/-- Numbers other than the least integer and the infinite doubles. -/
def InRange : Literal → Prop
  | .int n => n ≠ Int64.minValue
  | .double f => f.isFinite = true
  | _ => True

/-- The constants that a text may have. -/
inductive OfText : Literal → Prop where
  | null : OfText .null
  | bool (b : Bool) : OfText (.bool b)
  | int (n : Int64) : OfText (.int n)
  | double {f : Double} : f.IsCanonical → OfText (.double f)
  | string (s : String) : OfText (.string s)

theorem OfText.writable {value : Literal} (h : OfText value) (hrange : InRange value) :
    WritableLiteral value := by
  cases h with
  | null => exact .null
  | bool b => exact .bool b
  | int n => exact .int hrange
  | double hcanonical => exact .double hcanonical hrange
  | string s => exact .string s

theorem ofText_toLiteral {c : Constant} {value : Literal} (h : c.toLiteral = .ok value) :
    OfText value := by
  unfold Constant.toLiteral at h
  split at h
  · obtain rfl := Except.ok.inj h
    exact .null
  · obtain rfl := Except.ok.inj h
    exact .bool _
  · unfold numberLiteral at h
    split at h
    · obtain rfl := Except.ok.inj h
      exact .int _
    · split at h
      · rename_i hread
        obtain rfl := Except.ok.inj h
        exact .double (BinaryFloat.parse?_canonical Shortest.printable_double hread)
      · cases h
  · obtain rfl := Except.ok.inj h
    exact .string _
  · obtain rfl := Except.ok.inj h
    exact .string _
  · cases h

theorem OfText.neg {value result : Literal} (h : OfText value) (hneg : value.neg? = .ok result) :
    OfText result := by
  cases h with
  | int n =>
    have hint : (Literal.neg?.negInt n).map Literal.int = .ok result := hneg
    obtain ⟨m, -, rfl⟩ := map_eq_ok.1 hint
    exact .int m
  | double hcanonical =>
    obtain rfl := Except.ok.inj hneg
    exact .double hcanonical.neg
  | _ => cases hneg

theorem ofText_literal? {t : Tree} {value : Literal} (h : t.literal? = some value) :
    OfText value := by
  fun_induction Tree.literal? t generalizing value with
  | case1 c => exact ofText_toLiteral (toOption_eq_some h)
  | case2 inner ih => exact ih h
  | case3 operand ih => exact ih h
  | case4 operand ih =>
    obtain ⟨inner, hinner, hneg⟩ := Option.bind_eq_some_iff.1 h
    exact (ih hinner).neg (toOption_eq_some hneg)
  | case5 => cases h

end Polyquery.Sql
