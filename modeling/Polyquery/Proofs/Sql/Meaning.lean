import Polyquery.Proofs.Outcome
import Polyquery.Proofs.Number.Layout
import Polyquery.Proofs.Unresolved
import Polyquery.Sql.Reader

/-!
# The meaning of numbers, names and chains

* `numberLiteral_natText`, `neg?_natural` - whole numbers and their negation;
* `toExpr_path` - qualified names;
* `toExprs_of_forall₂`, `toExprs_map` - listed trees are read one by one;
* `operands_of_ne_chain`, `foldl_joined` - operands joined one by one make one flat chain.
-/

namespace Polyquery.Sql

/-! ### Numbers -/

theorem to64?_natural {n : Nat} (h : n < Nat.pow 2 63) :
    Integer.to64? n = some (Int64.ofNat n) := by
  rw [← Int64.toInt_ofNat_of_lt h, Integer.to64?_toInt]

theorem numberLiteral_natText {n : Nat} (h : n < Nat.pow 2 63) :
    numberLiteral (Integer.natText n) = .ok (.int (Int64.ofNat n)) := by
  rw [numberLiteral, Integer.natText, String.toList_ofList, Integer.parse64?_toDigits,
    to64?_natural h]

theorem natAbs_lt {n : Int64} (h : n ≠ Int64.minValue) : n.toInt.natAbs < Nat.pow 2 63 := by
  have hlow := Int64.le_toInt n
  have hhigh := Int64.toInt_lt n
  have hne : n.toInt ≠ Int64.minValue.toInt := fun heq => h (Int64.toInt_inj.1 heq)
  have hmin : Int64.minValue.toInt = -2 ^ 63 := by decide
  show n.toInt.natAbs < 2 ^ 63
  omega

theorem neg?_natural {n : Int64} (hn : n < 0) (h : n ≠ Int64.minValue) :
    (Literal.int (Int64.ofNat n.toInt.natAbs)).neg? = .ok (.int n) := by
  have hneg : -(Int64.ofNat n.toInt.natAbs).toInt = n.toInt := by
    have hlt : n.toInt < 0 := Int64.lt_iff_toInt_lt.1 hn
    rw [Int64.toInt_ofNat_of_lt (natAbs_lt h)]
    omega
  show (Literal.neg?.negInt (Int64.ofNat n.toInt.natAbs)).map Literal.int = _
  rw [Literal.neg?.negInt, hneg, Integer.to64?_toInt]
  rfl

theorem ofNat_natAbs {n : Int64} (hn : ¬ n < 0) (h : n ≠ Int64.minValue) :
    Int64.ofNat n.toInt.natAbs = n := by
  have hge : ¬ n.toInt < 0 := fun hlt => hn (Int64.lt_iff_toInt_lt.2 hlt)
  rw [← Int64.toInt_inj, Int64.toInt_ofNat_of_lt (natAbs_lt h)]
  omega

/-- A double is read from its digits; they have a point or an exponent. -/
theorem numberLiteral_render {m : Nat} {e : Int} (h : BinaryFloat.Canonical .double m e) :
    numberLiteral (NumberLayout.literal.render (.finite false m e : Double))
      = .ok (.double (.finite false m e)) := by
  obtain ⟨cs, n, x, hwrites, htext, -⟩ :=
    NumberLayout.literal.render_writes Shortest.printable_double h
  obtain ⟨c, rest, rfl, hc⟩ := hwrites.head
  have hplain := NumberLayout.literal.not_allDigits_render rfl (F := .double) false m e
  have hread := NumberLayout.literal.parse?_render Shortest.printable_double
    (f := .finite false m e) h
  rw [htext] at hplain hread
  rw [htext, numberLiteral]
  simp only [Bool.false_eq_true, if_false, String.toList_ofList] at hplain hread ⊢
  have hall : (c :: rest).all Text.isAsciiDigit = false := by
    rw [← Bool.not_eq_true, List.all_eq_true]
    exact hplain
  have hnone : Integer.parse64? (c :: rest) = none := by
    rw [Integer.parse64?, BinaryFloat.splitSign_of_digit hc]
    simp only [Integer.ofDigits64?, hall, Bool.not_false, Bool.or_true, if_true]
  rw [hnone]
  simp only [hread]

/-! ### Constants -/

/-- The constant that a tree is, behind signs and in parentheses. -/
def Tree.literal? : Tree → Option Literal
  | .constant value => value.toLiteral.toOption
  | .nested inner => inner.literal?
  | .unary .plus operand => operand.literal?
  | .unary .minus operand => operand.literal?.bind fun value => value.neg?.toOption
  | _ => none

/-- The tree of a constant means the constant. -/
theorem toExpr_of_literal? {t : Tree} {value : Literal} (h : t.literal? = some value) :
    t.toExpr .empty = .ok (.literal value) := by
  fun_induction Tree.literal? t generalizing value with
  | case1 c =>
    rw [Tree.toExpr, toOption_eq_some h]
    rfl
  | case2 inner ih => rw [Tree.toExpr_nested, ih h]
  | case3 operand ih =>
    rw [Tree.toExpr]
    exact ih h
  | case4 operand ih =>
    obtain ⟨inner, hinner, hneg⟩ := Option.bind_eq_some_iff.1 h
    rw [Tree.toExpr, ih hinner]
    show inner.neg?.map Expr.literal = _
    rw [toOption_eq_some hneg]
    rfl
  | case5 => cases h

/-! ### Names -/

/-- Several names are one dotted path. -/
theorem toExpr_path {idents : List Ident} (h : 2 ≤ idents.length) :
    (Tree.path idents).toExpr .empty = .ok (.field (".".intercalate (idents.map Ident.value))) := by
  have hne : idents ≠ [] := by
    rintro rfl
    exact absurd h (by decide)
  have hlast := List.getLast?_eq_some_getLast hne
  have hvalue : (idents.map Ident.value).getLast? = some (idents.getLast hne).value := by
    rw [List.getLast?_map, hlast]
    rfl
  have hinit : (idents.dropLast.map Ident.value).isEmpty = false := by
    have hlen : 1 ≤ idents.dropLast.length := by
      rw [List.length_dropLast]
      omega
    rw [List.isEmpty_eq_false_iff, Ne, List.map_eq_nil_iff]
    rintro hnil
    rw [hnil] at hlen
    exact absurd hlen (by decide)
  have hnames : idents.map Ident.value ≠ [] := by
    rw [Ne, List.map_eq_nil_iff]
    exact hne
  have hjoined := Text.intercalate_dropLast hnames
  rw [hvalue, ← List.map_dropLast, if_neg (by simpa using hinit)] at hjoined
  rw [Tree.toExpr, hlast, ← hjoined]
  rfl

/-! ### Lists -/

/-- Trees are read one by one. -/
theorem toExprs_of_forall₂ {rs : Resolvers} {ts : List Tree} {es : List Expr}
    (h : List.Forall₂ (fun t e => t.toExpr rs = .ok e) ts es) : toExprs rs ts = .ok es := by
  induction h with
  | nil => rfl
  | cons hfirst _ ih =>
    rw [toExprs, hfirst, ih]
    rfl

theorem toExprs_map {α : Type} {rs : Resolvers} {tree : α → Tree} {meaning : α → Expr}
    {items : List α} (h : ∀ a ∈ items, (tree a).toExpr rs = .ok (meaning a)) :
    toExprs rs (items.map tree) = .ok (items.map meaning) := by
  refine toExprs_of_forall₂ ?_
  rw [List.forall₂_map_left_iff, List.forall₂_map_right_iff, List.forall₂_same]
  exact h

/-- Values are arguments like any other trees. -/
theorem toArguments_values (rs : Resolvers) (ts : List Tree) :
    toArguments rs (ts.map .value) = toExprs rs ts := by
  induction ts with
  | nil => rfl
  | cons t ts ih => rw [List.map_cons, toArguments, toExprs, ih]

/-! ### Chains -/

/-- Joining more operands to a chain keeps its operator. -/
theorem foldl_joined_chain (op : ChainOp) (ts operands : List Tree) :
    ∃ operands', ts.foldl (Tree.joined op) (.chain op operands) = .chain op operands' := by
  induction ts generalizing operands with
  | nil => exact ⟨operands, rfl⟩
  | cons t ts ih => exact ih ((Tree.chain op operands).operands op ++ t.operands op)

/-- Operands that are no chains of the same operator make one flat chain. -/
theorem foldl_joined_operands {op : ChainOp} {ts : List Tree} (h : ∀ t ∈ ts, t.operands op = [t])
    (operands : List Tree) :
    ts.foldl (Tree.joined op) (.chain op operands) = .chain op (operands ++ ts) := by
  induction ts generalizing operands with
  | nil => rw [List.foldl_nil, List.append_nil]
  | cons t ts ih =>
    have hself : (Tree.chain op operands).operands op = operands := if_pos rfl
    rw [List.foldl_cons, Tree.joined, hself, h t List.mem_cons_self,
      ih fun u hu => h u (List.mem_cons_of_mem t hu), List.append_assoc]
    rfl

/-- Two or more such operands, joined from the first one on. -/
theorem foldl_joined {op : ChainOp} {t : Tree} {ts : List Tree} (hne : ts ≠ [])
    (h : ∀ u ∈ t :: ts, u.operands op = [u]) :
    ts.foldl (Tree.joined op) t = .chain op (t :: ts) := by
  obtain ⟨u, ts, rfl⟩ := List.exists_cons_of_ne_nil hne
  have hfirst : Tree.joined op t u = .chain op [t, u] := by
    rw [Tree.joined, h t (by simp), h u (by simp)]
    rfl
  rw [List.foldl_cons, hfirst, foldl_joined_operands fun v hv => h v (by simp [hv])]
  rfl

theorem operands_of_ne_chain {op : ChainOp} {t : Tree} (h : ∀ operands, t ≠ .chain op operands) :
    t.operands op = [t] := by
  cases t with
  | chain inner operands =>
    have hne : inner ≠ op := by
      rintro rfl
      exact h operands rfl
    exact if_neg hne
  | _ => rfl

end Polyquery.Sql
