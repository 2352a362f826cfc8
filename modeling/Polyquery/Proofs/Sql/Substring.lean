import Polyquery.Proofs.LiteralText
import Polyquery.Proofs.Outcome
import Polyquery.Proofs.Unresolved
import Polyquery.Sql.Reader
import Polyquery.Sql.Render

/-!
# Positions in SQL substrings

SQL counts the positions of a text from one, expressions count them from zero.  A constant position
is shifted down where a call is read and up again where it is written.  Each end of the 64-bit range
has one position that cannot be shifted, and there the call is refused.

* `toInt_next`, `toInt_previous` - positions with a neighbour;
* `CallsSubstring` - trees that call `substring`, in every form that is read, with
  `CallsSubstring.toExpr` - what they mean;
* `Dialect.substringTokens`, `Dialect.render_substr` - the call as it is written.
-/

namespace Polyquery

/-- The integer of a constant of either width. -/
def Literal.integer? : Literal → Option Int64
  | .int n | .long n => some n
  | _ => none

namespace Sql

/-! ### Neighbours -/

/-- A position that is not the greatest is followed by another one. -/
theorem toInt_next {start : Int64} (h : start ≠ Int64.maxValue) :
    (start + 1).toInt = start.toInt + 1 := by
  have hlow := Int64.le_toInt start
  have hhigh := Int64.toInt_lt start
  have hne := mt Int64.toInt_inj.1 h
  have hmax : Int64.maxValue.toInt = 2 ^ 63 - 1 := by decide
  have hone : (1 : Int64).toInt = 1 := by decide
  rw [Int64.toInt_add, Int.bmod_def, hone]
  omega

/-- A position that is not the least follows another one. -/
theorem toInt_previous {start : Int64} (h : start ≠ Int64.minValue) :
    (start - 1).toInt = start.toInt - 1 := by
  have hlow := Int64.le_toInt start
  have hhigh := Int64.toInt_lt start
  have hne := mt Int64.toInt_inj.1 h
  have hmin : Int64.minValue.toInt = -2 ^ 63 := by decide
  have hone : (1 : Int64).toInt = 1 := by decide
  rw [Int64.toInt_sub, Int.bmod_def, hone]
  omega

theorem next_ne_minValue {start : Int64} (h : start ≠ Int64.maxValue) :
    start + 1 ≠ Int64.minValue := by
  intro heq
  have hnext := toInt_next h
  have hlow := Int64.le_toInt start
  have hmin : Int64.minValue.toInt = -2 ^ 63 := by decide
  rw [heq, hmin] at hnext
  omega

theorem previous_ne_maxValue {start : Int64} (h : start ≠ Int64.minValue) :
    start - 1 ≠ Int64.maxValue := by
  intro heq
  have hprevious := toInt_previous h
  have hhigh := Int64.toInt_lt start
  have hmax : Int64.maxValue.toInt = 2 ^ 63 - 1 := by decide
  rw [heq, hmax] at hprevious
  omega

/-! ### Calls that are read -/

/-- The only position that is not counted from zero is the one that follows no other. -/
theorem zeroBased_int (k : Int64) :
    zeroBased (.int k)
      = if k = Int64.minValue then
          .error (.invalidExpression "SUBSTRING start -9223372036854775808 is out of range")
        else .ok (.int (k - 1)) := by
  by_cases hk : k = Int64.minValue
  · subst hk
    have hnone : Integer.to64? (Int64.minValue.toInt - 1) = none := by decide
    have htext : "SUBSTRING start " ++ Integer.text64 Int64.minValue ++ " is out of range"
        = "SUBSTRING start -9223372036854775808 is out of range" := by decide
    rw [if_pos rfl, ← htext]
    simp only [zeroBased, Expr.int, hnone]
  · have hread : Integer.to64? (k.toInt - 1) = some (k - 1) := by
      rw [← toInt_previous hk, Integer.to64?_toInt]
    rw [if_neg hk]
    simp only [zeroBased, Expr.int, hread]

/-- The names of the call. -/
def substringNames : List String := ["substring", "substr"]

theorem functions_substring {name : String} (hname : name ∈ substringNames) (text start : Expr)
    {rest : List Expr} (hrest : rest.length ≤ 1) (onInstance : Bool) :
    functions ⟨name, text :: start :: rest, onInstance, none⟩
      = (zeroBased start).map fun position =>
          ⟨name, text :: start :: rest, onInstance,
            some (.call .substr (text :: position :: rest))⟩ := by
  have hargs : ∀ e : MethodEvent, e.args = text :: start :: rest → e.expectArgs 2 3 = .ok () := by
    intro e he
    rw [MethodEvent.expectArgs, he, if_pos]
    simp only [List.length_cons]
    omega
  have hcall : functions ⟨name, text :: start :: rest, onInstance, none⟩
      = substringCall ⟨name, text :: start :: rest, onInstance, none⟩ := by
    simp only [substringNames, List.mem_cons, List.not_mem_nil, or_false] at hname
    rcases hname with rfl | rfl <;> rfl
  rw [hcall, substringCall, hargs _ rfl]
  show (zeroBased start >>= _) = _
  cases zeroBased start <;> rfl

/-- The call that a tree stands for, with its name and its arguments converted.  The form that SQL
has for `substring` alone may leave out its start, which is then the first position. -/
inductive Tree.Calls (rs : Resolvers) : Tree → String → List Expr → Prop where
  | substring {operand : Tree} {start length : Option Tree} {text : Expr}
      {position count : Option Expr} (commas : Bool) :
      operand.toExpr rs = .ok text → toExprOption rs start = .ok position →
      toExprOption rs length = .ok count →
      Calls rs (.substring commas operand start length) "substring"
        (text :: position.getD (.int 1) :: count.toList)
  | plain {head : CallHead} {arguments : List Argument} {args : List Expr} :
      head.check = .ok () → toArguments rs arguments = .ok args →
      Calls rs (.call head arguments) (Text.lower (pathText head.name)) args

theorem Tree.Calls.toExpr {rs : Resolvers} {t : Tree} {name : String} {args : List Expr}
    (h : t.Calls rs name args) : t.toExpr rs = resolveCall rs name args := by
  cases h with
  | substring commas htext hposition hcount =>
    rw [Tree.toExpr, htext, hposition, hcount]
    rfl
  | plain hcheck hargs =>
    rw [Tree.toExpr, hcheck, hargs]
    rfl

/-- A tree calls `substring` with some arguments, once they are converted and every listener has had
the call and none of them has claimed it. -/
def CallsSubstring (rs : Resolvers) (t : Tree) (args : List Expr) : Prop :=
  ∃ name given, t.Calls rs name given ∧ ∃ name' ∈ substringNames, ∃ onInstance,
    rs.listeners.foldlM (fun e r => r.method e) ⟨name, given, false, none⟩
      = .ok ⟨name', args, onInstance, none⟩

/-- Without listeners the arguments are the converted ones. -/
theorem Tree.Calls.callsSubstring {t : Tree} {name : String} {args : List Expr}
    (h : t.Calls .empty name args) (hname : name ∈ substringNames) :
    CallsSubstring .empty t args :=
  ⟨name, args, h, name, hname, false, rfl⟩

/-- The call takes its start as a position counted from one. -/
theorem CallsSubstring.toExpr {rs : Resolvers} {t : Tree} {text start : Expr} {rest : List Expr}
    (h : CallsSubstring rs t (text :: start :: rest)) (hrest : rest.length ≤ 1) :
    t.toExpr rs
      = (zeroBased start).map fun position => .call .substr (text :: position :: rest) := by
  obtain ⟨name, given, hcalls, name', hname, onInstance, hchain⟩ := h
  rw [hcalls.toExpr, resolveCall, Resolvers.resolveMethod, hchain]
  show (functions ⟨name', text :: start :: rest, onInstance, none⟩ >>= _) = _
  rw [functions_substring hname text start hrest]
  cases zeroBased start <;> rfl

/-! ### Calls that are written -/

/-- The tokens of a substring from a position on that is counted from one, if its operands have
tokens. -/
def Dialect.substringTokens (d : Dialect) (text : Expr) (position : Int64) (rest : List Expr) :
    QueryResult (List Token) := do
  let ts ← d.render text
  let parts ← d.renderList rest
  .ok (Token.call d.substringFunction (ts :: [.int position] :: parts))

/-- A constant start is written as the position behind it, and refused if there is none. -/
theorem Dialect.render_substr (d : Dialect) {v : Literal} {n : Int64} (hv : v.integer? = some n)
    (text : Expr) (rest : List Expr) :
    d.render (.call .substr (text :: .literal v :: rest))
      = if 1 < rest.length then .error (arityError .substr (rest.length + 2))
        else if n = Int64.maxValue then .error (startError (.literal v))
        else d.substringTokens text (n + 1) rest := by
  have hnext : hasSuccessor (.literal v) = (n != Int64.maxValue) := by
    cases v <;> cases hv <;> rfl
  have hposition : ∃ t, literalToken v = .ok t := by
    cases v <;> cases hv <;> exact ⟨_, rfl⟩
  have hone : ∀ ts, oneBased (.literal v) ts = [.int (n + 1)] := by
    intro ts
    cases v <;> cases hv <;> rfl
  obtain ⟨t, ht⟩ := hposition
  have hstart : d.render (.literal v) = .ok [t] := by
    rw [Dialect.render, ht]
    rfl
  rw [Dialect.render, hnext, hstart]
  by_cases hn : n = Int64.maxValue
  · simp [hn]
  · simp only [bne_iff_ne, ne_eq, hn, not_false_eq_true, if_true, if_false, hone, substringTokens]
    rfl

end Sql

end Polyquery
