import Polyquery.Proofs.Sql.Forming
import Polyquery.Sql.Render

/-!
# Expressions with a text that reads back

The generic dialect puts few parentheses.  What an operand may be is decided by two strengths: that
of the loosest operator its text opens to the left, and to the right.

* `Expr.frontRank`, `Expr.backRank` - these strengths;
* `Expr.sqlTree` - the tree that the text of an expression is read as;
* `Tree.nesting` - the levels that a tree takes to read;
* `Writable` - the expressions whose operands all fit in their places.
-/

namespace Polyquery

/-- Expressions that stand for themselves next to any operator: names, constants, and whatever is
between parentheses or between words of its own. -/
def Expr.isClosed : Expr → Bool
  | .compare .. | .logical .. | .not _ | .custom .. => false
  | _ => true

namespace Sql

/-! ### Strengths -/

/-- The strength that no operator reaches. -/
def closedRank : Nat := 41

/-- How a comparison is written: as a test for null, as a negated one, or between its operands. -/
inductive ComparisonForm where
  | isNull
  | isNotNull
  | infixed
deriving DecidableEq

/-- The form of a comparison. -/
def comparisonForm (op : ComparisonOp) (right : Expr) : ComparisonForm :=
  if right.isNull && op = .eq then .isNull
  else if right.isNull && op = .ne then .isNotNull
  else .infixed

theorem eq_null_of_isNull {e : Expr} (h : e.isNull = true) : e = .null := by
  unfold Expr.isNull at h
  split at h
  · rfl
  · cases h

/-- Only equality and inequality to null are not written between their operands. -/
theorem comparisonForm_cases (op : ComparisonOp) (right : Expr) :
    (op = .eq ∧ right = .null) ∨ (op = .ne ∧ right = .null) ∨
      comparisonForm op right = .infixed := by
  cases hnull : right.isNull with
  | false =>
    refine .inr (.inr ?_)
    rw [comparisonForm, hnull]
    rfl
  | true =>
    obtain rfl := eq_null_of_isNull hnull
    cases op with
    | eq => exact .inl ⟨rfl, rfl⟩
    | ne => exact .inr (.inl ⟨rfl, rfl⟩)
    | _ => exact .inr (.inr rfl)

/-- The strength of the loosest operator that the text of an expression has open in front. -/
def frontRank : Expr → Nat
  | .compare op left right =>
    match comparisonForm op right with
    | .isNull => min (frontRank left) 17
    | .isNotNull => closedRank
    | .infixed => min (frontRank left) 20
  | .logical op _ => connectiveRank op
  | _ => closedRank

/-- The strength of the loosest operator that the text of an expression has open behind. -/
def backRank : Expr → Nat
  | .compare op _ right =>
    match comparisonForm op right with
    | .isNull => closedRank
    | .isNotNull => 15
    | .infixed => min (backRank right) 20
  | .logical op _ => connectiveRank op
  | .not _ => 15
  | _ => 40

/-! ### Trees -/

/-- The tree of a text constant. -/
def textTree (s : String) : Tree := .constant (.text .single s)

/-- The tree of a number without a sign. -/
def numberTree (digits : String) : Tree := .constant (.number digits false)

/-- The tree of a number: a minus sign is an operator. -/
def signedTree (negative : Bool) (digits : String) : Tree :=
  if negative then .unary .minus (numberTree digits) else numberTree digits

/-- The tree of an integer. -/
def intTree (n : Int) : Tree := signedTree (decide (n < 0)) (Integer.natText n.natAbs)

/-- The tree of a double. -/
def floatTree (f : Double) : Tree := signedTree f.isNegative (floatDigits f)

/-- The tree of a constant. -/
def literalTree : Literal → Tree
  | .null => .constant .null
  | .bool b => .constant (.bool b)
  | .int n | .long n => intTree n.toInt
  | .string s | .dateTime s | .time s | .binary s => textTree s
  | .guid g => textTree g.text
  | .double f => floatTree f
  | .single _ | .decimal _ => .other ""

/-- The tree of a dotted path. -/
def pathTree (path : String) : Tree :=
  match Text.segments path with
  | [name] => .name (identOf name)
  | names => .path (names.map identOf)

/-- The tree of a call by the word of its function. -/
def wordCall (word : String) (arguments : List Argument) : Tree :=
  .call (.of [⟨word, none⟩] (.arguments none [])) arguments

/-- The word of a function with a call of its own. -/
def functionWord : Func → String
  | .toLower => "LOWER"
  | .toUpper => "UPPER"
  | .trim => "TRIM"
  | .length => "LENGTH"
  | .concat => "CONCAT"
  | .substr => "SUBSTRING"
  | .indexOf => "LOCATE"
  | .round => "ROUND"
  | .ceil => "CEIL"
  | .floor => "FLOOR"
  | .min => "MIN"
  | .max => "MAX"
  | .count => "COUNT"
  | .sum => "SUM"
  | .avg => "AVG"
  | part => datePartName part

/-- The tree of a call from the trees of its arguments; the start of a text counts from one. -/
def callTree (func : Func) (args : List Expr) (ts : List Tree) : Tree :=
  match func, args, ts with
  | .concat, _, ts => .nested (.chain .concat ts)
  | .substr, _ :: .literal (.int start) :: _, text :: _ :: rest =>
    .substring true text (some (intTree (start + 1).toInt)) rest.head?
  | .trim, _, [text] => .trim text []
  | .ceil, _, [number] => .rounding "CEIL" number ""
  | .floor, _, [number] => .rounding "FLOOR" number ""
  | .count, [], _ => wordCall "COUNT" [.everything]
  | func, _, ts => wordCall (functionWord func) (ts.map .value)

/-- The tree of an operand of a connective or negation. -/
def groupedTree (e : Expr) (t : Tree) : Tree := if isLogical e then .nested t else t

mutual

/-- The tree that the text of an expression is read as. -/
def sqlTree : Expr → Tree
  | .field path => pathTree path
  | .literal value => literalTree value
  | .compare op left right =>
    match comparisonForm op right with
    | .isNull => .isNull false (sqlTree left)
    | .isNotNull => .unary .not (.isNull false (sqlTree left))
    | .infixed => .binary (.compare op) (sqlTree left) (sqlTree right)
  | .logical op args => .chain (.logical op) (operandTrees args)
  | .not arg => .unary .not (groupedTree arg (sqlTree arg))
  | .arithmetic op left right => .nested (.binary (.arithmetic op) (sqlTree left) (sqlTree right))
  | .call func args => callTree func args (sqlTrees args)
  | .regexMatch input regex options =>
    wordCall "REGEXP_LIKE"
      ((sqlTree input :: textTree regex :: (options.map textTree).toList).map .value)
  | .cond condition yes no =>
    .case none [(sqlTree condition, sqlTree yes)] (some (sqlTree no))
  | .switch branches default => .case none (branchTrees branches) (defaultTree default)
  | .custom name _ => .other name

/-- The trees of expressions in a list. -/
def sqlTrees : List Expr → List Tree
  | [] => []
  | e :: rest => sqlTree e :: sqlTrees rest

/-- The trees of operands of a connective. -/
def operandTrees : List Expr → List Tree
  | [] => []
  | e :: rest => groupedTree e (sqlTree e) :: operandTrees rest

/-- The trees of branches. -/
def branchTrees : List (Expr × Expr) → List (Tree × Tree)
  | [] => []
  | (condition, value) :: rest => (sqlTree condition, sqlTree value) :: branchTrees rest

/-- The tree of a default branch, if there is one. -/
def defaultTree : Option Expr → Option Tree
  | none => none
  | some e => some (sqlTree e)

end

theorem sqlTrees_eq_map (args : List Expr) : sqlTrees args = args.map sqlTree := by
  induction args with
  | nil => rfl
  | cons e rest ih => rw [sqlTrees, ih, List.map_cons]

theorem operandTrees_eq_map (args : List Expr) :
    operandTrees args = args.map fun e => groupedTree e (sqlTree e) := by
  induction args with
  | nil => rfl
  | cons e rest ih => rw [operandTrees, ih, List.map_cons]

theorem branchTrees_eq_map (branches : List (Expr × Expr)) :
    branchTrees branches = branches.map fun b => (sqlTree b.1, sqlTree b.2) := by
  induction branches with
  | nil => rfl
  | cons b rest ih => rw [branchTrees, ih, List.map_cons]

theorem defaultTree_eq_map (default : Option Expr) : defaultTree default = default.map sqlTree := by
  cases default <;> rfl

/-! ### Nesting -/

mutual

/-- The levels that a tree takes to read: parentheses, words with parts of their own, an operator in
front of its operand and the right side of an operator between two take one each. -/
def Tree.nesting : Tree → Nat
  | .name _ | .path _ | .constant _ | .subquery _ | .other _ => 0
  | .nested inner => inner.nesting + 1
  | .chain _ operands => chainNesting operands
  | .binary _ left right => max left.nesting (right.nesting + 1)
  | .unary _ operand => operand.nesting + 1
  | .isNull _ operand => operand.nesting
  | .between _ operand low high => max operand.nesting (max low.nesting high.nesting + 1)
  | .inList _ operand items => max operand.nesting (treesNesting items + 1)
  | .like _ _ _ operand pattern _ => max operand.nesting (pattern.nesting + 1)
  | .case operand branches otherwise =>
    max (optionNesting operand) (max (branchesNesting branches) (optionNesting otherwise)) + 1
  | .extract _ _ operand => operand.nesting + 1
  | .substring _ operand start length =>
    max operand.nesting (max (optionNesting start) (optionNesting length)) + 1
  | .trim operand characters => max operand.nesting (treesNesting characters) + 1
  | .rounding _ operand _ => operand.nesting + 1
  | .call _ arguments => argumentsNesting arguments + 1

/-- The levels of operands in a chain. -/
def chainNesting : List Tree → Nat
  | [] => 0
  | t :: ts => max t.nesting (treesNesting ts + 1)

/-- The levels of trees in a list. -/
def treesNesting : List Tree → Nat
  | [] => 0
  | t :: ts => max t.nesting (treesNesting ts)

/-- The levels of a tree that may be missing. -/
def optionNesting : Option Tree → Nat
  | none => 0
  | some t => t.nesting

/-- The levels of branches. -/
def branchesNesting : List (Tree × Tree) → Nat
  | [] => 0
  | (condition, value) :: rest =>
    max (max condition.nesting value.nesting) (branchesNesting rest)

/-- The levels of arguments. -/
def argumentsNesting : List Argument → Nat
  | [] => 0
  | .value t :: rest => max t.nesting (argumentsNesting rest)
  | _ :: rest => argumentsNesting rest

end

theorem treesNesting_le {ts : List Tree} {n : Nat} :
    treesNesting ts ≤ n ↔ ∀ t ∈ ts, t.nesting ≤ n := by
  induction ts with
  | nil => simp [treesNesting]
  | cons t ts ih => rw [treesNesting, Nat.max_le, ih, List.forall_mem_cons]

theorem branchesNesting_le {branches : List (Tree × Tree)} {n : Nat} :
    branchesNesting branches ≤ n ↔ ∀ b ∈ branches, b.1.nesting ≤ n ∧ b.2.nesting ≤ n := by
  induction branches with
  | nil => simp [branchesNesting]
  | cons b rest ih => rw [branchesNesting, Nat.max_le, Nat.max_le, ih, List.forall_mem_cons]

theorem optionNesting_le {t : Option Tree} {n : Nat} :
    optionNesting t ≤ n ↔ ∀ t' ∈ t, t'.nesting ≤ n := by
  cases t <;> simp [optionNesting]

theorem argumentsNesting_values (ts : List Tree) :
    argumentsNesting (ts.map .value) = treesNesting ts := by
  induction ts with
  | nil => rfl
  | cons t ts ih => rw [List.map_cons, argumentsNesting, ih, treesNesting]

/-! ### Expressions -/

/-- Constants whose text reads back. -/
inductive WritableLiteral : Literal → Prop where
  | null : WritableLiteral .null
  | bool (b : Bool) : WritableLiteral (.bool b)
  | int {n : Int64} : n ≠ Int64.minValue → WritableLiteral (.int n)
  | double {f : Double} : f.IsCanonical → f.isFinite = true → WritableLiteral (.double f)
  | string (s : String) : WritableLiteral (.string s)

/-- The letters that the options of a match may have. -/
def knownFlags : List Char := ['i', 'm']

/-- Expressions of which every operand stays in its place without parentheses. -/
inductive Writable : Expr → Prop where
  | field {path : String} :
      (∀ name ∈ (Text.segments path).head?, IsName name) → Writable (.field path)
  | literal {value : Literal} : WritableLiteral value → Writable (.literal value)
  | isNull {left : Expr} : 17 ≤ backRank left → Writable left → Writable (.compare .eq left .null)
  | isNotNull {left : Expr} :
      15 < frontRank left → 17 ≤ backRank left → Writable left →
      Writable (.compare .ne left .null)
  | compare {op : ComparisonOp} {left right : Expr} :
      comparisonForm op right = .infixed → 20 ≤ backRank left → 20 < frontRank right →
      Writable left → Writable right → Writable (.compare op left right)
  | logical {op : LogicalOp} {args : List Expr} :
      2 ≤ args.length → (∀ a ∈ args, Writable a) → Writable (.logical op args)
  | not {arg : Expr} : Writable arg → Writable (.not arg)
  | arithmetic {op : ArithmeticOp} {left right : Expr} :
      arithmeticRank op ≤ backRank left → arithmeticRank op < frontRank right →
      Writable left → Writable right → Writable (.arithmetic op left right)
  | concat {first : Expr} {rest : List Expr} :
      rest ≠ [] → 40 ≤ backRank first → (∀ a ∈ rest, 40 < frontRank a ∧ 40 ≤ backRank a) →
      Writable first → (∀ a ∈ rest, Writable a) → Writable (.call .concat (first :: rest))
  | substr {text : Expr} {start : Int64} {length : Option Expr} :
      start ≠ Int64.maxValue → Writable text → (∀ a ∈ length, Writable a) →
      Writable (.call .substr (text :: .int start :: length.toList))
  | call {func : Func} {args : List Expr} :
      func ≠ .concat → func ≠ .substr → func ≠ .indexOf → arity func args.length = true →
      (∀ a ∈ args, a.isClosed = true) → (∀ a ∈ args, Writable a) → Writable (.call func args)
  | regexMatch {input : Expr} {regex : String} {options : Option String} :
      (∀ flags ∈ options, flags ≠ "" ∧ ∀ c ∈ flags.toList, c ∈ knownFlags) →
      input.isClosed = true → Writable input → Writable (.regexMatch input regex options)
  | cond {condition yes no : Expr} :
      Writable condition → Writable yes → Writable no → Writable (.cond condition yes no)
  | switch {branches : List (Expr × Expr)} {default : Option Expr} :
      branches ≠ [] → ¬ (branches.length = 1 ∧ default.isSome = true) →
      (∀ b ∈ branches, Writable b.1) → (∀ b ∈ branches, Writable b.2) →
      (∀ e ∈ default, Writable e) → Writable (.switch branches default)

theorem frontRank_of_closed {e : Expr} (h : e.isClosed = true) : frontRank e = closedRank := by
  cases e with
  | compare _ _ _ => cases h
  | logical _ _ => cases h
  | _ => rfl

theorem backRank_of_closed {e : Expr} (h : e.isClosed = true) : backRank e = 40 := by
  cases e with
  | compare _ _ _ => cases h
  | logical _ _ => cases h
  | not _ => cases h
  | _ => rfl

theorem connectiveRank_bounds (op : LogicalOp) : 0 < connectiveRank op ∧ connectiveRank op ≤ 10 := by
  cases op <;> decide

theorem frontRank_pos : ∀ e : Expr, 0 < frontRank e
  | .compare op left right => by
    have hleft := frontRank_pos left
    rw [frontRank]
    split
    · exact Nat.lt_min.2 ⟨hleft, by decide⟩
    · decide
    · exact Nat.lt_min.2 ⟨hleft, by decide⟩
  | .logical op _ => (connectiveRank_bounds op).1
  | .field _ | .literal _ | .not _ | .arithmetic .. | .call .. | .regexMatch .. | .cond ..
  | .switch .. | .custom .. => by simp only [frontRank, closedRank, Nat.lt_add_one_iff, Nat.zero_le]

/-- Only a bare connective is looser than a negation. -/
theorem Writable.ranks {e : Expr} (h : Writable e) (hlogical : isLogical e = false) :
    17 ≤ frontRank e ∧ 15 ≤ backRank e := by
  have hall : ∀ {left : Expr}, Writable left → 17 ≤ backRank left → isLogical left = false := by
    intro left _ hback
    cases left with
    | logical op args =>
      have hrank : 17 ≤ connectiveRank op := hback
      cases op
      · exact absurd hrank (by decide)
      · exact absurd hrank (by decide)
    | _ => rfl
  induction h with
  | isNull hback hleft ih =>
    have hfront := (ih (hall hleft hback)).1
    simp only [frontRank, backRank, comparisonForm, Expr.isNull, Expr.null, decide_true,
      Bool.and_self, if_true, closedRank]
    omega
  | isNotNull _ _ _ _ =>
    simp [frontRank, backRank, comparisonForm, Expr.isNull, Expr.null, closedRank]
  | @compare op left right hform hback hfront hleft hright ihl ihr =>
    have hlogical' : isLogical right = false := by
      cases right with
      | logical op args =>
        have hrank : 20 < connectiveRank op := hfront
        cases op
        · exact absurd hrank (by decide)
        · exact absurd hrank (by decide)
      | _ => rfl
    have hl := (ihl (hall hleft (by omega))).1
    have hr := (ihr hlogical').2
    simp only [frontRank, backRank, hform]
    omega
  | logical _ _ _ => cases hlogical
  | _ => simp [frontRank, backRank, closedRank]

end Sql

end Polyquery
