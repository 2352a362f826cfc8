import Polyquery.OData.Grammar
import Polyquery.OData.Printer
import Polyquery.Proofs.OData.Lexing

/-!
# Expressions with a text that reads back

* `Expr.nestRight` - a node over many operands as nodes over two;
* `Expr.normal` - connectives and concatenations nested to the right, everything else as it is;
* `Expr.SameOperator`, `Expr.sameOperator_normal` - the normal form keeps the outermost operator;
* `reservedWords` - words that cannot start a path in any letter case;
* `PrintablePath`, `PrintableLiteral`, `PrintablePattern` - the leaves with a text of their own;
* `Printable` - the expressions over such leaves.
-/

namespace Polyquery

/-! ### Normal form -/

namespace Expr

/-- A node over more than two operands as nodes over two, nested to the right. -/
def nestRight (node : List Expr → Expr) : List Expr → Expr
  | a :: b :: c :: rest => node [a, nestRight node (b :: c :: rest)]
  | args => node args

mutual

/-- The tree with connectives and concatenations nested to the right. -/
def normal : Expr → Expr
  | .field path => .field path
  | .literal value => .literal value
  | .compare op left right => .compare op (normal left) (normal right)
  | .logical op args => nestRight (.logical op) (normalList args)
  | .not arg => .not (normal arg)
  | .arithmetic op left right => .arithmetic op (normal left) (normal right)
  | .call func args =>
    if func = .concat then nestRight (.call .concat) (normalList args)
    else .call func (normalList args)
  | .regexMatch input regex options => .regexMatch (normal input) regex options
  | .cond condition yes no => .cond (normal condition) (normal yes) (normal no)
  | .switch branches default => .switch (normalBranches branches) (normalOption default)
  | .custom name args => .custom name (normalList args)

/-- Trees in a list. -/
def normalList : List Expr → List Expr
  | [] => []
  | e :: rest => normal e :: normalList rest

/-- Conditions and values of branches. -/
def normalBranches : List (Expr × Expr) → List (Expr × Expr)
  | [] => []
  | (condition, value) :: rest => (normal condition, normal value) :: normalBranches rest

/-- An optional tree. -/
def normalOption : Option Expr → Option Expr
  | none => none
  | some e => some (normal e)

end

theorem normalList_eq_map (args : List Expr) : normalList args = args.map normal := by
  induction args with
  | nil => rfl
  | cons a args ih => rw [normalList, List.map_cons, ih]

@[simp] theorem normalList_length (args : List Expr) : (normalList args).length = args.length := by
  rw [normalList_eq_map, List.length_map]

/-- A chain of two or more operands is nested to the right. -/
theorem foldLogical?_eq_nestRight {op : LogicalOp} {args : List Expr} (h : 2 ≤ args.length) :
    foldLogical? op args = some (nestRight (.logical op) args) := by
  induction args with
  | nil => exact absurd h (by decide)
  | cons a args ih =>
    cases args with
    | nil => exact absurd h (by simp)
    | cons b rest =>
      cases rest with
      | nil => rfl
      | cons c rest =>
        rw [foldLogical?, ih (by simp), Option.map_some, nestRight]
        exact fun h => List.cons_ne_nil _ _ h

theorem nestRight_eq_node (node : List Expr → Expr) (args : List Expr) :
    ∃ args', nestRight node args = node args' := by
  unfold nestRight
  split
  · exact ⟨_, rfl⟩
  · exact ⟨args, rfl⟩

theorem normal_logical (op : LogicalOp) (args : List Expr) :
    ∃ args', (Expr.logical op args).normal = .logical op args' := nestRight_eq_node _ _

theorem normal_call (func : Func) (args : List Expr) :
    ∃ args', (Expr.call func args).normal = .call func args' := by
  rw [normal]
  split
  · rename_i hfunc
    subst hfunc
    exact nestRight_eq_node _ _
  · exact ⟨_, rfl⟩

/-- Expressions of one outermost operator, whatever its operands; a field and a literal have none
below them. -/
inductive SameOperator : Expr → Expr → Prop where
  | field (path : String) : SameOperator (.field path) (.field path)
  | literal (value : Literal) : SameOperator (.literal value) (.literal value)
  | compare {op : ComparisonOp} {left right left' right' : Expr} :
      SameOperator (.compare op left right) (.compare op left' right')
  | logical {op : LogicalOp} {args args' : List Expr} :
      SameOperator (.logical op args) (.logical op args')
  | not {arg arg' : Expr} : SameOperator (.not arg) (.not arg')
  | arithmetic {op : ArithmeticOp} {left right left' right' : Expr} :
      SameOperator (.arithmetic op left right) (.arithmetic op left' right')
  | call {func : Func} {args args' : List Expr} : SameOperator (.call func args) (.call func args')
  | regexMatch {input input' : Expr} {regex : String} {options : Option String} :
      SameOperator (.regexMatch input regex options) (.regexMatch input' regex options)
  | cond {condition yes no condition' yes' no' : Expr} :
      SameOperator (.cond condition yes no) (.cond condition' yes' no')
  | switch {branches branches' : List (Expr × Expr)} {default default' : Option Expr} :
      SameOperator (.switch branches default) (.switch branches' default')
  | custom {name : String} {args args' : List Expr} :
      SameOperator (.custom name args) (.custom name args')

/-- The normal form keeps the outermost operator. -/
theorem sameOperator_normal (e : Expr) : SameOperator e.normal e := by
  cases e with
  | logical op args =>
    obtain ⟨args', h⟩ := normal_logical op args
    rw [h]
    exact .logical
  | call func args =>
    obtain ⟨args', h⟩ := normal_call func args
    rw [h]
    exact .call
  | _ => constructor

end Expr

namespace OData

/-! ### Leaves -/

/-- Words that cannot start a path, in lower case. -/
def reservedWords : List String :=
  ["and", "or", "not", "eq", "ne", "gt", "ge", "lt", "le", "add", "sub", "mul", "div", "mod",
    "as", "asc", "desc"]

/-- Paths of identifiers that do not start with a reserved word or the name of the row itself. -/
structure PrintablePath (path : String) : Prop where
  identifiers : ∀ s ∈ Text.segments path, IsIdentifier s
  notSelf : (Text.segments path).head? ≠ some "$it"
  notReserved : ∀ s ∈ (Text.segments path).head?, Text.asciiLower s ∉ reservedWords

/-- Literals with an exact text. -/
inductive PrintableLiteral : Literal → Prop where
  | null : PrintableLiteral .null
  | bool (b : Bool) : PrintableLiteral (.bool b)
  | int (n : Int64) : PrintableLiteral (.int n)
  | long (n : Int64) : PrintableLiteral (.long n)
  | string (s : String) : PrintableLiteral (.string s)
  | guid (g : Guid) : PrintableLiteral (.guid g)
  | dateTime {s : String} : isDateTime s.toList = true → PrintableLiteral (.dateTime s)
  | time {s : String} : isTime s.toList = true → PrintableLiteral (.time s)
  | binary {s : String} : isBinary s.toList = true → PrintableLiteral (.binary s)

/-- Text tests without options, general patterns without a leading flag, and general patterns that
ignore letter case. -/
inductive PrintablePattern : String → Option String → Prop where
  | text (p : TextPattern) : PrintablePattern p.regex none
  | general {regex : String} :
      TextPattern.ofRegex? regex = none → ignoreCaseMark.isPrefixOf regex.toList = false →
      PrintablePattern regex none
  | ignoreCase (regex : String) : PrintablePattern regex (some "i")

/-! ### Expressions -/

/-- Expressions whose standard text reads back. -/
inductive Printable : Expr → Prop where
  | field {path : String} : PrintablePath path → Printable (.field path)
  | literal {value : Literal} : PrintableLiteral value → Printable (.literal value)
  | compare {op : ComparisonOp} {left right : Expr} :
      isCompound left = false → isCompound right = false →
      Printable left → Printable right → Printable (.compare op left right)
  | arithmetic {op : ArithmeticOp} {left right : Expr} :
      isCompound left = false → isCompound right = false →
      Printable left → Printable right → Printable (.arithmetic op left right)
  | logical {op : LogicalOp} {args : List Expr} :
      2 ≤ args.length → (∀ a ∈ args, Printable a) → Printable (.logical op args)
  | not {arg : Expr} : Printable arg → Printable (.not arg)
  | call {func : Func} {args : List Expr} :
      (functionArity func).1 ≤ args.length → args.length ≤ (functionArity func).2 →
      (∀ a ∈ args, Printable a) → Printable (.call func args)
  | regexMatch {input : Expr} {regex : String} {options : Option String} :
      PrintablePattern regex options → Printable input →
      Printable (.regexMatch input regex options)
  | cond {condition yes no : Expr} :
      isDefaultMark condition = false → Printable condition → Printable yes → Printable no →
      Printable (.cond condition yes no)
  | switch {branches : List (Expr × Expr)} {default : Option Expr} :
      (branches ≠ [] ∨ default.isSome = true) →
      ¬ (branches.length = 1 ∧ default.isSome = true) →
      (∀ b ∈ branches, isDefaultMark b.1 = false) →
      (∀ b ∈ branches, Printable b.1) → (∀ b ∈ branches, Printable b.2) →
      (∀ d ∈ default, Printable d) → Printable (.switch branches default)

end OData

end Polyquery
