import Polyquery.Proofs.OData.RoundTrip
import Polyquery.Proofs.OData.Spaced

/-!
# Precedence and grouping

Filters as they are written, with parentheses only where an operand binds looser than its place
allows, are read as the expressions they stand for.

* `FilterTree`, `FilterTree.expr` - the syntax of filters, and the expressions they stand for;
* `FilterTree.level`, `FilterTree.kinds` - how tight a filter binds, and its tokens;
* `FilterTree.WellFormed` - names and calls that the grammar knows;
* `WellFormed.correct` - the tokens of a filter derive its expression, by induction on the filter;
* `parseFilter_of_spaced` - a filter that is written with any blanks is read as its expression.
-/

namespace Polyquery.OData

/-! ### Filters -/

/-- A filter as it is written, parentheses and blanks apart. -/
inductive FilterTree where
  | field (name : String) (segments : List String)
  | literal (value : Literal)
  | not (word : String) (arg : FilterTree)
  | logical (op : LogicalOp) (word : String) (left right : FilterTree)
  | compare (op : ComparisonOp) (left right : FilterTree)
  | arithmetic (op : ArithmeticOp) (left right : FilterTree)
  | call (name : String) (func : Func) (args : List FilterTree)
  /-- A call that stands for an arithmetic operator. -/
  | operation (name : String) (op : ArithmeticOp) (left right : FilterTree)
  /-- A conditional of one branch and a default. -/
  | cond (condition yes no : FilterTree)
  /-- Any other conditional. -/
  | switch (branches : List (FilterTree × FilterTree)) (default : Option FilterTree)

/-- The level where sums, or products, stand. -/
def arithmeticLevel : ArithmeticOp → Level
  | .add | .subtract => .sum
  | .multiply | .divide | .modulo => .product

/-- The level of the right operand of a sum, or of a product. -/
def rightLevel : ArithmeticOp → Level
  | .add | .subtract => .product
  | .multiply | .divide | .modulo => .primary

/-- The tokens of an operand, in parentheses if it is looser than its place allows. -/
def operandKinds (place level : Level) (ks : List TokenKind) : List TokenKind :=
  if level.rank ≤ place.rank then ks else .leftParen :: (ks ++ [.rightParen])

/-- The path of a field; a leading `$it` in front of other names is the row itself. -/
def fieldPath (name : String) (segments : List String) : String :=
  if name = "$it" ∧ segments ≠ [] then ".".intercalate segments
  else ".".intercalate (name :: segments)

namespace FilterTree

mutual

/-- The expression that a filter stands for. -/
def expr : FilterTree → Expr
  | .field name segments => .field (fieldPath name segments)
  | .literal value => .literal value
  | .not _ arg => .not (expr arg)
  | .logical op _ left right => .logical op [expr left, expr right]
  | .compare op left right => .compare op (expr left) (expr right)
  | .arithmetic op left right => .arithmetic op (expr left) (expr right)
  | .call _ func args => .call func (exprs args)
  | .operation _ op left right => .arithmetic op (expr left) (expr right)
  | .cond condition yes no => .cond (expr condition) (expr yes) (expr no)
  | .switch branches default => .switch (branchExprs branches) (defaultExpr default)

/-- The expressions of arguments. -/
def exprs : List FilterTree → List Expr
  | [] => []
  | arg :: rest => expr arg :: exprs rest

/-- The expressions of branches. -/
def branchExprs : List (FilterTree × FilterTree) → List (Expr × Expr)
  | [] => []
  | (condition, value) :: rest => (expr condition, expr value) :: branchExprs rest

/-- The expression of a default. -/
def defaultExpr : Option FilterTree → Option Expr
  | none => none
  | some value => some (expr value)

end

/-- How tight a filter binds. -/
def level : FilterTree → Level
  | .not .. => .negation
  | .logical op .. => connectiveLevel op
  | .compare .. => .comparison
  | .arithmetic op .. => arithmeticLevel op
  | .field .. | .literal .. | .call .. | .operation .. | .cond .. | .switch .. => .primary

mutual

/-- The tokens that a filter is written as. -/
def kinds : FilterTree → List TokenKind
  | .field name segments => .identifier name :: segmentKinds segments
  | .literal value => [.literal value]
  | .not word arg => .identifier word :: operandKinds .negation arg.level (kinds arg)
  | .logical op word left right =>
    operandKinds (operandLevel op) left.level (kinds left) ++
      .identifier word :: operandKinds (connectiveLevel op) right.level (kinds right)
  | .compare op left right =>
    operandKinds .sum left.level (kinds left) ++
      .identifier (Dialect.standard.comparisonWord op) ::
        operandKinds .sum right.level (kinds right)
  | .arithmetic op left right =>
    operandKinds (arithmeticLevel op) left.level (kinds left) ++
      .identifier (arithmeticWord op) :: operandKinds (rightLevel op) right.level (kinds right)
  | .call name _ args =>
    .identifier name :: .leftParen :: ([.comma].intercalate (argumentKinds args) ++ [.rightParen])
  | .operation name _ left right =>
    .identifier name :: .leftParen ::
      ([.comma].intercalate [kinds left, kinds right] ++ [.rightParen])
  | .cond condition yes no =>
    .identifier "case" :: .leftParen ::
      ([.comma].intercalate [kinds condition ++ .colon :: kinds yes,
        .literal (.bool true) :: .colon :: kinds no] ++ [.rightParen])
  | .switch branches default =>
    .identifier "case" :: .leftParen ::
      ([.comma].intercalate (branchKinds branches ++ defaultKinds default) ++ [.rightParen])

/-- The tokens of arguments. -/
def argumentKinds : List FilterTree → List (List TokenKind)
  | [] => []
  | arg :: rest => kinds arg :: argumentKinds rest

/-- The tokens of branches. -/
def branchKinds : List (FilterTree × FilterTree) → List (List TokenKind)
  | [] => []
  | (condition, value) :: rest => (kinds condition ++ .colon :: kinds value) :: branchKinds rest

/-- The tokens of a default, a branch whose condition is constant. -/
def defaultKinds : Option FilterTree → List (List TokenKind)
  | none => []
  | some value => [.literal (.bool true) :: .colon :: kinds value]

end

/-- Constants, paths and calls that the grammar knows, and keywords in any letter case. -/
inductive WellFormed : FilterTree → Prop where
  | field {name : String} {segments : List String} : (∀ s ∈ name :: segments, IsIdentifier s) →
      StartsOperand name → WellFormed (.field name segments)
  | int (n : Int64) : WellFormed (.literal (.int n))
  | string (s : String) : WellFormed (.literal (.string s))
  | bool (b : Bool) : WellFormed (.literal (.bool b))
  | null : WellFormed (.literal .null)
  | not {word : String} {arg : FilterTree} : Text.asciiLower word = "not" → WellFormed arg →
      WellFormed (.not word arg)
  | logical {op : LogicalOp} {word : String} {left right : FilterTree} :
      Text.asciiLower word = logicalWord op → WellFormed left → WellFormed right →
      WellFormed (.logical op word left right)
  | compare {op : ComparisonOp} {left right : FilterTree} : WellFormed left → WellFormed right →
      WellFormed (.compare op left right)
  | arithmetic {op : ArithmeticOp} {left right : FilterTree} : WellFormed left →
      WellFormed right → WellFormed (.arithmetic op left right)
  | call {name : String} {func : Func} {args : List FilterTree} :
      functionOf? (Text.asciiLower name) = some func →
      (functionArity func).1 ≤ args.length → args.length ≤ (functionArity func).2 →
      (∀ arg ∈ args, WellFormed arg) → WellFormed (.call name func args)
  | operation {name : String} {op : ArithmeticOp} {left right : FilterTree} :
      arithmeticFunction? (Text.asciiLower name) = some op → isOperatorWord name = false →
      WellFormed left → WellFormed right → WellFormed (.operation name op left right)
  | cond {condition yes no : FilterTree} : condition.expr ≠ .literal (.bool true) →
      WellFormed condition → WellFormed yes → WellFormed no → WellFormed (.cond condition yes no)
  | switch {branches : List (FilterTree × FilterTree)} {default : Option FilterTree} :
      (branches ≠ [] ∨ default ≠ none) → (branches.length ≠ 1 ∨ default = none) →
      (∀ b ∈ branches, b.1.expr ≠ .literal (.bool true)) →
      (∀ b ∈ branches, WellFormed b.1) → (∀ b ∈ branches, WellFormed b.2) →
      (∀ d ∈ default, WellFormed d) → WellFormed (.switch branches default)

end FilterTree

/-! ### Tokens of filters -/

theorem mem_of_arithmeticFunction? {name : String} {op : ArithmeticOp}
    (h : arithmeticFunction? name = some op) :
    name ∈ ["add", "sub", "multiply", "mul", "div", "mod"] := by
  unfold arithmeticFunction? at h
  grind

/-- The words that filters are written with in any letter case. -/
def freeWords : List String :=
  ["not", "and", "or", "add", "sub", "multiply", "mul", "div", "mod"] ++ Func.all.map functionName

theorem isIdentifier_of_freeWord {word : String} (h : Text.asciiLower word ∈ freeWords) :
    IsIdentifier word := by
  have hwords : ∀ v ∈ freeWords, v.toList ≠ [] ∧ v.toList.all Text.isAsciiLetter = true ∧
      ∀ c ∈ ["true", "false", "null", "INF", "NaN"], Text.asciiLower c ≠ v := by decide
  obtain ⟨hne, hletters, hconstant⟩ := hwords _ h
  exact isIdentifier_of_letters rfl hne hletters hconstant

theorem functionName_of_functionOf? {name : String} {func : Func}
    (h : functionOf? name = some func) : name = functionName func := by
  have hfound := List.find?_some (show Func.all.find? (functionName · == name) = some func from h)
  rw [beq_iff_eq] at hfound
  exact hfound.symm

/-- A function is called by a word that starts an operand, in any letter case. -/
theorem function_word {name : String} {func : Func}
    (h : functionOf? (Text.asciiLower name) = some func) :
    IsIdentifier name ∧ StartsOperand name ∧ Text.asciiLower name ≠ "case" := by
  have hname := functionName_of_functionOf? h
  have hfree : functionName func ∈ freeWords ∧ functionName func ∉ reservedWords ∧
      functionName func ≠ "case" := by cases func <;> decide
  rw [← hname] at hfree
  exact ⟨isIdentifier_of_freeWord hfree.1, startsOperand_of_not_reserved hfree.2.1, hfree.2.2⟩

/-- An operator is called by a word that is no operator word itself. -/
theorem operation_word {name : String} {op : ArithmeticOp}
    (h : arithmeticFunction? (Text.asciiLower name) = some op) (hop : isOperatorWord name = false) :
    IsIdentifier name ∧ StartsOperand name ∧ Text.asciiLower name ≠ "case" := by
  have hmem := mem_of_arithmeticFunction? h
  have hwords : ∀ v ∈ ["add", "sub", "multiply", "mul", "div", "mod"],
      v ∈ freeWords ∧ v ≠ "not" ∧ v ≠ "case" := by decide
  obtain ⟨hfree, hnot, hcase⟩ := hwords _ hmem
  exact ⟨isIdentifier_of_freeWord hfree, ⟨hop, hnot⟩, hcase⟩

namespace FilterTree

theorem argumentKinds_eq_map (args : List FilterTree) : argumentKinds args = args.map kinds := by
  induction args with
  | nil => rfl
  | cons arg rest ih => rw [argumentKinds, ih, List.map_cons]

theorem exprs_eq_map (args : List FilterTree) : exprs args = args.map expr := by
  induction args with
  | nil => rfl
  | cons arg rest ih => rw [exprs, ih, List.map_cons]

theorem branchKinds_eq_map (branches : List (FilterTree × FilterTree)) :
    branchKinds branches = branches.map fun b => b.1.kinds ++ .colon :: b.2.kinds := by
  induction branches with
  | nil => rfl
  | cons b rest ih => rw [branchKinds, ih, List.map_cons]

theorem branchExprs_eq_map (branches : List (FilterTree × FilterTree)) :
    branchExprs branches = branches.map fun b => (b.1.expr, b.2.expr) := by
  induction branches with
  | nil => rfl
  | cons b rest ih => rw [branchExprs, ih, List.map_cons]

end FilterTree

theorem AllLexable.operand {place level : Level} {ks : List TokenKind} (h : AllLexable ks) :
    AllLexable (operandKinds place level ks) := by
  unfold operandKinds
  split
  · exact h
  · exact .mark rfl (h.append (.mark rfl .nil))

/-- Every token of a well-formed filter is lexable. -/
theorem FilterTree.WellFormed.lexable {t : FilterTree} (h : t.WellFormed) : AllLexable t.kinds := by
  have hclose : AllLexable [.rightParen] := .mark rfl .nil
  have hcase : Lexable (.identifier "case") := lexable_identifier (by decide)
  have htrue : Lexable (.literal (.bool true)) := lexable_bool true
  induction h with
  | field hnames _ =>
    rw [kinds]
    rw [List.forall_mem_cons] at hnames
    exact .cons (lexable_identifier hnames.1) (.segments hnames.2)
  | int n => exact .cons (lexable_int n) .nil
  | string s => exact .cons (.inr (Lexes.string s)) .nil
  | bool b => exact .cons (lexable_bool b) .nil
  | null => exact .cons (.inr (Lexes.word (by decide))) .nil
  | not hword _ ih =>
    rw [kinds]
    exact .cons (lexable_identifier (isIdentifier_of_freeWord (by rw [hword]; decide))) ih.operand
  | @logical op word left right hword _ _ ihl ihr =>
    rw [kinds]
    have hkeyword : logicalWord op ∈ freeWords := by cases op <;> decide
    rw [← hword] at hkeyword
    exact ihl.operand.append
      (.cons (lexable_identifier (isIdentifier_of_freeWord hkeyword)) ihr.operand)
  | @compare op left right _ _ ihl ihr =>
    rw [kinds]
    have hword : IsIdentifier (Dialect.standard.comparisonWord op) := by cases op <;> decide
    exact ihl.operand.append (.cons (lexable_identifier hword) ihr.operand)
  | @arithmetic op left right _ _ ihl ihr =>
    rw [kinds]
    have hword : IsIdentifier (arithmeticWord op) := by cases op <;> decide
    exact ihl.operand.append (.cons (lexable_identifier hword) ihr.operand)
  | @call name func args hfunc _ _ _ ih =>
    rw [kinds, argumentKinds_eq_map]
    have hargs : AllLexable ([.comma].intercalate (args.map kinds)) :=
      .commas (List.forall_mem_map.2 ih)
    exact .cons (lexable_identifier (function_word hfunc).1) (.mark rfl (hargs.append hclose))
  | @operation name op left right hop hword _ _ ihl ihr =>
    rw [kinds]
    have hargs : AllLexable ([.comma].intercalate [left.kinds, right.kinds]) :=
      .commas (List.forall_mem_cons.2 ⟨ihl, List.forall_mem_singleton.2 ihr⟩)
    exact .cons (lexable_identifier (operation_word hop hword).1)
      (.mark rfl (hargs.append hclose))
  | @cond condition yes no _ _ _ _ ihc ihy ihn =>
    rw [kinds]
    have hbranch : AllLexable (condition.kinds ++ .colon :: yes.kinds) :=
      ihc.append (.mark rfl ihy)
    have hdefault : AllLexable (.literal (.bool true) :: .colon :: no.kinds) :=
      .cons htrue (.mark rfl ihn)
    have hbranches := AllLexable.commas (List.forall_mem_cons.2
      ⟨hbranch, List.forall_mem_singleton.2 hdefault⟩)
    exact .cons hcase (.mark rfl (hbranches.append hclose))
  | @switch branches default _ _ _ _ _ _ ihc ihv ihd =>
    rw [kinds, branchKinds_eq_map]
    have hbranches : ∀ part ∈ branches.map fun b => b.1.kinds ++ .colon :: b.2.kinds,
        AllLexable part :=
      List.forall_mem_map.2 fun b hb => (ihc b hb).append (.mark rfl (ihv b hb))
    have hdefault : ∀ part ∈ defaultKinds default, AllLexable part := by
      cases default with
      | none => exact fun part hpart => absurd hpart List.not_mem_nil
      | some d =>
        intro part hpart
        obtain rfl := List.mem_singleton.1 hpart
        exact .cons htrue (.mark rfl (ihd d rfl))
    exact .cons hcase (.mark rfl
      ((AllLexable.commas (List.forall_mem_append.2 ⟨hbranches, hdefault⟩)).append hclose))

/-! ### Derivations of filters -/

/-- An operand in its place, parentheses and all. -/
theorem Derives.placed {rs : Resolvers} {e : Expr} {level : Level} {ks : List TokenKind}
    (h : Derives rs (.expr level e) ks) (place : Level) :
    Derives rs (.expr place e) (operandKinds place level ks) := by
  unfold operandKinds
  split
  · rename_i hrank
    exact h.looser hrank
  · exact (Derives.parenthesized (h.looser (by cases level <;> decide))).looser
      (by cases place <;> decide)

/-- An operation behind the operands that stand to its left. -/
theorem derives_arithmetic {rs : Resolvers} (op : ArithmeticOp) {a b : Expr}
    {ks ks' : List TokenKind} (ha : Derives rs (.expr (arithmeticLevel op) a) ks)
    (hb : Derives rs (.expr (rightLevel op) b) ks') :
    Derives rs (.expr (arithmeticLevel op) (.arithmetic op a b))
      (ks ++ .identifier (arithmeticWord op) :: ks') := by
  have hword := Chain.operatorOf?_arithmeticWord op
  cases op <;> exact Derives.chainMore hword ha hb

/-- Without resolvers, a path makes its field. -/
theorem memberField_path (name : String) (segments : List String) :
    memberField ⟨Resolvers.empty, 0⟩ (name :: segments) = .field (fieldPath name segments) := by
  by_cases hself : name = "$it"
  · subst hself
    cases segments with
    | nil =>
      rw [fieldPath, if_neg fun h => h.2 rfl, String.intercalate_singleton]
      rfl
    | cons next rest =>
      rw [fieldPath, if_pos ⟨rfl, List.cons_ne_nil next rest⟩]
      exact field_of_qualified (List.cons_ne_nil next rest)
  · rw [fieldPath, if_neg fun h => hself h.1]
    exact memberField_empty (List.cons_ne_nil name segments) (by simpa using hself)

theorem builtin_operation {name : String} {op : ArithmeticOp} (left right : Expr)
    (h : arithmeticFunction? name = some op) :
    builtin ⟨name, [left, right], false, none⟩
      = .ok ⟨name, [left, right], false, some (.arithmetic op left right)⟩ := by
  have hwords : ∀ v ∈ ["add", "sub", "multiply", "mul", "div", "mod"], functionOf? v = none := by
    decide
  have hnone := hwords name (mem_of_arithmeticFunction? h)
  rw [builtin, hnone, h]
  rfl

namespace FilterTree

/-- No filter is a text test, so no comparison is folded into one. -/
theorem comparisonOf_expr (op : ComparisonOp) (t : FilterTree) (right : Expr) :
    comparisonOf op t.expr right = .compare op t.expr right := by
  cases t <;> simp only [expr] <;> rfl

theorem isDefaultMark_expr {e : Expr} (h : e ≠ .literal (.bool true)) :
    isDefaultMark e = false := by
  unfold isDefaultMark
  split
  · exact absurd rfl h
  · rfl

/-- The tokens of a filter derive its expression. -/
def Correct (t : FilterTree) : Prop := Derives .empty (.expr t.level t.expr) t.kinds

/-- Everything may stand where an argument stands. -/
theorem Correct.alone {t : FilterTree} (h : t.Correct) :
    Derives .empty (.expr .disjunction t.expr) t.kinds :=
  Derives.looser h (by cases t.level <;> decide)

theorem correct_arguments {args : List FilterTree} (h : ∀ arg ∈ args, Correct arg) :
    Derives .empty (.arguments (args.map expr))
      ([.comma].intercalate (args.map kinds) ++ [.rightParen]) := by
  apply Derives.argumentList
  rw [List.forall₂_map_left_iff, List.forall₂_map_right_iff, List.forall₂_same]
  exact fun arg harg => (h arg harg).alone

theorem correct_call {name : String} {args : List FilterTree} {e : Expr} (hn : StartsOperand name)
    (hname : Text.asciiLower name ≠ "case") (h : ∀ arg ∈ args, Correct arg)
    (he : builtin ⟨Text.asciiLower name, args.map expr, false, none⟩
      = .ok ⟨Text.asciiLower name, args.map expr, false, some e⟩) :
    Derives .empty (.expr .primary e) (.identifier name :: .leftParen ::
      ([.comma].intercalate (args.map kinds) ++ [.rightParen])) :=
  .call hn hname (correct_arguments h) (Resolvers.resolveMethod_empty he)

theorem correct_branches {branches : List (FilterTree × FilterTree)} {default : Option FilterTree}
    (hne : branches ≠ [] ∨ default ≠ none)
    (hmark : ∀ b ∈ branches, b.1.expr ≠ .literal (.bool true))
    (hc : ∀ b ∈ branches, Correct b.1) (hv : ∀ b ∈ branches, Correct b.2)
    (hd : ∀ d ∈ default, Correct d) :
    Derives .empty (.expr .primary (caseOf (branchExprs branches) (defaultExpr default)))
      (.identifier "case" :: .leftParen :: ([.comma].intercalate
        (branchKinds branches ++ defaultKinds default) ++ [.rightParen])) := by
  have hbranches : List.Forall₂ (Derives.Branch .empty) (branchKinds branches)
      (branchExprs branches) := by
    rw [branchKinds_eq_map, branchExprs_eq_map, List.forall₂_map_left_iff,
      List.forall₂_map_right_iff, List.forall₂_same]
    exact fun b hb => ⟨_, _, rfl, (hc b hb).alone, (hv b hb).alone⟩
  have hmarks : ∀ b ∈ branchExprs branches, isDefaultMark b.1 = false := by
    rw [branchExprs_eq_map, List.forall_mem_map]
    exact fun b hb => isDefaultMark_expr (hmark b hb)
  have hdefault : Derives.Default .empty (defaultKinds default) (defaultExpr default) := by
    cases default with
    | none => rfl
    | some d => exact ⟨_, rfl, (hd d rfl).alone⟩
  have hparts : branchKinds branches ++ defaultKinds default ≠ [] := by
    rcases hne with hne | hne
    · rw [branchKinds_eq_map]
      simp [hne]
    · cases default with
      | none => exact absurd rfl hne
      | some d => simp [defaultKinds]
  exact .case ⟨by decide, by decide⟩ (by decide)
    (Derives.branchList hbranches hmarks hdefault hparts [])

/-- The tokens of a filter derive the expression it stands for.  The induction is on the filter;
each operand stands in its place, in parentheses or not. -/
theorem WellFormed.correct {t : FilterTree} (h : t.WellFormed) : t.Correct := by
  induction h with
  | @field name segments _ hn =>
    show Derives .empty (.expr .primary (.field (fieldPath name segments))) _
    rw [← memberField_path]
    exact .path hn
  | int n => exact .literal (.int n)
  | string s => exact .literal (.string s)
  | bool b => exact .literal (.bool b)
  | null => exact .literal .null
  | not hword _ ih => exact .not hword (Derives.placed ih .negation)
  | @logical op _ _ _ hword _ _ ihl ihr =>
    exact .connective hword (Derives.placed ihl _) (Derives.placed ihr _)
  | @compare op left right _ _ ihl ihr =>
    show Derives .empty (.expr .comparison (.compare op left.expr right.expr)) _
    rw [← comparisonOf_expr]
    exact .compare (comparisonOf?_comparisonWord op) (Derives.placed ihl .sum)
      (Derives.placed ihr .sum)
  | @arithmetic op _ _ _ _ ihl ihr =>
    exact derives_arithmetic op (Derives.placed ihl _) (Derives.placed ihr _)
  | @call name func args hfunc hleast hmost _ ih =>
    obtain ⟨-, hn, hcase⟩ := function_word hfunc
    have hcall := correct_call hn hcase ih
      (builtin_function hfunc (by simpa using hleast) (by simpa using hmost))
    rw [← exprs_eq_map, ← argumentKinds_eq_map] at hcall
    exact hcall
  | @operation name op left right hop hword _ _ ihl ihr =>
    obtain ⟨-, hn, hcase⟩ := operation_word hop hword
    have hargs : ∀ arg ∈ [left, right], Correct arg := by simp [ihl, ihr]
    exact correct_call hn hcase hargs (builtin_operation left.expr right.expr hop)
  | @cond condition yes no hmark _ _ _ ihc ihy ihn =>
    have hne : [(condition, yes)] ≠ [] ∨ some no ≠ none := .inl (List.cons_ne_nil _ _)
    exact correct_branches hne (by simpa using hmark) (by simpa using ihc) (by simpa using ihy)
      (by simpa using ihn)
  | @switch branches default hne hmany hmark _ _ _ ihc ihv ihd =>
    have hcase := correct_branches hne hmark ihc ihv ihd
    have hswitch : caseOf (branchExprs branches) (defaultExpr default)
        = .switch (branchExprs branches) (defaultExpr default) := by
      apply caseOf_eq_switch
      rintro ⟨hone, hsome⟩
      rcases hmany with hlen | rfl
      · rw [branchExprs_eq_map, List.length_map] at hone
        exact hlen hone
      · cases hsome
    rw [hswitch] at hcase
    exact hcase

end FilterTree

/-! ### Reading filters -/

/-- A filter that is written with any blanks between its tokens is read as its expression.
Connectives group to the right, comparisons do not chain, sums and products group to the left, and
only an operand that binds looser than its place allows stands in parentheses. -/
theorem parseFilter_of_spaced (t : FilterTree) (text : List Char) (h : t.WellFormed)
    (hs : Spaced t.kinds text) : parseFilter .empty text = .ok t.expr :=
  parseFilter_of_lexes (hs.lexes h.lexable) h.correct.alone

/-- A filter with a negation in front of parentheses, a product in a sum, and a conditional. -/
def mixedFilter : FilterTree :=
  .logical .or "or"
    (.logical .and "AND"
      (.not "not" (.logical .or "or" (.field "a" []) (.field "b" ["c"])))
      (.compare .gt (.arithmetic .add (.field "price" [])
        (.arithmetic .multiply (.literal (.int 2)) (.literal (.int 3)))) (.literal (.int (-1)))))
    (.compare .ne
      (.cond (.compare .eq (.field "x" []) (.literal (.string "it's"))) (.literal (.int 1))
        (.literal .null))
      (.call "Round" .round [.field "y" []]))

theorem mixedFilter_wellFormed : mixedFilter.WellFormed := by
  have ha : (FilterTree.field "a" []).WellFormed := .field (by decide) ⟨by decide, by decide⟩
  have hb : (FilterTree.field "b" ["c"]).WellFormed := .field (by decide) ⟨by decide, by decide⟩
  have hprice : (FilterTree.field "price" []).WellFormed :=
    .field (by decide) ⟨by decide, by decide⟩
  have hx : (FilterTree.field "x" []).WellFormed := .field (by decide) ⟨by decide, by decide⟩
  have hy : (FilterTree.field "y" []).WellFormed := .field (by decide) ⟨by decide, by decide⟩
  have hor : (FilterTree.logical .or "or" (.field "a" []) (.field "b" ["c"])).WellFormed :=
    .logical (by decide) ha hb
  have hsum : (FilterTree.arithmetic .add (.field "price" [])
      (.arithmetic .multiply (.literal (.int 2)) (.literal (.int 3)))).WellFormed :=
    .arithmetic hprice (.arithmetic (.int 2) (.int 3))
  have heq : (FilterTree.compare .eq (.field "x" []) (.literal (.string "it's"))).WellFormed :=
    .compare hx (.string "it's")
  have hcall : (FilterTree.call "Round" .round [.field "y" []]).WellFormed :=
    .call (by decide) (by decide) (by decide) (by simpa using hy)
  exact .logical (by decide)
    (.logical (by decide) (.not (by decide) hor) (.compare hsum (.int (-1))))
    (.compare (.cond (by simp [FilterTree.expr]) heq (.int 1) .null) hcall)

theorem parseFilter_of_spaced_mixed :
    mixedFilter.WellFormed ∧
      Spaced mixedFilter.kinds (" not ( a or b / c ) AND price add 2 mul 3 gt -1 or case ( x eq " ++
        "'it''s' : 1 , true : null ) ne Round ( y )").toList ∧
      parseFilter .empty (" not ( a or b / c ) AND price add 2 mul 3 gt -1 or case ( x eq " ++
        "'it''s' : 1 , true : null ) ne Round ( y )").toList = .ok (.logical .or [
          .logical .and [.not (.logical .or [.field "a", .field "b.c"]),
            .compare .gt
              (.arithmetic .add (.field "price") (.arithmetic .multiply (.int 2) (.int 3)))
              (.int (-1))],
          .compare .ne (.cond (.compare .eq (.field "x") (.string "it's")) (.int 1) .null)
            (.call .round [.field "y"])]) := by
  have htext : (" not ( a or b / c ) AND price add 2 mul 3 gt -1 or case ( x eq " ++
        "'it''s' : 1 , true : null ) ne Round ( y )").toList
      = mixedFilter.kinds.flatMap fun k => [' '] ++ k.chars := by decide +kernel
  have hblank : ∀ c ∈ [' '], Text.isBlank c = true := by
    intro c hc
    obtain rfl := List.mem_singleton.1 hc
    decide
  have hs := spaced_flatMap (List.cons_ne_nil ' ' []) hblank mixedFilter.kinds
  rw [← htext] at hs
  exact ⟨mixedFilter_wellFormed, hs,
    parseFilter_of_spaced mixedFilter _ mixedFilter_wellFormed hs⟩

end Polyquery.OData
