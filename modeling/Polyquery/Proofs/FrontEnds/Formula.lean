import Polyquery.Closure.Meaning
import Polyquery.Proofs.OData.Derivation
import Polyquery.Proofs.OData.Printable
import Polyquery.Sql.Reader

/-!
# A language that every front end can write

* `Formula` - predicates and terms over one row; `Formula.meaning` - their expression;
* `Shared` - the formulas that closures, query options and SQL all have a form for;
* `Spelling` - the choices a writer has: spare parentheses, date parts by function or by `EXTRACT`,
  and the escape character of a pattern;
* `Formula.term`, `Formula.optionText`, `Formula.tree` - a formula as the body of a closure, as the
  text of a query option, and as a tree of SQL.
-/

namespace Polyquery.FrontEnds

/-! ### Formulas -/

/-- Predicates and terms over one row. -/
inductive Formula where
  /-- A member of the row, or of what a member leads to. -/
  | member (names : List String)
  | int (n : Int64)
  | string (s : String)
  | bool (b : Bool)
  | compare (op : ComparisonOp) (left right : Formula)
  | isNull (negated : Bool) (operand : Formula)
  | chain (op : LogicalOp) (operands : List Formula)
  | not (operand : Formula)
  | arithmetic (op : ArithmeticOp) (left right : Formula)
  | apply (func : Func) (operand : Formula)
  /-- The part of a text behind its first characters, of a bounded length if one is given. -/
  | substring (operand : Formula) (start : Nat) (length : Option Nat)
  | textTest (pattern : TextPattern) (operand : Formula)
  | choice (condition yes no : Formula)

/-- The functions of one operand. -/
def sharedFunctions : List Func :=
  [.year, .month, .day, .hour, .minute, .second, .length, .toLower, .toUpper, .trim, .round, .ceil,
    .floor]

namespace Formula

/-- A natural number as a constant. -/
def natural (n : Nat) : Expr := .int (Int64.ofNat n)

mutual

/-- The expression of a formula; chains are nested to the right. -/
def meaning : Formula → Expr
  | .member names => .field (".".intercalate names)
  | .int n => .int n
  | .string s => .string s
  | .bool b => .bool b
  | .compare op left right => .compare op (meaning left) (meaning right)
  | .isNull negated operand => .compare (if negated then .ne else .eq) (meaning operand) .null
  | .chain op operands => Expr.nestRight (.logical op) (meanings operands)
  | .not operand => .not (meaning operand)
  | .arithmetic op left right => .arithmetic op (meaning left) (meaning right)
  | .apply func operand => .call func [meaning operand]
  | .substring operand start length =>
    .call .substr (meaning operand :: natural start :: (length.map natural).toList)
  | .textTest pattern operand => (meaning operand).textMatch pattern
  | .choice condition yes no => .cond (meaning condition) (meaning yes) (meaning no)

/-- The expressions of formulas. -/
def meanings : List Formula → List Expr
  | [] => []
  | f :: rest => meaning f :: meanings rest

end

/-- Whether a formula tests a text. -/
def isTextTest : Formula → Bool
  | .textTest .. => true
  | _ => false

/-- Whether a formula is the constant that marks a default branch. -/
def isTrue : Formula → Bool
  | .bool true => true
  | _ => false

end Formula

/-- The formulas that every front end has a form for.  Names are plain words of query options, the
least integer has no sign to change, offsets stay in 64 bits, no text starts with nothing, and a
condition is not the constant that marks a default branch. -/
inductive Shared : Formula → Prop where
  | member {names : List String} :
      names ≠ [] → (∀ s ∈ names, OData.IsIdentifier s) → names.head? ≠ some "$it" →
      (∀ s ∈ names.head?, Text.asciiLower s ∉ OData.reservedWords) → Shared (.member names)
  | int {n : Int64} : n ≠ Int64.minValue → Shared (.int n)
  | string (s : String) : Shared (.string s)
  | bool (b : Bool) : Shared (.bool b)
  | compare {op : ComparisonOp} {left right : Formula} :
      left.isTextTest = false → Shared left → Shared right → Shared (.compare op left right)
  | isNull {negated : Bool} {operand : Formula} :
      Shared operand → Shared (.isNull negated operand)
  | chain {op : LogicalOp} {operands : List Formula} :
      2 ≤ operands.length → (∀ f ∈ operands, Shared f) → Shared (.chain op operands)
  | not {operand : Formula} : Shared operand → Shared (.not operand)
  | arithmetic {op : ArithmeticOp} {left right : Formula} :
      Shared left → Shared right → Shared (.arithmetic op left right)
  | apply {func : Func} {operand : Formula} :
      func ∈ sharedFunctions → Shared operand → Shared (.apply func operand)
  | substring {operand : Formula} {start : Nat} {length : Option Nat} :
      start + 1 < Nat.pow 2 63 → (∀ n ∈ length, start + n < Nat.pow 2 63) → Shared operand →
      Shared (.substring operand start length)
  | textTest {pattern : TextPattern} {operand : Formula} :
      pattern ≠ .startsWith "" → Shared operand → Shared (.textTest pattern operand)
  | choice {condition yes no : Formula} :
      condition.isTrue = false → Shared condition → Shared yes → Shared no →
      Shared (.choice condition yes no)

/-! ### Spellings -/

/-- An escape character that protects a text: none if there is nothing to protect, else no
wildcard. -/
def Protects (escape : Option Char) (text : String) : Prop :=
  match escape with
  | none => '%' ∉ text.toList ∧ '_' ∉ text.toList
  | some c => c ≠ '%' ∧ c ≠ '_'

/-- What a writer may choose. -/
structure Spelling where
  /-- The operands that stand in parentheses even where none are needed. -/
  parenthesized : Formula → Bool
  /-- The date parts that SQL takes by `EXTRACT` and not by a function. -/
  extracted : Func → Bool
  /-- The escape character of a pattern of SQL. -/
  escape : String → Option Char
  protects : ∀ text, Protects (escape text) text

namespace Formula

/-! ### Closures -/

/-- The comparator of an operator. -/
def comparator : ComparisonOp → Closure.Comparator
  | .eq => .eq
  | .ne => .ne
  | .gt => .gt
  | .gte => .ge
  | .lt => .lt
  | .lte => .le

/-- The name of a function in closures. -/
def closureName : Func → String
  | .toLower => "lower"
  | .toUpper => "upper"
  | .trim => "strip"
  | .ceil => "ceil"
  | func => OData.functionName func

/-- Whether closures call a function as a method of its operand. -/
def isMethod : Func → Bool
  | .toLower | .toUpper | .trim => true
  | _ => false

/-- The name of a text test in closures and query options. -/
def testName : TextPattern → String
  | .startsWith _ => "startswith"
  | .endsWith _ => "endswith"
  | .contains _ => "contains"

/-- A natural number as a term. -/
def naturalTerm (n : Nat) : Closure.Term := .constant (.int (Int64.ofNat n))

mutual

/-- A formula as the body of a closure of one parameter. -/
def term (row : String) : Formula → Closure.Term
  | .member names => names.foldl .attribute (.param row)
  | .int n => .constant (.int n)
  | .string s => .constant (.string s)
  | .bool b => .constant (.bool b)
  | .compare op left right => .compare (term row left) [(comparator op, term row right)]
  | .isNull negated operand =>
    .compare (term row operand) [(if negated then .isNot else .is, .constant .null)]
  | .chain op operands => .logical op (terms row operands)
  | .not operand => .not (term row operand)
  | .arithmetic op left right => .arithmetic op (term row left) (term row right)
  | .apply func operand =>
    if isMethod func then .call (.attribute (term row operand) (closureName func)) [] []
    else .call (.free (closureName func)) [term row operand] []
  | .substring operand start length =>
    .slice (term row operand) (some (naturalTerm start))
      (length.map fun n => naturalTerm (start + n)) none
  | .textTest pattern operand =>
    .call (.attribute (term row operand) (testName pattern)) [.constant (.string pattern.text)] []
  | .choice condition yes no => .choice (term row condition) (term row yes) (term row no)

/-- Formulas as terms. -/
def terms (row : String) : List Formula → List Closure.Term
  | [] => []
  | f :: rest => term row f :: terms row rest

end

/-! ### Query options -/

/-- The level of an arithmetic operator and of its left operand. -/
def arithmeticLevel : ArithmeticOp → OData.Level
  | .add | .subtract => .sum
  | _ => .product

/-- The level of the right operand of an arithmetic operator. -/
def rightLevel : ArithmeticOp → OData.Level
  | .add | .subtract => .product
  | _ => .primary

/-- The level of the text of a formula. -/
def level : Formula → OData.Level
  | .compare .. | .isNull .. => .comparison
  | .chain op _ => OData.connectiveLevel op
  | .not _ => .negation
  | .arithmetic op .. => arithmeticLevel op
  | _ => .primary

/-- The text of a formula where a level is asked for. -/
def textAt (sp : Spelling) (l : OData.Level) (f : Formula) (text : String) : String :=
  if f.level.rank ≤ l.rank && !sp.parenthesized f then text else "(" ++ text ++ ")"

/-- A word between two texts. -/
def spaced (left word right : String) : String := left ++ " " ++ word ++ " " ++ right

mutual

/-- The text of a formula in query options. -/
def optionText (sp : Spelling) : Formula → String
  | .member names => "/".intercalate names
  | .int n => OData.literalText (.int n)
  | .string s => OData.literalText (.string s)
  | .bool b => OData.literalText (.bool b)
  | .compare op left right =>
    spaced (textAt sp .sum left (optionText sp left))
      (OData.Dialect.standard.comparisonWord op) (textAt sp .sum right (optionText sp right))
  | .isNull negated operand =>
    spaced (textAt sp .sum operand (optionText sp operand)) (if negated then "ne" else "eq")
      (OData.literalText .null)
  | .chain op operands =>
    (" " ++ OData.logicalWord op ++ " ").intercalate
      (optionTexts sp (OData.operandLevel op) operands)
  | .not operand => "not " ++ textAt sp .negation operand (optionText sp operand)
  | .arithmetic op left right =>
    spaced (textAt sp (arithmeticLevel op) left (optionText sp left)) (OData.arithmeticWord op)
      (textAt sp (rightLevel op) right (optionText sp right))
  | .apply func operand => OData.callText (OData.functionName func) [optionText sp operand]
  | .substring operand start length =>
    OData.callText "substring"
      (optionText sp operand :: Integer.natText start :: (length.map Integer.natText).toList)
  | .textTest pattern operand =>
    OData.callText (testName pattern) [optionText sp operand, OData.quote pattern.text]
  | .choice condition yes no =>
    "case(" ++ optionText sp condition ++ ":" ++ optionText sp yes ++ ",true:" ++
      optionText sp no ++ ")"

/-- The texts of operands where a level is asked for. -/
def optionTexts (sp : Spelling) (l : OData.Level) : List Formula → List String
  | [] => []
  | f :: rest => textAt sp l f (optionText sp f) :: optionTexts sp l rest

end

/-! ### SQL -/

/-- The name of a function in SQL. -/
def sqlName (func : Func) : String :=
  Text.upper (match func with
    | .toLower => "lower"
    | .toUpper => "upper"
    | .ceil => "ceil"
    | func => OData.functionName func)

/-- The functions that take a part of a date. -/
def dateParts : List Func := [.year, .month, .day, .hour, .minute, .second]

/-- A number of SQL text. -/
def number (n : Nat) : Sql.Tree := .constant (.number (Integer.natText n) false)

/-- A function of one operand in SQL. -/
def functionTree (sp : Spelling) (func : Func) (operand : Sql.Tree) : Sql.Tree :=
  match func with
  | .trim => .trim operand []
  | .ceil | .floor => .rounding (sqlName func) operand ""
  | func =>
    if func ∈ dateParts ∧ sp.extracted func = true then .extract (sqlName func) " FROM " operand
    else .call (.of [⟨sqlName func, none⟩] (.arguments none [])) [.value operand]

/-- A text with its wildcards and the escape character itself escaped. -/
def protect (escape : Option Char) (cs : List Char) : List Char :=
  match escape with
  | none => cs
  | some e => cs.flatMap fun c => if c = e ∨ c = '%' ∨ c = '_' then [e, c] else [c]

/-- The pattern of `LIKE` that a text test is written with. -/
def likePattern (escape : Option Char) : TextPattern → List Char
  | .startsWith s => protect escape s.toList ++ ['%']
  | .endsWith s => '%' :: protect escape s.toList
  | .contains s => '%' :: (protect escape s.toList ++ ['%'])

/-- The level of the SQL of a formula; the tests of texts are comparisons there. -/
def sqlLevel : Formula → OData.Level
  | .textTest .. => .comparison
  | f => f.level

/-- The tree of a formula where a level is asked for. -/
def treeAt (sp : Spelling) (l : OData.Level) (f : Formula) (t : Sql.Tree) : Sql.Tree :=
  if f.sqlLevel.rank ≤ l.rank && !sp.parenthesized f then t else .nested t

/-- Operands with a connective between them, joined from the left. -/
def joinedTree (op : LogicalOp) : List Sql.Tree → Sql.Tree
  | [] => .chain (.logical op) []
  | t :: rest => rest.foldl (Sql.Tree.joined (.logical op)) t

mutual

/-- A formula as a tree of SQL. -/
def tree (sp : Spelling) : Formula → Sql.Tree
  | .member [name] => .name ⟨name, none⟩
  | .member names => .path (names.map fun name => ⟨name, none⟩)
  | .int n => if n < 0 then .unary .minus (number n.toInt.natAbs) else number n.toInt.natAbs
  | .string s => .constant (.text .single s)
  | .bool b => .constant (.bool b)
  | .compare op left right =>
    .binary (.compare op) (treeAt sp .sum left (tree sp left))
      (treeAt sp .sum right (tree sp right))
  | .isNull negated operand => .isNull negated (treeAt sp .sum operand (tree sp operand))
  | .chain op operands => joinedTree op (trees sp (OData.operandLevel op) operands)
  | .not operand => .unary .not (treeAt sp .negation operand (tree sp operand))
  | .arithmetic op left right =>
    .binary (.arithmetic op) (treeAt sp (arithmeticLevel op) left (tree sp left))
      (treeAt sp (rightLevel op) right (tree sp right))
  | .apply func operand => functionTree sp func (tree sp operand)
  | .substring operand start length =>
    .substring true (tree sp operand) (some (number (start + 1))) (length.map number)
  | .textTest pattern operand =>
    .like false false false (treeAt sp .sum operand (tree sp operand))
      (.constant (.text .single (String.ofList (likePattern (sp.escape pattern.text) pattern))))
      ((sp.escape pattern.text).map String.singleton)
  | .choice condition yes no =>
    .case none [(tree sp condition, tree sp yes)] (some (tree sp no))

/-- The trees of operands where a level is asked for. -/
def trees (sp : Spelling) (l : OData.Level) : List Formula → List Sql.Tree
  | [] => []
  | f :: rest => treeAt sp l f (tree sp f) :: trees sp l rest

end

end Formula

/-! ### Lists and offsets -/

theorem Formula.meanings_length (operands : List Formula) :
    (Formula.meanings operands).length = operands.length := by
  induction operands with
  | nil => rfl
  | cons f operands ih => rw [Formula.meanings, List.length_cons, List.length_cons, ih]

/-- The operands of a chain are nested to the right. -/
theorem Formula.foldLogical?_meanings (op : LogicalOp) {operands : List Formula}
    (h : 2 ≤ operands.length) :
    Expr.foldLogical? op (meanings operands) = some (Formula.chain op operands).meaning :=
  Expr.foldLogical?_eq_nestRight (by rw [meanings_length]; exact h)

theorem ofNat_nonneg {n : Nat} (h : n < Nat.pow 2 63) : 0 ≤ Int64.ofNat n := by
  rw [Int64.le_iff_toInt_le, Int64.toInt_ofNat_of_lt h]
  exact Int.natCast_nonneg n

end Polyquery.FrontEnds
