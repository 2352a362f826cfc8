import Polyquery.Expr.Document
import Polyquery.Proofs.LiteralText
import Polyquery.Proofs.Outcome

/-!
# Documents that read back

* `Json.NumbersFit` - documents whose numbers are those of JSON;
* `Documented` - the expressions whose document tells them apart from all others;
* `Documented.reads` - the document of such an expression reads back;
* `readsDocumented` - nothing else is ever read from a document;
* `ofDocument_toDocument` - a document reads back exactly if the expression is documented.
-/

namespace Polyquery

/-- Documents whose numbers are those of JSON: integers of 64 bits, with or without a sign, and
finite floating-point numbers. -/
inductive Json.NumbersFit : Json → Prop where
  | null : NumbersFit .null
  | bool (b : Bool) : NumbersFit (.bool b)
  | int {n : Int} : -Int.pow 2 63 ≤ n → n < Int.pow 2 64 → NumbersFit (.int n)
  | float {f : Double} : f.isFinite = true → NumbersFit (.float f)
  | string (s : String) : NumbersFit (.string s)
  | array {items : List Json} : (∀ item ∈ items, NumbersFit item) → NumbersFit (.array items)
  | object {fields : List (String × Json)} :
      (∀ entry ∈ fields, NumbersFit entry.2) → NumbersFit (.object fields)

namespace Expr

/-- Induction over a tree, with the lists of its subtrees. -/
theorem induction {P : Expr → Prop} (field : ∀ path, P (.field path))
    (literal : ∀ value, P (.literal value))
    (compare : ∀ op left right, P left → P right → P (.compare op left right))
    (logical : ∀ op args, (∀ a ∈ args, P a) → P (.logical op args))
    (not : ∀ arg, P arg → P (.not arg))
    (arithmetic : ∀ op left right, P left → P right → P (.arithmetic op left right))
    (call : ∀ func args, (∀ a ∈ args, P a) → P (.call func args))
    (regexMatch : ∀ input regex options, P input → P (.regexMatch input regex options))
    (cond : ∀ condition yes no, P condition → P yes → P no → P (.cond condition yes no))
    (switch : ∀ branches default, (∀ b ∈ branches, P b.1) → (∀ b ∈ branches, P b.2) →
      (∀ d ∈ default, P d) → P (.switch branches default))
    (custom : ∀ name args, (∀ a ∈ args, P a) → P (.custom name args)) (e : Expr) : P e := by
  refine Expr.rec (motive_1 := P) (motive_2 := fun args => ∀ a ∈ args, P a)
    (motive_3 := fun branches => ∀ b ∈ branches, P b.1 ∧ P b.2)
    (motive_4 := fun default => ∀ d ∈ default, P d) (motive_5 := fun b => P b.1 ∧ P b.2)
    field literal compare logical not arithmetic call regexMatch cond ?_ custom
    ?_ ?_ ?_ ?_ ?_ ?_ ?_ e
  · intro branches default hbranches hdefault
    exact switch branches default (fun b hb => (hbranches b hb).1) (fun b hb => (hbranches b hb).2)
      hdefault
  · exact fun a ha => nomatch ha
  · intro a rest ha hrest b hb
    rcases List.mem_cons.1 hb with rfl | hmem
    · exact ha
    · exact hrest b hmem
  · exact fun b hb => nomatch hb
  · intro b rest hb hrest c hc
    rcases List.mem_cons.1 hc with rfl | hmem
    · exact hb
    · exact hrest c hmem
  · exact fun d hd => nomatch hd
  · intro d hd d' hd'
    cases hd'
    exact hd
  · intro condition value hcondition hvalue
    exact ⟨hcondition, hvalue⟩

/-! ### Expressions with a document of their own -/

/-- Whether a text is a dollar sign with something behind it, as the document of a field is. -/
def isFieldText (s : String) : Bool :=
  match s.toList with
  | '$' :: _ :: _ => true
  | _ => false

/-- Literals with a document of their own. -/
inductive DocumentedLiteral : Literal → Prop where
  | null : DocumentedLiteral .null
  | bool (b : Bool) : DocumentedLiteral (.bool b)
  | int (n : Int64) : DocumentedLiteral (.int n)
  | double {f : Double} : f.isFinite = true → DocumentedLiteral (.double f)
  | string {s : String} : isFieldText s = false → DocumentedLiteral (.string s)

/-- Expressions with a document of their own. -/
inductive Documented : Expr → Prop where
  | field {path : String} : path ≠ "" → Documented (.field path)
  | literal {value : Literal} : DocumentedLiteral value → Documented (.literal value)
  | compare {op : ComparisonOp} {left right : Expr} :
      Documented left → Documented right → Documented (.compare op left right)
  | logical {op : LogicalOp} {args : List Expr} :
      2 ≤ args.length → (∀ a ∈ args, Documented a) → Documented (.logical op args)
  | not {arg : Expr} : Documented arg → Documented (.not arg)
  | arithmetic {op : ArithmeticOp} {left right : Expr} :
      Documented left → Documented right → Documented (.arithmetic op left right)
  | call {func : Func} {args : List Expr} :
      (∀ a ∈ args, Documented a) → Documented (.call func args)
  | regexMatch {input : Expr} {regex : String} {options : Option String} :
      Documented input → Documented (.regexMatch input regex options)
  | cond {condition yes no : Expr} :
      Documented condition → Documented yes → Documented no → Documented (.cond condition yes no)
  | switch {branches : List (Expr × Expr)} {default : Option Expr} :
      (∀ b ∈ branches, Documented b.1) → (∀ b ∈ branches, Documented b.2) →
      (∀ d ∈ default, Documented d) → Documented (.switch branches default)

/-! ### Tags -/

theorem ofTag?_comparison (op : ComparisonOp) : ComparisonOp.ofTag? op.tag = some op := by
  cases op <;> rfl

theorem ofTag?_arithmetic (op : ArithmeticOp) : ArithmeticOp.ofTag? op.tag = some op := by
  cases op <;> rfl

theorem ofTag?_function (func : Func) : Func.ofTag? func.tag = some func := by
  cases func <;> rfl

theorem comparison_ofTag?_arithmetic (op : ArithmeticOp) : ComparisonOp.ofTag? op.tag = none := by
  cases op <;> rfl

theorem comparison_ofTag?_function (func : Func) : ComparisonOp.ofTag? func.tag = none := by
  cases func <;> rfl

theorem arithmetic_ofTag?_function (func : Func) : ArithmeticOp.ofTag? func.tag = none := by
  cases func <;> rfl

/-! ### Documents read back -/

/-- An operator over a list of documents is assembled from what they read as. -/
theorem ofDocument_positional {tag : String} {items : List Json} {args : List Expr}
    {result : QueryResult Expr} (hitems : ofList items = .ok args)
    (h : ofPositional? tag (.ok args) = some result) :
    ofDocument (tagged tag (.array items)) = result := by
  rw [tagged, ofDocument, ofOperator, hitems, h]

theorem ofPositional?_comparison (op : ComparisonOp) (left right : Expr) :
    ofPositional? op.tag (.ok [left, right]) = some (.ok (.compare op left right)) := by
  rw [ofPositional?, ofTag?_comparison]
  rfl

theorem ofPositional?_arithmetic (op : ArithmeticOp) (left right : Expr) :
    ofPositional? op.tag (.ok [left, right]) = some (.ok (.arithmetic op left right)) := by
  rw [ofPositional?, comparison_ofTag?_arithmetic, ofTag?_arithmetic]
  rfl

theorem ofPositional?_function (func : Func) (args : List Expr) :
    ofPositional? func.tag (.ok args) = some (.ok (.call func args)) := by
  rw [ofPositional?, comparison_ofTag?_function, arithmetic_ofTag?_function, ofTag?_function]
  rfl

theorem ofPositional?_logical (op : LogicalOp) {args : List Expr} (h : 2 ≤ args.length) :
    ofPositional? op.tag (.ok args) = some (.ok (.logical op args)) := by
  cases op with
  | and =>
    show some (ofPositional?.connective "$and" .and args) = _
    rw [ofPositional?.connective, if_neg (Nat.not_lt.2 h)]
  | or =>
    show some (ofPositional?.connective "$or" .or args) = _
    rw [ofPositional?.connective, if_neg (Nat.not_lt.2 h)]

theorem ofText_field {path : String} (h : path ≠ "") : ofText ("$" ++ path) = .field path := by
  have hchars : ("$" ++ path).toList = '$' :: path.toList := by simp
  rw [ofText, hchars]
  cases hpath : path.toList with
  | nil => exact absurd (String.toList_eq_nil_iff.1 hpath) h
  | cons c rest =>
    show Expr.field (String.ofList (c :: rest)) = .field path
    rw [← hpath, String.ofList_toList]

theorem ofText_string {s : String} (h : isFieldText s = false) : ofText s = .string s := by
  unfold isFieldText at h
  unfold ofText
  split
  · rename_i c rest hchars
    rw [hchars] at h
    cases h
  · rfl

theorem DocumentedLiteral.reads {value : Literal} (h : DocumentedLiteral value) :
    ofDocument value.toDocument = .ok (.literal value) := by
  cases h with
  | null => rfl
  | bool b => rfl
  | int n =>
    rw [Literal.toDocument, ofDocument, ofInteger, Integer.to64?_toInt]
    rfl
  | double hfinite =>
    rw [Literal.toDocument, Json.ofDouble, if_pos hfinite, ofDocument]
  | string htext =>
    rw [Literal.toDocument, ofDocument, ofText_string htext]
    rfl

theorem ofList_listDocuments {args : List Expr}
    (h : ∀ a ∈ args, ofDocument a.toDocument = .ok a) : ofList (listDocuments args) = .ok args := by
  induction args with
  | nil => rfl
  | cons a rest ih =>
    rw [listDocuments, ofList, h a List.mem_cons_self,
      ih fun b hb => h b (List.mem_cons_of_mem a hb)]
    rfl

theorem ofBranches_branchDocuments {branches : List (Expr × Expr)}
    (hcondition : ∀ b ∈ branches, ofDocument b.1.toDocument = .ok b.1)
    (hvalue : ∀ b ∈ branches, ofDocument b.2.toDocument = .ok b.2) :
    ofBranches (branchDocuments branches) = .ok branches := by
  induction branches with
  | nil => rfl
  | cons b rest ih =>
    obtain ⟨condition, value⟩ := b
    have hrest := ih (fun b hb => hcondition b (List.mem_cons_of_mem _ hb))
      fun b hb => hvalue b (List.mem_cons_of_mem _ hb)
    have hcase : ofNamed? "case" [("case", condition.toDocument), ("then", value.toDocument)]
        = some (.ok condition) := by
      rw [ofNamed?, if_pos rfl, hcondition _ List.mem_cons_self]
    have hthen : ofNamed? "then" [("case", condition.toDocument), ("then", value.toDocument)]
        = some (.ok value) := by
      rw [ofNamed?, if_neg (by decide), ofNamed?, if_pos rfl, hvalue _ List.mem_cons_self]
    rw [branchDocuments, ofBranches, hcase, hthen, hrest]
    rfl

theorem reads_regexMatch {input : Expr} (hinput : ofDocument input.toDocument = .ok input)
    (regex : String) (options : Option String) :
    ofDocument (regexMatch input regex options).toDocument
      = .ok (.regexMatch input regex options) := by
  rw [toDocument, tagged, ofDocument, ofOperator, if_pos rfl]
  have hnamed : ∀ more, ofNamed? "input" (("input", input.toDocument) :: more)
      = some (.ok input) := by
    intro more
    rw [ofNamed?, if_pos rfl, hinput]
  cases options with
  | none => rw [List.cons_append, hnamed]; rfl
  | some o => rw [List.cons_append, hnamed]; rfl

theorem reads_switch {branches : List (Expr × Expr)} {default : Option Expr}
    (hcondition : ∀ b ∈ branches, ofDocument b.1.toDocument = .ok b.1)
    (hvalue : ∀ b ∈ branches, ofDocument b.2.toDocument = .ok b.2)
    (hdefault : ∀ d ∈ default, ofDocument d.toDocument = .ok d) :
    ofDocument (switch branches default).toDocument = .ok (.switch branches default) := by
  have hbranches : ∀ more, branchesOf? (("branches", .array (branchDocuments branches)) :: more)
      = some (.ok branches) := by
    intro more
    rw [branchesOf?, if_pos rfl, ofBranches_branchDocuments hcondition hvalue]
  rw [toDocument, tagged, ofDocument, ofOperator, if_neg (by decide), if_pos rfl, hbranches]
  cases default with
  | none => rfl
  | some d =>
    have hnamed : ofNamed? "default" [("branches", .array (branchDocuments branches)),
        ("default", d.toDocument)] = some (.ok d) := by
      rw [ofNamed?, if_neg (by decide), ofNamed?, if_pos rfl, hdefault d rfl]
    rw [defaultEntry, hnamed]
    rfl

/-- The document of a documented expression reads back. -/
theorem Documented.reads {e : Expr} (h : Documented e) : ofDocument e.toDocument = .ok e := by
  induction h with
  | field hpath =>
    rw [toDocument, ofDocument, ofText_field hpath]
  | literal hvalue =>
    rw [toDocument]
    exact hvalue.reads
  | @compare op left right _ _ hleft hright =>
    have hargs := @ofList_listDocuments [left, right] (by simp [hleft, hright])
    exact ofDocument_positional hargs (ofPositional?_comparison op left right)
  | @logical op args hlength _ hargs =>
    exact ofDocument_positional (ofList_listDocuments hargs) (ofPositional?_logical op hlength)
  | @not arg _ harg =>
    exact ofDocument_positional (@ofList_listDocuments [arg] (by simp [harg])) rfl
  | @arithmetic op left right _ _ hleft hright =>
    have hargs := @ofList_listDocuments [left, right] (by simp [hleft, hright])
    exact ofDocument_positional hargs (ofPositional?_arithmetic op left right)
  | @call func args _ hargs =>
    exact ofDocument_positional (ofList_listDocuments hargs) (ofPositional?_function func args)
  | @regexMatch input regex options _ hinput => exact reads_regexMatch hinput regex options
  | @cond condition yes no _ _ _ hcondition hyes hno =>
    have hargs := @ofList_listDocuments [condition, yes, no] (by simp [hcondition, hyes, hno])
    exact ofDocument_positional hargs rfl
  | switch _ _ _ hcondition hvalue hdefault => exact reads_switch hcondition hvalue hdefault

/-! ### Nothing else is read -/

/-- Every tree of a list is documented. -/
def AllDocumented (es : List Expr) : Prop := ∀ e ∈ es, Documented e

/-- Every condition and value of a branch is documented. -/
def BranchesDocumented (branches : List (Expr × Expr)) : Prop :=
  ∀ b ∈ branches, Documented b.1 ∧ Documented b.2

theorem documented_ofText (s : String) : Documented (ofText s) := by
  unfold ofText
  split
  · rename_i c rest hchars
    refine .field fun hempty => ?_
    rw [← String.toList_eq_nil_iff, String.toList_ofList] at hempty
    cases hempty
  · rename_i hother
    refine .literal (.string ?_)
    unfold isFieldText
    split
    · rename_i c rest hchars
      exact absurd hchars (hother c rest)
    · rfl

/-- The unit in the last place of an integer of 64 bits is small. -/
theorem unitExponent_double_le {n : Nat} (h : n < Nat.pow 2 64) :
    BinaryFloat.unitExponent .double n 1 ≤ 11 := by
  have hlog : n.log2 < 64 := by
    by_cases hn : n = 0
    · rw [hn]
      decide
    · exact (Nat.log2_lt hn).2 h
  have hone : (1 : Nat).log2 = 0 := by decide
  unfold BinaryFloat.unitExponent
  refine Int.max_le.2 ⟨by decide, ?_⟩
  rw [hone]
  have hprecision : (FloatFormat.double.precision : Int) = 53 := rfl
  split <;> omega

/-- An integer of 64 bits is in the range of doubles. -/
theorem isFinite_ofInt {n : Int} (h : n.natAbs < Nat.pow 2 64) :
    (BinaryFloat.ofInt n : Double).isFinite = true := by
  have hunit := unitExponent_double_le h
  have hmax : FloatFormat.double.maxExponent = 971 := rfl
  unfold BinaryFloat.ofInt BinaryFloat.ofRatio
  split
  · rfl
  · unfold BinaryFloat.assemble
    rw [if_neg]
    · rfl
    · split <;> omega

theorem documented_ofInteger {n : Int} (hlow : -Int.pow 2 63 ≤ n) (hhigh : n < Int.pow 2 64) :
    Documented (ofInteger n) := by
  unfold ofInteger
  split
  · exact .literal (.int _)
  · have hbound : n.natAbs < Nat.pow 2 64 := by
      have hlow' : -9223372036854775808 ≤ n := hlow
      have hhigh' : n < 18446744073709551616 := hhigh
      show n.natAbs < 18446744073709551616
      omega
    exact .literal (.double (isFinite_ofInt hbound))

theorem gives_binary {tag : String} {make : Expr → Expr → Expr}
    (hmake : ∀ left right, Documented left → Documented right → Documented (make left right))
    (args : List Expr) (h : AllDocumented args) : Gives Documented (binary tag make args) := by
  unfold binary
  split
  · rename_i left right
    exact .ok (hmake left right (h left (by simp)) (h right (by simp)))
  · exact .error _ _

theorem gives_connective (tag : String) (op : LogicalOp) (args : List Expr)
    (h : AllDocumented args) : Gives Documented (ofPositional?.connective tag op args) := by
  unfold ofPositional?.connective
  split
  · exact .error _ _
  · rename_i hlength
    exact .ok (.logical (Nat.not_lt.1 hlength) h)

/-- An operator over documented trees is documented. -/
theorem gives_ofPositional {tag : String} {args : QueryResult (List Expr)}
    (h : Gives AllDocumented args) : ∀ result ∈ ofPositional? tag args, Gives Documented result := by
  intro result hresult
  unfold ofPositional? at hresult
  split at hresult
  · cases hresult
    exact h.bind (gives_binary fun _ _ => .compare)
  · cases hresult
    exact h.bind (gives_binary fun _ _ => .arithmetic)
  · cases hresult
    exact h.map fun args hargs => .call hargs
  · split at hresult
    · cases hresult
      exact h.bind (gives_connective tag .and)
    split at hresult
    · cases hresult
      exact h.bind (gives_connective tag .or)
    split at hresult
    · cases hresult
      refine h.bind fun args hargs => ?_
      split
      · rename_i arg
        exact .ok (.not (hargs arg (by simp)))
      · exact .error _ _
    split at hresult
    · cases hresult
      refine h.bind fun args hargs => ?_
      split
      · rename_i condition yes no
        exact .ok (.cond (hargs condition (by simp)) (hargs yes (by simp)) (hargs no (by simp)))
      · exact .error _ _
    · cases hresult

/-- What is read from a document, in every place a document can stand in. -/
structure ReadsDocumented (d : Json) : Prop where
  tree : Gives Documented (ofDocument d)
  list : ∀ items, d = .array items → Gives AllDocumented (ofList items)
  branches : ∀ items, d = .array items → Gives BranchesDocumented (ofBranches items)
  named : ∀ fields, d = .object fields →
    ∀ key, ∀ result ∈ ofNamed? key fields, Gives Documented result
  branchList : ∀ fields, d = .object fields →
    ∀ result ∈ branchesOf? fields, Gives BranchesDocumented result

namespace ReadsDocumented

theorem ofList {items : List Json} (h : ∀ item ∈ items, ReadsDocumented item) :
    Gives AllDocumented (ofList items) := by
  induction items with
  | nil => exact .ok fun e he => nomatch he
  | cons item rest ih =>
    rw [Expr.ofList]
    refine (h item List.mem_cons_self).tree.bind fun e he => ?_
    refine (ih fun d hd => h d (List.mem_cons_of_mem _ hd)).bind fun es hes => .ok ?_
    intro e' he'
    rcases List.mem_cons.1 he' with rfl | hmem
    · exact he
    · exact hes e' hmem

theorem ofNamed {fields : List (String × Json)} (h : ∀ entry ∈ fields, ReadsDocumented entry.2)
    (key : String) : ∀ result ∈ ofNamed? key fields, Gives Documented result := by
  induction fields with
  | nil => exact fun result hresult => nomatch hresult
  | cons entry rest ih =>
    obtain ⟨k, value⟩ := entry
    intro result hresult
    rw [ofNamed?] at hresult
    split at hresult
    · cases hresult
      exact (h (k, value) List.mem_cons_self).tree
    · exact ih (fun e he => h e (List.mem_cons_of_mem _ he)) result hresult

theorem ofBranches {items : List Json} (h : ∀ item ∈ items, ReadsDocumented item) :
    Gives BranchesDocumented (ofBranches items) := by
  induction items with
  | nil => exact .ok fun b hb => nomatch hb
  | cons item rest ih =>
    cases item with
    | object fields =>
      have hnamed := (h _ List.mem_cons_self).named fields rfl
      rw [Expr.ofBranches]
      split
      · rename_i condition value hcondition hvalue
        refine (hnamed "case" condition hcondition).bind fun c hc => ?_
        refine (hnamed "then" value hvalue).bind fun v hv => ?_
        refine (ih fun d hd => h d (List.mem_cons_of_mem _ hd)).bind fun bs hbs => .ok ?_
        intro b hb
        rcases List.mem_cons.1 hb with rfl | hmem
        · exact ⟨hc, hv⟩
        · exact hbs b hmem
      · exact .error _ _
    | null | bool | int | float | string | array => exact .error _ _

theorem branchesOf {fields : List (String × Json)} (h : ∀ entry ∈ fields, ReadsDocumented entry.2) :
    ∀ result ∈ branchesOf? fields, Gives BranchesDocumented result := by
  induction fields with
  | nil => exact fun result hresult => nomatch hresult
  | cons entry rest ih =>
    obtain ⟨k, value⟩ := entry
    have hrest := ih fun e he => h e (List.mem_cons_of_mem _ he)
    intro result hresult
    cases value with
    | array items =>
      rw [branchesOf?] at hresult
      split at hresult
      · cases hresult
        exact (h _ List.mem_cons_self).branches items rfl
      · exact hrest result hresult
    | null | bool | int | float | string | object =>
      rw [branchesOf?] at hresult
      · split at hresult
        · cases hresult
        · exact hrest result hresult
      all_goals simp

/-- An operator over a document is documented. -/
theorem ofOperator {d : Json} (h : ReadsDocumented d) (tag : String) :
    Gives Documented (ofOperator tag d) := by
  cases d with
  | array items =>
    rw [Expr.ofOperator]
    split
    · rename_i result hresult
      exact gives_ofPositional (h.list items rfl) result hresult
    · split
      · exact .error _ _
      · split <;> exact .error _ _
  | object fields =>
    rw [Expr.ofOperator]
    split
    · split
      · exact .error _ _
      · rename_i input hinput
        split
        · exact .error _ _
        · exact (h.named fields rfl "input" input hinput).map fun e he => .regexMatch he
    · split
      · split
        · exact .error _ _
        · rename_i branches hbranches
          refine (h.branchList fields rfl branches hbranches).bind fun bs hbs => ?_
          have hconditions := fun b hb => (hbs b hb).1
          have hvalues := fun b hb => (hbs b hb).2
          split
          · exact .ok (.switch hconditions hvalues fun d hd => nomatch hd)
          · rename_i default hdefault
            refine (h.named fields rfl "default" default hdefault).map fun e he => ?_
            refine .switch hconditions hvalues fun d hd => ?_
            cases hd
            exact he
      · split
        · rename_i result hresult
          exact gives_ofPositional (.error _ _) result hresult
        · exact .error _ _
  | null | bool | int | float | string =>
    rw [Expr.ofOperator]
    · split
      · exact .error _ _
      · split
        · exact .error _ _
        · split
          · rename_i result hresult
            exact gives_ofPositional (.error _ _) result hresult
          · exact .error _ _
    all_goals simp

theorem ofObject {fields : List (String × Json)} (h : ∀ entry ∈ fields, ReadsDocumented entry.2) :
    Gives Documented (ofDocument (.object fields)) := by
  cases fields with
  | nil => exact .error _ _
  | cons entry rest =>
    cases rest with
    | nil =>
      rw [ofDocument]
      exact (h entry List.mem_cons_self).ofOperator entry.1
    | cons second more => exact .error _ _

end ReadsDocumented

/-- Whatever is read from a document is documented. -/
theorem readsDocumented {d : Json} (h : d.NumbersFit) : ReadsDocumented d := by
  induction h with
  | null => exact ⟨.ok (.literal .null), nofun, nofun, nofun, nofun⟩
  | bool b => exact ⟨.ok (.literal (.bool b)), nofun, nofun, nofun, nofun⟩
  | int hlow hhigh =>
    exact ⟨.ok (documented_ofInteger hlow hhigh), nofun, nofun, nofun, nofun⟩
  | float hfinite => exact ⟨.ok (.literal (.double hfinite)), nofun, nofun, nofun, nofun⟩
  | string s => exact ⟨.ok (documented_ofText s), nofun, nofun, nofun, nofun⟩
  | @array items _ ih =>
    refine ⟨.error _ _, ?_, ?_, nofun, nofun⟩
    · intro items' heq
      cases heq
      exact ReadsDocumented.ofList ih
    · intro items' heq
      cases heq
      exact ReadsDocumented.ofBranches ih
  | @object fields _ ih =>
    refine ⟨ReadsDocumented.ofObject ih, nofun, nofun, ?_, ?_⟩
    · intro fields' heq
      cases heq
      exact ReadsDocumented.ofNamed ih
    · intro fields' heq
      cases heq
      exact ReadsDocumented.branchesOf ih

/-! ### Documents of expressions -/

theorem listDocuments_eq_map (args : List Expr) : listDocuments args = args.map toDocument := by
  induction args with
  | nil => rfl
  | cons a rest ih => rw [listDocuments, ih, List.map_cons]

theorem branchDocuments_eq_map (branches : List (Expr × Expr)) :
    branchDocuments branches
      = branches.map fun b => .object [("case", b.1.toDocument), ("then", b.2.toDocument)] := by
  induction branches with
  | nil => rfl
  | cons b rest ih => rw [branchDocuments, ih, List.map_cons]

theorem numbersFit_ofDouble (f : Double) : (Json.ofDouble f).NumbersFit := by
  unfold Json.ofDouble
  split
  · rename_i hfinite
    exact .float hfinite
  · exact .null

theorem numbersFit_literal (value : Literal) : value.toDocument.NumbersFit := by
  cases value with
  | null => exact .null
  | bool b => exact .bool b
  | int n | long n =>
    exact .int n.le_toInt (Int.lt_of_lt_of_le n.toInt_lt (by decide))
  | single f => exact numbersFit_ofDouble _
  | double f => exact numbersFit_ofDouble f
  | decimal d => exact numbersFit_ofDouble _
  | string s | dateTime s | time s | binary s => exact .string s
  | guid g => exact .string _

theorem numbersFit_tagged {tag : String} {operands : Json} (h : operands.NumbersFit) :
    (tagged tag operands).NumbersFit := by
  refine .object fun entry hentry => ?_
  rw [List.mem_singleton.1 hentry]
  exact h

theorem numbersFit_list {args : List Expr} (h : ∀ a ∈ args, a.toDocument.NumbersFit) :
    (Json.array (listDocuments args)).NumbersFit := by
  refine .array fun d hd => ?_
  rw [listDocuments_eq_map] at hd
  obtain ⟨a, ha, rfl⟩ := List.mem_map.1 hd
  exact h a ha

/-- The named operands of a text test: its input, and texts. -/
theorem numbersFit_test {input : Json} (h : input.NumbersFit) (regex : String)
    (options : Option String) :
    (Json.object ([("input", input), ("regex", .string regex)] ++
      options.toList.map fun o => ("options", .string o))).NumbersFit := by
  refine .object fun entry hentry => ?_
  simp only [List.cons_append, List.nil_append, List.mem_cons, List.mem_map] at hentry
  rcases hentry with rfl | rfl | ⟨o, -, rfl⟩
  · exact h
  · exact .string regex
  · exact .string o

theorem numbersFit_branch {condition value : Json} (hcondition : condition.NumbersFit)
    (hvalue : value.NumbersFit) :
    (Json.object [("case", condition), ("then", value)]).NumbersFit := by
  refine .object fun entry hentry => ?_
  simp only [List.mem_cons, List.not_mem_nil, or_false] at hentry
  rcases hentry with rfl | rfl
  · exact hcondition
  · exact hvalue

/-- The named operands of a choice: its branches, and the default if there is one. -/
theorem numbersFit_choice {branches : List (Expr × Expr)} {default : Option Expr}
    (hcondition : ∀ b ∈ branches, b.1.toDocument.NumbersFit)
    (hvalue : ∀ b ∈ branches, b.2.toDocument.NumbersFit)
    (hdefault : ∀ d ∈ default, d.toDocument.NumbersFit) :
    (Json.object (("branches", .array (branchDocuments branches)) ::
      defaultEntry default)).NumbersFit := by
  refine .object fun entry hentry => ?_
  rcases List.mem_cons.1 hentry with rfl | hmem
  · refine .array fun d hd => ?_
    rw [branchDocuments_eq_map] at hd
    obtain ⟨b, hb, rfl⟩ := List.mem_map.1 hd
    exact numbersFit_branch (hcondition b hb) (hvalue b hb)
  · cases default with
    | none => cases hmem
    | some d =>
      rw [List.mem_singleton.1 hmem]
      exact hdefault d rfl

/-- The numbers of the document of an expression are those of JSON. -/
theorem numbersFit_toDocument (e : Expr) : e.toDocument.NumbersFit := by
  induction e using Expr.induction with
  | field path => exact .string _
  | literal value => exact numbersFit_literal value
  | compare op left right hleft hright =>
    exact numbersFit_tagged (@numbersFit_list [left, right] (by simp [hleft, hright]))
  | logical op args hargs => exact numbersFit_tagged (numbersFit_list hargs)
  | not arg harg => exact numbersFit_tagged (@numbersFit_list [arg] (by simp [harg]))
  | arithmetic op left right hleft hright =>
    exact numbersFit_tagged (@numbersFit_list [left, right] (by simp [hleft, hright]))
  | call func args hargs => exact numbersFit_tagged (numbersFit_list hargs)
  | regexMatch input regex options hinput =>
    exact numbersFit_tagged (numbersFit_test hinput regex options)
  | cond condition yes no hcondition hyes hno =>
    exact numbersFit_tagged (@numbersFit_list [condition, yes, no]
      (by simp [hcondition, hyes, hno]))
  | switch branches default hcondition hvalue hdefault =>
    exact numbersFit_tagged (numbersFit_choice hcondition hvalue hdefault)
  | custom name args hargs => exact numbersFit_tagged (numbersFit_list hargs)

/-! ### Numerical equality -/

theorem eq_self_of_isFinite {f : Double} (h : f.isFinite = true) : f.eq f = true := by
  cases f with
  | nan => cases h
  | infinite s => cases h
  | finite s m e => simp [BinaryFloat.eq]

theorem isFinite_of_eq {f g : Double} (h : f.isFinite = true) (heq : f.eq g = true) :
    g.isFinite = true := by
  cases f with
  | nan => cases h
  | infinite s => cases h
  | finite s m e =>
    cases g with
    | nan => cases heq
    | infinite s => cases heq
    | finite s' m' e' => rfl

theorem DocumentedLiteral.eqv_self {value : Literal} (h : DocumentedLiteral value) :
    value.eqv value = true := by
  cases h with
  | double hfinite => exact eq_self_of_isFinite hfinite
  | null | bool | int | string => simp [Literal.eqv]

theorem DocumentedLiteral.of_eqv {value other : Literal} (h : DocumentedLiteral value)
    (heqv : value.eqv other = true) : DocumentedLiteral other := by
  cases h with
  | double hfinite =>
    cases other with
    | double g => exact .double (isFinite_of_eq hfinite heqv)
    | _ => cases heqv
  | null =>
    obtain rfl : Literal.null = other := by simpa [Literal.eqv] using heqv
    exact .null
  | bool b =>
    obtain rfl : Literal.bool b = other := by simpa [Literal.eqv] using heqv
    exact .bool b
  | int n =>
    obtain rfl : Literal.int n = other := by simpa [Literal.eqv] using heqv
    exact .int n
  | @string s htext =>
    obtain rfl : Literal.string s = other := by simpa [Literal.eqv] using heqv
    exact .string htext

theorem eqvList_self {args : List Expr} (h : ∀ a ∈ args, a.eqv a = true) :
    eqvList args args = true := by
  induction args with
  | nil => rw [eqvList]
  | cons a rest ih =>
    rw [eqvList, h a List.mem_cons_self, ih fun b hb => h b (List.mem_cons_of_mem a hb)]
    rfl

theorem eqvBranches_self {branches : List (Expr × Expr)}
    (hcondition : ∀ b ∈ branches, b.1.eqv b.1 = true)
    (hvalue : ∀ b ∈ branches, b.2.eqv b.2 = true) : eqvBranches branches branches = true := by
  induction branches with
  | nil => rw [eqvBranches]
  | cons b rest ih =>
    obtain ⟨condition, value⟩ := b
    have hrest := ih (fun b hb => hcondition b (List.mem_cons_of_mem _ hb))
      fun b hb => hvalue b (List.mem_cons_of_mem _ hb)
    rw [eqvBranches, hcondition _ List.mem_cons_self, hvalue _ List.mem_cons_self, hrest]
    rfl

theorem Documented.eqv_self {e : Expr} (h : Documented e) : e.eqv e = true := by
  induction h with
  | field _ => simp [eqv]
  | literal hvalue => rw [eqv, hvalue.eqv_self]
  | compare _ _ hleft hright => simp [eqv, hleft, hright]
  | logical _ _ hargs => simp [eqv, eqvList_self hargs]
  | not _ harg => rw [eqv, harg]
  | arithmetic _ _ hleft hright => simp [eqv, hleft, hright]
  | call _ hargs => simp [eqv, eqvList_self hargs]
  | regexMatch _ hinput => simp [eqv, hinput]
  | cond _ _ _ hcondition hyes hno => simp [eqv, hcondition, hyes, hno]
  | @switch branches default _ _ _ hcondition hvalue hdefault =>
    rw [eqv, eqvBranches_self hcondition hvalue]
    cases default with
    | none => simp [eqvOption]
    | some d => simp [eqvOption, hdefault d rfl]

theorem eqvList_forall {P : Expr → Prop} {args others : List Expr}
    (h : ∀ a ∈ args, ∀ b, a.eqv b = true → P b) (heqv : eqvList args others = true) :
    args.length = others.length ∧ ∀ b ∈ others, P b := by
  induction args generalizing others with
  | nil =>
    cases others with
    | nil => exact ⟨rfl, fun b hb => nomatch hb⟩
    | cons b rest => simp [eqvList] at heqv
  | cons a rest ih =>
    cases others with
    | nil => simp [eqvList] at heqv
    | cons b more =>
      rw [eqvList, Bool.and_eq_true] at heqv
      obtain ⟨hlength, hmore⟩ := ih (fun c hc => h c (List.mem_cons_of_mem a hc)) heqv.2
      refine ⟨congrArg (· + 1) hlength, fun c hc => ?_⟩
      rcases List.mem_cons.1 hc with rfl | hmem
      · exact h a List.mem_cons_self c heqv.1
      · exact hmore c hmem

theorem eqvBranches_forall {P : Expr → Prop} {branches others : List (Expr × Expr)}
    (hcondition : ∀ a ∈ branches, ∀ b, a.1.eqv b = true → P b)
    (hvalue : ∀ a ∈ branches, ∀ b, a.2.eqv b = true → P b)
    (heqv : eqvBranches branches others = true) : ∀ b ∈ others, P b.1 ∧ P b.2 := by
  induction branches generalizing others with
  | nil =>
    cases others with
    | nil => exact fun b hb => nomatch hb
    | cons b rest => simp [eqvBranches] at heqv
  | cons a rest ih =>
    cases others with
    | nil => simp [eqvBranches] at heqv
    | cons b more =>
      rw [eqvBranches, Bool.and_eq_true, Bool.and_eq_true] at heqv
      obtain ⟨⟨hfirst, hsecond⟩, hrest⟩ := heqv
      intro c hc
      rcases List.mem_cons.1 hc with rfl | hmem
      · exact ⟨hcondition a List.mem_cons_self _ hfirst, hvalue a List.mem_cons_self _ hsecond⟩
      · exact ih (fun d hd => hcondition d (List.mem_cons_of_mem a hd))
          (fun d hd => hvalue d (List.mem_cons_of_mem a hd)) hrest c hmem

/-- Equality keeps a tree documented. -/
theorem Documented.of_eqv {e : Expr} (h : Documented e) :
    ∀ other, e.eqv other = true → Documented other := by
  induction h with
  | @field path hpath =>
    intro other heqv
    cases other with
    | field path' =>
      rw [eqv, beq_iff_eq] at heqv
      exact .field (heqv ▸ hpath)
    | _ => simp [eqv] at heqv
  | literal hvalue =>
    intro other heqv
    cases other with
    | literal value =>
      rw [eqv] at heqv
      exact .literal (hvalue.of_eqv heqv)
    | _ => simp [eqv] at heqv
  | compare _ _ hleft hright =>
    intro other heqv
    cases other with
    | compare op left right =>
      rw [eqv, Bool.and_eq_true, Bool.and_eq_true] at heqv
      exact .compare (hleft left heqv.1.2) (hright right heqv.2)
    | _ => simp [eqv] at heqv
  | logical hlength _ hargs =>
    intro other heqv
    cases other with
    | logical op args =>
      rw [eqv, Bool.and_eq_true] at heqv
      obtain ⟨hsame, hothers⟩ := eqvList_forall hargs heqv.2
      exact .logical (hsame ▸ hlength) hothers
    | _ => simp [eqv] at heqv
  | not _ harg =>
    intro other heqv
    cases other with
    | not arg =>
      rw [eqv] at heqv
      exact .not (harg arg heqv)
    | _ => simp [eqv] at heqv
  | arithmetic _ _ hleft hright =>
    intro other heqv
    cases other with
    | arithmetic op left right =>
      rw [eqv, Bool.and_eq_true, Bool.and_eq_true] at heqv
      exact .arithmetic (hleft left heqv.1.2) (hright right heqv.2)
    | _ => simp [eqv] at heqv
  | call _ hargs =>
    intro other heqv
    cases other with
    | call func args =>
      rw [eqv, Bool.and_eq_true] at heqv
      exact .call (eqvList_forall hargs heqv.2).2
    | _ => simp [eqv] at heqv
  | regexMatch _ hinput =>
    intro other heqv
    cases other with
    | regexMatch input regex options =>
      rw [eqv, Bool.and_eq_true, Bool.and_eq_true] at heqv
      exact .regexMatch (hinput input heqv.1.1)
    | _ => simp [eqv] at heqv
  | cond _ _ _ hcondition hyes hno =>
    intro other heqv
    cases other with
    | cond condition yes no =>
      rw [eqv, Bool.and_eq_true, Bool.and_eq_true] at heqv
      exact .cond (hcondition condition heqv.1.1) (hyes yes heqv.1.2) (hno no heqv.2)
    | _ => simp [eqv] at heqv
  | @switch branches default _ _ _ hcondition hvalue hdefault =>
    intro other heqv
    cases other with
    | switch others fallback =>
      rw [eqv, Bool.and_eq_true] at heqv
      have hothers := eqvBranches_forall hcondition hvalue heqv.1
      refine .switch (fun b hb => (hothers b hb).1) (fun b hb => (hothers b hb).2) ?_
      intro d hd
      cases hd
      cases default with
      | none => simp [eqvOption] at heqv
      | some first =>
        rw [eqvOption] at heqv
        exact hdefault first rfl d heqv.2
    | _ => simp [eqv] at heqv

/-! ### Exactly the documented expressions read back -/

/-- The document of an expression reads back as the expression, whether the two are compared as
they are or by numerical equality of their constants, exactly if the expression is documented.
What a document of numbers that fit reads as is such an expression. -/
theorem ofDocument_toDocument :
    (∀ e, ofDocument e.toDocument = .ok e ↔ Documented e) ∧
    (∀ e, (∃ back, ofDocument e.toDocument = .ok back ∧ back.eqv e = true) ↔ Documented e) ∧
    ∀ d : Json, d.NumbersFit → ∀ e, ofDocument d = .ok e → ofDocument e.toDocument = .ok e := by
  refine ⟨fun e => ⟨?_, Documented.reads⟩, fun e => ⟨?_, ?_⟩, ?_⟩
  · intro h
    exact (readsDocumented (numbersFit_toDocument e)).tree e h
  · rintro ⟨back, hread, heqv⟩
    exact ((readsDocumented (numbersFit_toDocument e)).tree back hread).of_eqv e heqv
  · intro h
    exact ⟨e, h.reads, h.eqv_self⟩
  · intro d hfit e hread
    exact ((readsDocumented hfit).tree e hread).reads

/-- `{"$gt": ["$price", 100]}` is read, and what it is read as reads back. -/
theorem ofDocument_toDocument_price :
    (tagged "$gt" (.array [.string "$price", .int 100])).NumbersFit ∧
    ofDocument (tagged "$gt" (.array [.string "$price", .int 100]))
      = .ok (.compare .gt (.field "price") (.int 100)) ∧
    ofDocument (Expr.compare .gt (.field "price") (.int 100)).toDocument
      = .ok (.compare .gt (.field "price") (.int 100)) := by
  have hfit : (tagged "$gt" (.array [.string "$price", .int 100])).NumbersFit := by
    refine numbersFit_tagged (.array fun d hd => ?_)
    rcases List.mem_cons.1 hd with rfl | hd
    · exact .string _
    · rw [List.mem_singleton.1 hd]
      exact .int (by decide) (by decide)
  have hread : ofDocument (tagged "$gt" (.array [.string "$price", .int 100]))
      = .ok (.compare .gt (.field "price") (.int 100)) := by rfl
  exact ⟨hfit, hread, ofDocument_toDocument.2.2 _ hfit _ hread⟩

end Expr

end Polyquery
