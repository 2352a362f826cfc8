import Polyquery.Proofs.Expr.Document
import Polyquery.Proofs.Query.Projection
import Polyquery.Query.Document

/-!
# Documents of projections

In the document of a projection a one marks a field that passes through, and a zero ends the fields.
A field that holds one of these numbers is taken for the marker.

* `Expr.Documented.toInt64?_toDocument` - an integer document is that of an integer constant;
* `Field.ofDocument_toDocument_eq` - what the document of a field is read as;
* `Field.entries_documents` - what the documents of a projection are read as;
* `field?_select` - the fragment of a projection in the document of a query;
* `selectDocument_toDocument_iff` - a projection is rebuilt exactly if it holds no marker.
-/

namespace Polyquery

/-! ### Numbers -/

theorem Json.toInt64?_toInt (n : Int64) : (Json.int n.toInt).toInt64? = some n := by
  have hlow : -Int.pow 2 63 ≤ n.toInt := Int64.le_toInt n
  have hhigh : n.toInt < Int.pow 2 63 := Int64.toInt_lt n
  rw [Json.toInt64?, if_pos ⟨hlow, hhigh⟩, Int64.ofInt_toInt]

/-- Of the expressions that have documents of their own, an integer is the document of an integer
constant only. -/
theorem Expr.Documented.toInt64?_toDocument {e : Expr} (h : Expr.Documented e) (n : Int64) :
    e.toDocument.toInt64? = some n ↔ e = .int n := by
  cases h with
  | literal hvalue =>
    cases hvalue with
    | int m =>
      have hread := Json.toInt64?_toInt m
      show (Json.int m.toInt).toInt64? = some n ↔ _
      rw [hread]
      simp [Expr.int]
    | double hfinite =>
      rw [toDocument, Literal.toDocument, Json.ofDouble, if_pos hfinite]
      simp [Json.toInt64?, Expr.int]
    | null | bool | string => simp [toDocument, Literal.toDocument, Json.toInt64?, Expr.int]
  | field | compare | logical | not | arithmetic | call | regexMatch | cond | switch =>
    simp [toDocument, tagged, Json.toInt64?, Expr.int]

namespace Field

/-- A field whose expression has a document of its own; the path of the field itself is no
expression, since such a field passes through. -/
def Documented (f : Field) : Prop := ∀ e ∈ f.expr, Expr.Documented e ∧ e ≠ .field f.name

theorem documented_named (name : String) : (named name).Documented := fun e he => by cases he

theorem documented_computed (name : String) {e : Expr} (h : Expr.Documented e) :
    (computed name e).Documented := by
  by_cases hpath : e = .field name
  · have hnamed : computed name e = named name := by
      rw [hpath]
      exact if_pos rfl
    rw [hnamed]
    exact documented_named name
  · rcases computed_cases name e with ⟨heq, -⟩ | hcomputed
    · exact absurd heq hpath
    · rw [hcomputed]
      intro e' he'
      cases he'
      exact ⟨h, hpath⟩

/-- The number that the document of a field is, if it is one. -/
def mark? (f : Field) : Option Int64 := f.documentValue.toInt64?

/-- The field that a document is read as: one with a one passes through. -/
def readBack (f : Field) : Field := if f.mark? = some 1 then named f.name else f

theorem readBack_name (f : Field) : f.readBack.name = f.name := by
  unfold readBack
  split <;> rfl

theorem mark?_eq_zero_iff {f : Field} (h : f.Documented) :
    f.mark? = some 0 ↔ f.expr = some (.int 0) := by
  unfold mark? documentValue
  cases hexpr : f.expr with
  | none => decide
  | some e =>
    rw [Option.some_inj]
    exact (h e hexpr).1.toInt64?_toDocument 0

theorem mark?_eq_one_iff {f : Field} (h : f.Documented) :
    f.mark? = some 1 ↔ f.expr = none ∨ f.expr = some (.int 1) := by
  unfold mark? documentValue
  cases hexpr : f.expr with
  | none => decide
  | some e =>
    rw [Option.some_inj]
    simpa using (h e hexpr).1.toInt64?_toDocument 1

/-- A field is read as itself unless it holds a one. -/
theorem readBack_eq_iff {f : Field} (h : f.Documented) :
    f.readBack = f ↔ f.expr ≠ some (.int 1) := by
  have hone := mark?_eq_one_iff h
  obtain ⟨name, expr⟩ := f
  unfold readBack
  split
  · rename_i hmark
    rcases hone.1 hmark with hnone | hsome
    · obtain rfl : expr = none := hnone
      simp [named]
    · obtain rfl : expr = some (.int 1) := hsome
      simp [named]
  · rename_i hmark
    simpa using fun hexpr => hmark (hone.2 (.inr hexpr))

/-- The value behind a name that is no marker. -/
theorem computed_of_documented {f : Field} (h : f.Documented) (hmark : f.mark? ≠ some 1) :
    (Expr.ofDocument f.documentValue).map (computed f.name) = .ok f := by
  have hone := mark?_eq_one_iff h
  obtain ⟨name, expr⟩ := f
  cases expr with
  | none => exact absurd (hone.2 (.inl rfl)) hmark
  | some e =>
    obtain ⟨hdoc, hpath⟩ := h e rfl
    show (Expr.ofDocument e.toDocument).map (computed name) = _
    rw [hdoc.reads]
    rcases computed_cases name e with ⟨heq, -⟩ | hcomputed
    · exact absurd heq hpath
    · exact congrArg Except.ok hcomputed

/-- The document of a field. -/
theorem ofDocument_toDocument_eq {f : Field} (h : f.Documented) :
    ofDocument f.toDocument = .ok f.readBack := by
  unfold toDocument ofDocument readBack
  by_cases hmark : f.mark? = some 1
  · rw [if_pos hmark]
    exact if_pos hmark
  · rw [if_neg hmark]
    exact (if_neg hmark).trans (computed_of_documented h hmark)

/-- The documents of a projection are read up to the first zero. -/
theorem entries_documents {fields : List Field} (h : ∀ f ∈ fields, f.Documented) :
    entries (fields.map fun f => (f.name, f.documentValue))
      = .ok ((fields.takeWhile fun f => f.mark? != some 0).map readBack) := by
  induction fields with
  | nil => rfl
  | cons f rest ih =>
    rw [List.forall_mem_cons] at h
    rw [List.map_cons, entries]
    by_cases hzero : f.mark? = some 0
    · rw [List.takeWhile_cons_of_neg (by simp [hzero])]
      exact if_pos hzero
    · rw [List.takeWhile_cons_of_pos (by simpa using hzero), List.map_cons]
      refine (if_neg hzero).trans ?_
      by_cases hone : f.mark? = some 1
      · have hread : f.readBack = named f.name := if_pos hone
        refine (if_pos hone).trans ?_
        rw [ih h.2, hread]
        rfl
      · have hread : f.readBack = f := if_neg hone
        refine (if_neg hone).trans ?_
        rw [computed_of_documented h.1 hone, ih h.2, hread]
        rfl

/-- A projection is read as itself if no field of it holds a zero or a one. -/
theorem takeWhile_readBack_eq_iff {fields : List Field} (h : ∀ f ∈ fields, f.Documented) :
    (fields.takeWhile fun f => f.mark? != some 0).map readBack = fields ↔
      ∀ f ∈ fields, f.expr ≠ some (.int 0) ∧ f.expr ≠ some (.int 1) := by
  induction fields with
  | nil => simp
  | cons f rest ih =>
    rw [List.forall_mem_cons] at h
    rw [List.forall_mem_cons, ← ih h.2, ← readBack_eq_iff h.1]
    have hzero := mark?_eq_zero_iff h.1
    by_cases hmark : f.mark? = some 0
    · rw [List.takeWhile_cons_of_neg (by simp [hmark])]
      simp [hzero.1 hmark]
    · rw [List.takeWhile_cons_of_pos (by simpa using hmark), List.map_cons, List.cons.injEq]
      simp [mt hzero.2 hmark]

end Field

/-! ### Documents of queries -/

/-- Keys that differ stay in their order. -/
theorem Json.foldl_insert {entries before : List (String × Json)}
    (h : ((before ++ entries).map Prod.fst).Nodup) :
    entries.foldl (fun acc e => Json.insert e.1 e.2 acc) before = before ++ entries := by
  induction entries generalizing before with
  | nil => simp
  | cons entry rest ih =>
    have hinsert : Json.insert entry.1 entry.2 before = before ++ [entry] := by
      have hnew := not_mem_of_nodup h
      clear ih h
      induction before with
      | nil => rfl
      | cons e more ih =>
        rw [List.map_cons, List.mem_cons, not_or] at hnew
        rw [Json.insert, if_neg fun heq => hnew.1 heq.symm, ih hnew.2, List.cons_append]
    rw [List.foldl_cons, hinsert, ih (by simpa using h), List.append_assoc, List.singleton_append]

namespace Query

/-- The document of a query has the document of its projection under its own key. -/
theorem field?_select {q : Query} (hne : q.fields ≠ [])
    (hnames : (q.fields.map Field.name).Nodup) :
    q.toDocument.field? "$select"
      = some (.object (q.fields.map fun f => (f.name, f.documentValue))) := by
  have hkeys : ((q.fields.map fun f => (f.name, f.documentValue)).map Prod.fst).Nodup := by
    rw [List.map_map]
    exact hnames
  have hfields : Json.ofFields (q.fields.map fun f => (f.name, f.documentValue))
      = .object (q.fields.map fun f => (f.name, f.documentValue)) :=
    congrArg Json.object (Json.foldl_insert (by simpa using hkeys))
  rw [← hfields]
  cases q with
  | mk collection fields =>
    have hsome : fields.isEmpty = false := by simpa using hne
    cases collection <;>
      simp [toDocument, documentWith, entry, Json.field?, Json.lookup?, hsome]

theorem empty_select_fields {fields : List Field} (h : (fields.map Field.name).Nodup) :
    (Query.empty.select fields).fields = fields := by
  show mergeFields [] fields = fields
  rw [mergeFields_of_nodup (by simpa using h), List.nil_append]

/-- A projection whose fields have different names and documents of their own is rebuilt from its
document exactly if no field holds a bare zero or one, and each field is read back exactly if it
does not hold a bare one. -/
theorem selectDocument_toDocument_iff {q : Query} (hne : q.fields ≠ [])
    (hnames : (q.fields.map Field.name).Nodup) (hdoc : ∀ f ∈ q.fields, f.Documented) :
    (∃ fragment rebuilt, q.toDocument.field? "$select" = some fragment ∧
      Query.empty.selectDocument fragment = .ok rebuilt ∧
      (rebuilt.fields = q.fields ↔
        ∀ f ∈ q.fields, f.expr ≠ some (.int 0) ∧ f.expr ≠ some (.int 1))) ∧
    ∀ f ∈ q.fields, (Field.ofDocument f.toDocument = .ok f ↔ f.expr ≠ some (.int 1)) := by
  constructor
  · have hread : Field.fragment (.object (q.fields.map fun f => (f.name, f.documentValue)))
        = .ok ((q.fields.takeWhile fun f => f.mark? != some 0).map Field.readBack) := by
      rw [Field.fragment]
      exact Field.entries_documents hdoc
    have hnodup : (((q.fields.takeWhile fun f => f.mark? != some 0).map Field.readBack).map
        Field.name).Nodup := by
      have hsame : Field.name ∘ Field.readBack = Field.name := funext Field.readBack_name
      rw [List.map_map, hsame]
      exact ((List.takeWhile_sublist _).map Field.name).nodup hnames
    refine ⟨_, _, field?_select hne hnames, congrArg (Except.map Query.empty.select) hread, ?_⟩
    rw [empty_select_fields hnodup]
    exact Field.takeWhile_readBack_eq_iff hdoc
  · intro f hf
    rw [Field.ofDocument_toDocument_eq (hdoc f hf), ← Field.readBack_eq_iff (hdoc f hf)]
    exact ⟨Except.ok.inj, congrArg Except.ok⟩

/-- A plain field, the double of another and a truth value are rebuilt. -/
theorem selectDocument_toDocument_iff_doubled :
    let doubled : Field := .computed "doubled" (.arithmetic .multiply (.field "price") (.int 2))
    let q := Query.empty.select [.named "name", doubled, .computed "new" (.bool true)]
    q.fields ≠ [] ∧ (q.fields.map Field.name).Nodup ∧ (∀ f ∈ q.fields, f.Documented) ∧
      (∃ fragment rebuilt, q.toDocument.field? "$select" = some fragment ∧
        Query.empty.selectDocument fragment = .ok rebuilt ∧ rebuilt.fields = q.fields) ∧
      ∀ f ∈ q.fields, Field.ofDocument f.toDocument = .ok f := by
  intro doubled q
  have hfields : q.fields = [.named "name", doubled, .computed "new" (.bool true)] := rfl
  have hne : q.fields ≠ [] := by simp [hfields]
  have hnames : (q.fields.map Field.name).Nodup := by decide
  have hdoc : ∀ f ∈ q.fields, f.Documented := by
    have hdoubled : Expr.Documented (.arithmetic .multiply (.field "price") (.int 2)) :=
      .arithmetic (.field (by decide)) (.literal (.int 2))
    rw [hfields, List.forall_mem_cons, List.forall_mem_cons, List.forall_mem_singleton]
    exact ⟨Field.documented_named _, Field.documented_computed _ hdoubled,
      Field.documented_computed _ (.literal (.bool true))⟩
  have hplain : ∀ f ∈ q.fields, f.expr ≠ some (.int 0) ∧ f.expr ≠ some (.int 1) := by
    rw [hfields]
    simp [doubled, Field.named, Field.computed, Expr.int, Expr.bool]
  obtain ⟨⟨fragment, rebuilt, hfragment, hrebuilt, hiff⟩, hread⟩ :=
    selectDocument_toDocument_iff hne hnames hdoc
  exact ⟨hne, hnames, hdoc, ⟨fragment, rebuilt, hfragment, hrebuilt, hiff.2 hplain⟩,
    fun f hf => (hread f hf).2 (hplain f hf).2⟩

/-- A one is read as a column of that name, and a zero loses the fields from it on. -/
theorem marker_read_as_column :
    let unit : Field := .computed "unit" (.int 1)
    let q := Query.empty.select [unit, .computed "offset" (.int 0), .named "price"]
    q.fields = [unit, .computed "offset" (.int 0), .named "price"] ∧
      (q.fields.map Field.name).Nodup ∧ (∀ f ∈ q.fields, f.Documented) ∧
      (∃ fragment rebuilt, q.toDocument.field? "$select" = some fragment ∧
        Query.empty.selectDocument fragment = .ok rebuilt ∧ rebuilt.fields = [.named "unit"]) ∧
      Field.ofDocument unit.toDocument = .ok (.named "unit") ∧ unit ≠ .named "unit" := by
  intro unit q
  have hdoc : ∀ f ∈ q.fields, f.Documented := by
    have hfields : q.fields = [unit, .computed "offset" (.int 0), .named "price"] := rfl
    rw [hfields, List.forall_mem_cons, List.forall_mem_cons, List.forall_mem_singleton]
    exact ⟨Field.documented_computed _ (.literal (.int 1)),
      Field.documented_computed _ (.literal (.int 0)), Field.documented_named _⟩
  have hunit : unit ≠ .named "unit" := by
    intro heq
    cases congrArg Field.expr heq
  exact ⟨rfl, by decide, hdoc, ⟨_, _, rfl, rfl, rfl⟩, rfl, hunit⟩

end Query

end Polyquery
