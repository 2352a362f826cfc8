import Polyquery.Query.Builder

/-!
# Projections

* `computed_name`, `computed_value` - a field of an expression has its name and holds it;
* `mergeField_names`, `mergeFields_nodup` - names stay in place, and no name is there twice;
* `mem_mergeFields` - a field replaces the one of its name, and the others stay;
* `mergeFields_of_nodup` - fields of different names are all kept, in order.
-/

namespace Polyquery

/-! ### Fields -/

namespace Field

/-- A field of an expression passes through if the expression is its path, and else keeps it. -/
theorem computed_cases (name : String) (e : Expr) :
    e = .field name ∧ Field.computed name e = .named name ∨
      Field.computed name e = ⟨name, some e⟩ := by
  unfold Field.computed
  split
  · rename_i path
    by_cases hpath : path = name
    · rw [if_pos hpath]
      exact .inl ⟨by rw [hpath], rfl⟩
    · rw [if_neg hpath]
      exact .inr rfl
  · exact .inr rfl

theorem computed_name (name : String) (e : Expr) : (Field.computed name e).name = name := by
  rcases computed_cases name e with ⟨-, h⟩ | h
  · rw [h, Field.named]
  · rw [h]

theorem computed_value (name : String) (e : Expr) : (Field.computed name e).value = e := by
  rcases computed_cases name e with ⟨rfl, h⟩ | h
  · rw [h]
    rfl
  · rw [h]
    rfl

end Field

/-! ### Merging -/

/-- Of different keys, none is met before its own item. -/
theorem not_mem_of_nodup {α β : Type} {f : α → β} {x : α} {xs more : List α}
    (h : ((xs ++ x :: more).map f).Nodup) : f x ∉ xs.map f := by
  rw [List.map_append, List.map_cons] at h
  intro hmem
  exact (List.nodup_append.1 h).2.2 _ hmem _ List.mem_cons_self rfl

namespace Query

/-- The names of a projection with one more field: a name that is there keeps its place. -/
theorem mergeField_names (field : Field) (fields : List Field) :
    (mergeField field fields).map Field.name
      = if field.name ∈ fields.map Field.name then fields.map Field.name
        else fields.map Field.name ++ [field.name] := by
  induction fields with
  | nil => rfl
  | cons f rest ih =>
    rw [mergeField]
    by_cases hf : f.name = field.name
    · rw [if_pos hf, if_pos (by simp [hf]), List.map_cons, List.map_cons, hf]
    · rw [if_neg hf, List.map_cons, ih, List.map_cons]
      by_cases hmem : field.name ∈ rest.map Field.name
      · rw [if_pos hmem, if_pos (List.mem_cons_of_mem _ hmem)]
      · rw [if_neg hmem, if_neg (by simpa [Ne.symm hf] using hmem), List.cons_append]

theorem mergeField_nodup {fields : List Field} (h : (fields.map Field.name).Nodup) (field : Field) :
    ((mergeField field fields).map Field.name).Nodup := by
  rw [mergeField_names]
  by_cases hmem : field.name ∈ fields.map Field.name
  · rw [if_pos hmem]
    exact h
  · rw [if_neg hmem]
    refine List.nodup_append.2 ⟨h, List.pairwise_singleton _ _, ?_⟩
    intro a ha b hb heq
    rw [heq, List.mem_singleton.1 hb] at ha
    exact hmem ha

theorem mergeFields_cons (fields : List Field) (field : Field) (more : List Field) :
    mergeFields fields (field :: more) = mergeFields (mergeField field fields) more := rfl

theorem mergeFields_nodup {fields : List Field} (h : (fields.map Field.name).Nodup)
    (more : List Field) : ((mergeFields fields more).map Field.name).Nodup := by
  induction more generalizing fields with
  | nil => exact h
  | cons field more ih => exact ih (mergeField_nodup h field)

/-- The names of a projection with more fields are those of both. -/
theorem mem_mergeFields_names {fields more : List Field} {name : String} :
    name ∈ (mergeFields fields more).map Field.name ↔
      name ∈ fields.map Field.name ∨ name ∈ more.map Field.name := by
  induction more generalizing fields with
  | nil => simp [mergeFields]
  | cons field more ih =>
    have hone : name ∈ (mergeField field fields).map Field.name ↔
        name ∈ fields.map Field.name ∨ name = field.name := by
      rw [mergeField_names]
      split
      · rename_i hmem
        exact ⟨.inl, fun h => h.elim id fun heq => heq ▸ hmem⟩
      · rw [List.mem_append, List.mem_singleton]
    rw [mergeFields_cons, ih, hone, List.map_cons, List.mem_cons, or_assoc]

/-- One more field replaces the one of its name. -/
theorem mem_mergeField {fields : List Field} (h : (fields.map Field.name).Nodup) {field g : Field} :
    g ∈ mergeField field fields ↔ g = field ∨ g ∈ fields ∧ g.name ≠ field.name := by
  induction fields with
  | nil => simp [mergeField]
  | cons f rest ih =>
    rw [List.map_cons, List.nodup_cons] at h
    rw [mergeField]
    by_cases hf : f.name = field.name
    · rw [if_pos hf, List.mem_cons, List.mem_cons]
      constructor
      · rintro (rfl | hg)
        · exact .inl rfl
        · refine .inr ⟨.inr hg, fun heq => h.1 ?_⟩
          rw [hf, ← heq]
          exact List.mem_map_of_mem hg
      · rintro (rfl | ⟨rfl | hg, hne⟩)
        · exact .inl rfl
        · exact absurd hf hne
        · exact .inr hg
    · rw [if_neg hf, List.mem_cons, List.mem_cons, ih h.2]
      constructor
      · rintro (rfl | rfl | ⟨hg, hne⟩)
        · exact .inr ⟨.inl rfl, hf⟩
        · exact .inl rfl
        · exact .inr ⟨.inr hg, hne⟩
      · rintro (rfl | ⟨rfl | hg, hne⟩)
        · exact .inr (.inl rfl)
        · exact .inl rfl
        · exact .inr (.inr ⟨hg, hne⟩)

/-- Further fields replace those of their names. -/
theorem mem_mergeFields {fields more : List Field} (h : (fields.map Field.name).Nodup)
    (hmore : (more.map Field.name).Nodup) {g : Field} :
    g ∈ mergeFields fields more ↔ g ∈ more ∨ g ∈ fields ∧ g.name ∉ more.map Field.name := by
  induction more generalizing fields with
  | nil => simp [mergeFields]
  | cons field more ih =>
    rw [List.map_cons, List.nodup_cons] at hmore
    rw [mergeFields_cons, ih (mergeField_nodup h field) hmore.2, mem_mergeField h, List.map_cons,
      List.mem_cons, List.mem_cons, not_or]
    constructor
    · rintro (hg | ⟨rfl | ⟨hg, hne⟩, hnot⟩)
      · exact .inl (.inr hg)
      · exact .inl (.inl rfl)
      · exact .inr ⟨hg, hne, hnot⟩
    · rintro ((rfl | hg) | ⟨hg, hne, hnot⟩)
      · exact .inr ⟨.inl rfl, hmore.1⟩
      · exact .inl hg
      · exact .inr ⟨.inr ⟨hg, hne⟩, hnot⟩

/-- A field of another name is put at the end. -/
theorem mergeField_new {field : Field} {fields : List Field}
    (h : field.name ∉ fields.map Field.name) : mergeField field fields = fields ++ [field] := by
  induction fields with
  | nil => rfl
  | cons f fields ih =>
    rw [List.map_cons, List.mem_cons, not_or] at h
    rw [mergeField, if_neg fun heq => h.1 heq.symm, ih h.2, List.cons_append]

/-- Fields of different names are all kept, in order. -/
theorem mergeFields_of_nodup {fields more : List Field}
    (h : ((fields ++ more).map Field.name).Nodup) : mergeFields fields more = fields ++ more := by
  induction more generalizing fields with
  | nil =>
    rw [List.append_nil]
    rfl
  | cons field more ih =>
    have hrest : (((fields ++ [field]) ++ more).map Field.name).Nodup := by
      rw [List.append_assoc]
      exact h
    rw [mergeFields_cons, mergeField_new (not_mem_of_nodup h), ih hrest, List.append_assoc, List.singleton_append]

end Query

end Polyquery
