import Polyquery.Proofs.Outcome
import Polyquery.Resolve
import Polyquery.Text.Delimited

/-!
# Names without resolvers

* `Text.intercalate_segments`, `Text.segments_intercalate` - a path and its segments;
* `Text.segments_qualified` - one more segment behind a path;
* `Text.intercalate_dropLast` - a member behind its qualifier, as the chain without listeners names
  it;
* `Resolvers.resolveMethod_empty`, `Resolvers.resolveMethod_empty_claimed` - a call that the built-in
  table claims.
-/

namespace Polyquery

/-! ### Segments of a path -/

namespace Text

theorem splitOn_ne_nil (separator : Char) (cs : List Char) : splitOn separator cs ≠ [] := by
  cases cs with
  | nil => exact List.cons_ne_nil _ _
  | cons c cs =>
    unfold splitOn
    split
    · exact List.cons_ne_nil _ _
    · split <;> exact List.cons_ne_nil _ _

/-- The parts of a text joined by another separator. -/
theorem intercalate_splitOn (separator joint : Char) (cs : List Char) :
    [joint].intercalate (splitOn separator cs)
      = cs.map fun c => if c = separator then joint else c := by
  induction cs with
  | nil => rfl
  | cons c cs ih =>
    rw [splitOn, List.map_cons, ← ih]
    by_cases hc : c = separator
    · rw [if_pos hc, if_pos hc, List.intercalate_cons_of_ne_nil (splitOn_ne_nil separator cs)]
      rfl
    · rw [if_neg hc, if_neg hc]
      cases hparts : splitOn separator cs with
      | nil => exact absurd hparts (splitOn_ne_nil separator cs)
      | cons part parts => cases parts <;> simp

/-- A path is its segments with dots between them. -/
theorem intercalate_segments (path : String) : ".".intercalate (segments path) = path := by
  apply String.toList_inj.1
  rw [String.toList_intercalate, segments, List.map_map]
  have hsame := intercalate_splitOn '.' '.' path.toList
  have hid : (path.toList.map fun c => if c = '.' then '.' else c) = path.toList := by
    rw [List.map_congr_left (g := id) (fun c _ => by by_cases hc : c = '.' <;> simp [hc]),
      List.map_id]
  rw [hid] at hsame
  simpa [Function.comp_def] using hsame

theorem segments_ne_nil (path : String) : segments path ≠ [] := by
  rw [segments, Ne, List.map_eq_nil_iff]
  exact splitOn_ne_nil '.' path.toList

theorem splitOn_of_not_mem {separator : Char} {cs : List Char} (h : separator ∉ cs) :
    splitOn separator cs = [cs] := by
  induction cs with
  | nil => rfl
  | cons c cs ih =>
    rw [List.mem_cons, not_or] at h
    rw [splitOn, if_neg (Ne.symm h.1), ih h.2]

theorem splitOn_append {separator : Char} {cs : List Char} (h : separator ∉ cs)
    (rest : List Char) :
    splitOn separator (cs ++ separator :: rest) = cs :: splitOn separator rest := by
  induction cs with
  | nil => rw [List.nil_append, splitOn, if_pos rfl]
  | cons c cs ih =>
    rw [List.mem_cons, not_or] at h
    rw [List.cons_append, splitOn, if_neg (Ne.symm h.1), ih h.2]

/-- Names without a dot are the segments of the path that they make. -/
theorem segments_intercalate {names : List String} (hne : names ≠ [])
    (h : ∀ name ∈ names, '.' ∉ name.toList) : segments (".".intercalate names) = names := by
  induction names with
  | nil => exact absurd rfl hne
  | cons name names ih =>
    obtain ⟨hname, hrest⟩ := List.forall_mem_cons.1 h
    cases names with
    | nil =>
      rw [String.intercalate_singleton, segments, splitOn_of_not_mem hname, List.map_singleton,
        String.ofList_toList]
    | cons other names =>
      have hjoined : (".".intercalate (name :: other :: names)).toList
          = name.toList ++ '.' :: (".".intercalate (other :: names)).toList := by
        simp [String.toList_intercalate]
      have htail := ih (List.cons_ne_nil _ _) hrest
      rw [segments] at htail
      rw [segments, hjoined, splitOn_append hname, List.map_cons, htail, String.ofList_toList]

theorem splitOn_notMem {separator : Char} {cs part : List Char}
    (h : part ∈ splitOn separator cs) : separator ∉ part := by
  induction cs generalizing part with
  | nil =>
    rw [splitOn, List.mem_singleton] at h
    rw [h]
    exact List.not_mem_nil
  | cons c cs ih =>
    rw [splitOn] at h
    split at h
    · rcases List.mem_cons.1 h with rfl | hpart
      · exact List.not_mem_nil
      · exact ih hpart
    · rename_i hc
      split at h
      · rw [List.mem_singleton] at h
        rw [h]
        simpa using Ne.symm hc
      · rename_i first parts hparts
        rcases List.mem_cons.1 h with rfl | hpart
        · have hfirst := ih (hparts ▸ List.mem_cons_self)
          simpa [Ne.symm hc] using hfirst
        · exact ih (hparts ▸ List.mem_cons_of_mem first hpart)

/-- A name without a dot behind a path is one more segment. -/
theorem segments_qualified {qualifier member : String} (h : '.' ∉ member.toList) :
    segments (qualifier ++ "." ++ member) = segments qualifier ++ [member] := by
  have hnames : ∀ name ∈ segments qualifier ++ [member], '.' ∉ name.toList := by
    intro name hname
    rcases List.mem_append.1 hname with hqualifier | hmember
    · obtain ⟨part, hpart, rfl⟩ := List.mem_map.1 hqualifier
      rw [String.toList_ofList]
      exact splitOn_notMem hpart
    · rwa [List.mem_singleton.1 hmember]
  have hjoined := segments_intercalate (by simp) hnames
  rwa [String.intercalate_append_of_ne_nil (segments_ne_nil qualifier) (List.cons_ne_nil member []),
    intercalate_segments, String.intercalate_singleton] at hjoined

/-- The last segment behind the others, or alone if there are none. -/
theorem intercalate_dropLast {segments : List String} (hne : segments ≠ []) :
    (if segments.dropLast.isEmpty then segments.getLast?.getD ""
      else ".".intercalate segments.dropLast ++ "." ++ segments.getLast?.getD "")
      = ".".intercalate segments := by
  rcases List.eq_nil_or_concat segments with hnil | ⟨init, last, rfl⟩
  · exact absurd hnil hne
  · rw [List.concat_eq_append, List.dropLast_concat, List.getLast?_concat, Option.getD_some]
    by_cases hinit : init = []
    · subst hinit
      simp
    · rw [if_neg (by simpa using hinit),
        String.intercalate_append_of_ne_nil hinit (List.cons_ne_nil last []),
        String.intercalate_singleton]

end Text

/-! ### Calls -/

/-- Without listeners a call means what the table claims it to mean. -/
theorem Resolvers.resolveMethod_empty {table : MethodEvent → QueryResult MethodEvent}
    {name : String} {args : List Expr} {onInstance : Bool} {e : Expr}
    (h : table ⟨name, args, onInstance, none⟩ = .ok ⟨name, args, onInstance, some e⟩) :
    Resolvers.empty.resolveMethod table ⟨name, args, onInstance, none⟩ = .ok e := by
  show (table ⟨name, args, onInstance, none⟩ >>= _) = _
  rw [h]
  rfl

/-- Without listeners a call means nothing that the table does not claim. -/
theorem Resolvers.resolveMethod_empty_claimed {table : MethodEvent → QueryResult MethodEvent}
    {name : String} {args : List Expr} {onInstance : Bool} {e : Expr}
    (h : Resolvers.empty.resolveMethod table ⟨name, args, onInstance, none⟩ = .ok e) :
    ∃ claimed, table ⟨name, args, onInstance, none⟩ = .ok claimed ∧ claimed.resolved = some e := by
  change (table ⟨name, args, onInstance, none⟩ >>= _) = _ at h
  obtain ⟨claimed, htable, hclaimed⟩ := bind_eq_ok.1 h
  refine ⟨claimed, htable, ?_⟩
  obtain ⟨_, _, _, resolved⟩ := claimed
  cases resolved with
  | some e' =>
    cases hclaimed
    rfl
  | none => cases hclaimed

end Polyquery
