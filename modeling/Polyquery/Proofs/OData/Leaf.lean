import Polyquery.Proofs.OData.Printable
import Polyquery.Proofs.OData.Written
import Polyquery.Proofs.Unresolved

/-!
# Texts of paths and literals

* `field_of_qualified`, `memberField_empty` - the field that segments make without resolvers;
* `PrintablePath.written`, `PrintableLiteral.written` - the texts of the leaves.
-/

namespace Polyquery.OData

/-! ### Paths and literals -/

theorem slashPath_toList (path : String) :
    (slashPath path).toList = ['/'].intercalate ((Text.segments path).map String.toList) := by
  rw [slashPath, String.toList_ofList, ← Text.intercalate_splitOn, Text.segments, List.map_map]
  simp [Function.comp_def]

/-- A qualifier and a member, joined without resolvers, make the dotted path. -/
theorem field_of_qualified {segments : List String} (hne : segments ≠ []) :
    (if segments.dropLast.isEmpty then Expr.field (segments.getLast?.getD "")
      else .field (".".intercalate segments.dropLast ++ "." ++ segments.getLast?.getD ""))
      = .field (".".intercalate segments) := by
  rw [← Text.intercalate_dropLast hne]
  split <;> rfl

/-- Without resolvers, segments make the dotted path. -/
theorem memberField_empty {segments : List String} (hne : segments ≠ [])
    (h : segments.head? ≠ some "$it") :
    memberField ⟨Resolvers.empty, 0⟩ segments = .field (".".intercalate segments) := by
  rw [← field_of_qualified hne]
  unfold memberField
  split
  · exact absurd rfl h
  · rfl

theorem startsOperand_of_not_reserved {w : String} (h : Text.asciiLower w ∉ reservedWords) :
    StartsOperand w := by
  have hwords : ∀ v ∈ reservedWords, Text.asciiLower v = v := by decide
  have hne : ∀ v ∈ reservedWords, w ≠ v := by
    rintro v hv rfl
    rw [hwords w hv] at h
    exact h hv
  refine ⟨?_, fun hnot => h (by rw [hnot]; decide)⟩
  have hcomparison : comparisonOf? w = none := by
    cases hw : comparisonOf? w with
    | none => rfl
    | some op =>
      have hmem := mem_of_comparisonOf? hw
      exact absurd rfl (hne w ((show ∀ v ∈ comparisonWords, v ∈ reservedWords by decide) w hmem))
  rw [isOperatorWord, hcomparison, Option.isSome_none, Bool.false_or, decide_eq_false_iff_not]
  intro hmem
  exact hne w ((show ∀ v ∈ ["and", "or", "add", "sub", "mul", "div", "mod", "as", "asc", "desc"],
    v ∈ reservedWords by decide) w hmem) rfl

theorem PrintablePath.written {path : String} (h : PrintablePath path) :
    Written .empty .primary (slashPath path).toList (.field path) := by
  have hfield := memberField_empty (Text.segments_ne_nil path) h.notSelf
  rw [Text.intercalate_segments] at hfield
  rw [slashPath_toList, ← hfield]
  have hids := h.identifiers
  have hreserved := h.notReserved
  cases hs : Text.segments path with
  | nil => exact absurd hs (Text.segments_ne_nil path)
  | cons name segments =>
    rw [hs] at hids hreserved
    exact .path hids (startsOperand_of_not_reserved (hreserved name rfl))

theorem quote_toList (s : String) :
    (quote s).toList = '\'' :: (Text.doubling '\'' s.toList ++ ['\'']) := by
  rw [quote, Text.delimited, String.toList_ofList]

theorem written_string (rs : Resolvers) (s : String) :
    Written rs .primary (quote s).toList (.literal (.string s)) := by
  refine .literal ?_ (Lexes.string s)
  rw [quote_toList]
  exact .enclosed (by decide) (by decide) _

theorem trimmed_chars (n : Int) : Trimmed (Integer.chars n) := by
  refine trimmed_of_all ?_ fun c hc => ?_
  · obtain ⟨c, cs, h⟩ := chars_eq_cons n
    rw [h]
    exact List.cons_ne_nil c cs
  · have hdigits : ∀ d ∈ Nat.toDigits 10 n.natAbs, Text.isBlank d = false := fun d hd =>
      Text.isBlank_of_isAsciiDigit (Integer.isAsciiDigit_of_mem_toDigits hd)
    unfold Integer.chars at hc
    split at hc
    · rcases List.mem_cons.1 hc with rfl | hc
      · decide
      · exact hdigits c hc
    · exact hdigits c hc

/-- A typed literal: the name of its type and a quoted text. -/
theorem written_typed {rs : Resolvers} {name s : String} {value : Literal}
    (hname : isTypeName (Text.asciiLower name) = true) (hword : isWord name.toList = true)
    (h : typed? (Text.asciiLower name) s.toList = some value) :
    Written rs .primary (name ++ quote s).toList (.literal value) := by
  rw [String.toList_append]
  refine .literal ?_ (Lexes.typed hname hword h)
  have htail : Trimmed (quote s).toList := by
    rw [quote_toList]
    exact .enclosed (by decide) (by decide) _
  have hboth := (trimmed_of_isWord hword).append htail []
  rw [List.nil_append] at hboth
  exact hboth

theorem PrintableLiteral.written {value : Literal} (h : PrintableLiteral value) (rs : Resolvers) :
    Written rs .primary (literalText value).toList (.literal value) := by
  cases h with
  | null => exact .literal (trimmed_of_isWord (by decide)) (Lexes.word (by decide))
  | bool b =>
    cases b
    · exact .literal (trimmed_of_isWord (by decide)) (Lexes.word (by decide))
    · exact .literal (trimmed_of_isWord (by decide)) (Lexes.word (by decide))
  | int n =>
    rw [literalText, Integer.text64, Integer.text, String.toList_ofList]
    exact .literal (trimmed_chars n.toInt) (Lexes.int n)
  | long n =>
    rw [literalText, Integer.text64, Integer.text, String.toList_append, String.toList_ofList]
    exact .literal ((trimmed_chars n.toInt).append (trimmed_singleton (by decide)) [])
      (Lexes.long n)
  | string s => exact written_string rs s
  | guid g =>
    refine written_typed (by decide) (by decide) ?_
    show (Guid.parse? (String.ofList g.text.toList)).map Literal.guid = _
    rw [String.ofList_toList, Guid.parse?_text, Option.map_some]
  | @dateTime s hs =>
    refine written_typed (by decide) (by decide) ?_
    show (if isDateTime s.toList then some (Literal.dateTime (String.ofList s.toList))
      else none) = _
    rw [if_pos hs, String.ofList_toList]
  | @time s hs =>
    refine written_typed (by decide) (by decide) ?_
    show (if isTime s.toList then some (Literal.time (String.ofList s.toList)) else none) = _
    rw [if_pos hs, String.ofList_toList]
  | @binary s hs =>
    refine written_typed (by decide) (by decide) ?_
    show (if isBinary s.toList then some (Literal.binary (String.ofList s.toList)) else none) = _
    rw [if_pos hs, String.ofList_toList]

end Polyquery.OData
