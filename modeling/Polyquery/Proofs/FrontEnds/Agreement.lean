import Polyquery.Proofs.FrontEnds.ClosureReading
import Polyquery.Proofs.FrontEnds.OptionReading
import Polyquery.Proofs.FrontEnds.SqlReading

/-!
# The front ends agree

* `frontEnds_agree` - the closure, the query option and the SQL of a shared formula are read as one
  expression, whatever spelling is chosen.
-/

namespace Polyquery.FrontEnds

/-- Every reader gives the expression that the formula means. -/
theorem frontEnds_agree {f : Formula} (h : Shared f) (sp : Spelling) (row : String) :
    Closure.Lambda.filter ⟨[row], f.term row⟩ [] [] .empty = .ok f.meaning ∧
      OData.parseFilter .empty (f.optionText sp).toList = .ok f.meaning ∧
      (f.tree sp).toExpr .empty = .ok f.meaning := by
  refine ⟨?_, ?_, ?_⟩
  · exact toExpr_term row h
  · exact (written_optionText sp h).parseFilter
  · exact toExpr_tree sp h

/-- A spelling with no spare parentheses, `EXTRACT` for every date part, and a backslash before
wildcards. -/
def plainSpelling : Spelling where
  parenthesized _ := false
  extracted _ := true
  escape text := if '%' ∈ text.toList ∨ '_' ∈ text.toList then some '\\' else none
  protects text := by
    by_cases h : '%' ∈ text.toList ∨ '_' ∈ text.toList
    · rw [if_pos h]
      exact ⟨by decide, by decide⟩
    · rw [if_neg h]
      exact not_or.1 h

/-- A year in a comparison, a text with a wildcard, a part of a text, and a conditional. -/
theorem frontEnds_agree_discount :
    let recent : Formula := .compare .gte (.apply .year (.member ["Order", "Placed"])) (.int 2020)
    let reduced : Formula := .textTest (.contains "50%") (.member ["Label"])
    let coded : Formula := .compare .eq (.substring (.member ["Code"]) 2 (some 3)) (.string "it's")
    let f : Formula := .chain .or [.chain .and [recent, .not reduced], .choice recent coded reduced]
    Closure.Lambda.filter ⟨["row"], f.term "row"⟩ [] [] .empty = .ok f.meaning ∧
      OData.parseFilter .empty ("year(Order/Placed) ge 2020 and not contains(Label,'50%') or " ++
        "case(year(Order/Placed) ge 2020:substring(Code,2,3) eq 'it''s'," ++
        "true:contains(Label,'50%'))").toList = .ok f.meaning ∧
      (f.tree plainSpelling).toExpr .empty = .ok f.meaning := by
  intro recent reduced coded f
  have member : ∀ names ∈ [["Order", "Placed"], ["Label"], ["Code"]], Shared (.member names) := by
    intro names hnames
    refine .member ?_ ?_ ?_ ?_ <;> revert names <;> decide
  have hrecent : Shared recent :=
    .compare rfl (.apply (by decide) (member _ (by decide))) (.int (by decide))
  have hreduced : Shared reduced := .textTest (by decide) (member _ (by decide))
  have hcoded : Shared coded :=
    .compare rfl (.substring (by decide) (by decide) (member _ (by decide))) (.string _)
  have hboth : Shared (.chain .and [recent, .not reduced]) :=
    .chain (by decide) (by simpa using ⟨hrecent, .not hreduced⟩)
  have hchoice : Shared (.choice recent coded reduced) := .choice rfl hrecent hcoded hreduced
  have hf : Shared f := .chain (by decide) (by simpa using ⟨hboth, hchoice⟩)
  exact frontEnds_agree hf plainSpelling "row"

end Polyquery.FrontEnds
