import Polyquery.Proofs.Expr.Document
import Polyquery.Proofs.OData.RoundTrip
import Polyquery.Proofs.Sql.TextReading

/-!
# Integers in every form that is written

An integer of 64 bits is written in query options, in documents and in the SQL of every dialect.  In
options and documents its sign is part of it, so both ends of the range come back.  SQL reads a minus
sign as an operator and then negates what stands behind it, which for the least integer is no integer
but a double.

* `parseFilter_integer` - integers of both widths in query options;
* `integer_read_back` - an integer in every form;
* `least_integer_becomes_double` - the least integer in the generic dialect.
-/

namespace Polyquery

namespace OData

/-- A constant that query options can hold is written the same in all of their dialects, and its text
is read as the constant. -/
theorem parseFilter_constant {value : Literal} (h : PrintableLiteral value) (o : Dialect) :
    ∃ text, o.render (.literal value) = .ok text ∧
      parseFilter .empty text.toList = .ok (.literal value) := by
  obtain ⟨text, hrender, hwritten⟩ := (Printable.literal h).prints.1
  refine ⟨text, ?_, hwritten.parseFilter⟩
  rw [← hrender, Dialect.render, Dialect.render]

end OData

/-- An integer is read back from every form that it is written in, except that the SQL text of the
least integer is read as a double. -/
theorem integer_read_back (n : Int64) :
    (∀ o : OData.Dialect, ∃ text, o.render (.int n) = .ok text ∧
      OData.parseFilter .empty text.toList = .ok (.int n)) ∧
    (∀ o : OData.Dialect, ∃ text, o.render (.literal (.long n)) = .ok text ∧
      OData.parseFilter .empty text.toList = .ok (.literal (.long n))) ∧
    Expr.ofDocument (Expr.int n).toDocument = .ok (.int n) ∧
    ∀ d : Sql.DialectName, ∃ text, d.dialect.exprText (.int n) = .ok text ∧
      Sql.parseExpr d .empty text = .ok (Sql.readInteger n) ∧
      (Sql.parseExpr d .empty text = .ok (.int n) ↔ n ≠ Int64.minValue) := by
  refine ⟨OData.parseFilter_constant (.int n), OData.parseFilter_constant (.long n),
    (Expr.Documented.literal (.int n)).reads, fun d => ?_⟩
  have hread := Sql.parseExpr_integer d n
  refine ⟨_, rfl, hread, ?_⟩
  rw [hread, Except.ok.injEq]
  exact Sql.readInteger_eq_iff n

/-- The generic text of the least integer is read as a double. -/
theorem least_integer_becomes_double :
    Sql.Dialect.generic.exprText (.int Int64.minValue) = .ok "-9223372036854775808" ∧
    Sql.parseExpr .generic .empty "-9223372036854775808"
      = .ok (.literal (.double (.finite true 4503599627370496 11))) ∧
    Sql.parseExpr .generic .empty "-9223372036854775808" ≠ .ok (.int Int64.minValue) := by
  have htext : Sql.Dialect.generic.text [.int Int64.minValue] = "-9223372036854775808" := by decide
  have hread := Sql.parseExpr_integer .generic Int64.minValue
  rw [show Sql.DialectName.generic.dialect = Sql.Dialect.generic from rfl, htext,
    Sql.readInteger, if_pos rfl] at hread
  refine ⟨congrArg Except.ok htext, hread, ?_⟩
  rw [hread]
  intro h
  cases h

end Polyquery
