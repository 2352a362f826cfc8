import Polyquery.Number.Integer

/-!
# Failures

Every failure of building, reading or writing a query, by its cause.

* `Span`, `SyntaxFault`, `SyntaxError` - faults in query option texts, with byte offsets;
* `QueryError` - any failure; `QueryError.message` words it;
* `ErrorCategory`, `QueryError.category` - the coarse classification;
* `SyntaxError.shifted` - a fault seen from the enclosing text.
-/

namespace Polyquery

/-- A range of bytes of a text, its end excluded. -/
structure Span where
  start : Nat
  stop : Nat
deriving DecidableEq, Inhabited

/-- The span in a text that has `base` more bytes in front. -/
def Span.shift (base : Nat) (s : Span) : Span := ⟨s.start + base, s.stop + base⟩

/-- What is wrong with a text. -/
inductive SyntaxFault where
  | unterminatedString
  | unexpectedToken (text : String)
  | expectedOperand
  | expectedIdentifier
  | unknownCharacter (c : Char)
  | invalidLiteral (text : String)
deriving DecidableEq

/-- The wording of a fault. -/
def SyntaxFault.message : SyntaxFault → String
  | .unterminatedString => "unterminated string literal"
  | .unexpectedToken text => "unexpected token '" ++ text ++ "'"
  | .expectedOperand => "expected an operand"
  | .expectedIdentifier => "expected an identifier"
  | .unknownCharacter c => "unknown syntax character '" ++ String.singleton c ++ "'"
  | .invalidLiteral text => "invalid literal '" ++ text ++ "'"

/-- A fault and where it stands. -/
structure SyntaxError where
  fault : SyntaxFault
  span : Span
deriving DecidableEq

namespace SyntaxError

/-- The byte offset of the fault. -/
def offset (e : SyntaxError) : Nat := e.span.start

/-- The same fault in a text that has `base` more bytes in front. -/
def shifted (base : Nat) (e : SyntaxError) : SyntaxError := { e with span := e.span.shift base }

/-- The wording of a fault with its offset. -/
def message (e : SyntaxError) : String :=
  e.fault.message ++ " at offset " ++ Integer.natText e.offset

end SyntaxError

/-- Coarse classification of failures. -/
inductive ErrorCategory where
  | parseSyntax
  | unsupportedConstruct
  | unresolved
  | builderState
  | unsupportedStatementKind
deriving DecidableEq

/-- Any failure of building, reading or writing a query. -/
inductive QueryError where
  | syntaxError (e : SyntaxError)
  /-- A text outside the SQL grammar. -/
  | sqlSyntax
  | unsupported (construct : String)
  | unresolvedMethod (name : String)
  | unknownOperator (name : String)
  | unknownParameter (name : String)
  | noPendingOperand
  | joinNotStaged
  | orderingNotStarted
  | invalidCollectionName (name : String)
  | invalidExpression (reason : String)
  | invalidField (reason : String)
  | unsupportedArgument (reason : String)
  | emptyPayload (statement : String)
  | unsupportedStatement (kind : String)
deriving DecidableEq

namespace QueryError

/-- The class of a failure. -/
def category : QueryError → ErrorCategory
  | .syntaxError _ | .sqlSyntax => .parseSyntax
  | .unsupported _ => .unsupportedConstruct
  | .unresolvedMethod _ | .unknownOperator _ | .unknownParameter _ => .unresolved
  | .noPendingOperand | .joinNotStaged | .orderingNotStarted | .invalidCollectionName _
  | .invalidExpression _ | .invalidField _ | .unsupportedArgument _ | .emptyPayload _ =>
    .builderState
  | .unsupportedStatement _ => .unsupportedStatementKind

/-- The wording of a failure. -/
def message : QueryError → String
  | .syntaxError e => "syntax error: " ++ e.message
  | .sqlSyntax => "SQL syntax error: sql parser error"
  | .unsupported construct => "unsupported construct: " ++ construct
  | .unresolvedMethod name => "no resolver claimed method '" ++ name ++ "'"
  | .unknownOperator name => "no renderer for operator '" ++ name ++ "'"
  | .unknownParameter name => "unknown parameter '" ++ name ++ "'"
  | .noPendingOperand =>
    "comparison requires a pending left operand, call where_field/and_also/or_else first"
  | .joinNotStaged => "on() requires a staged join()"
  | .orderingNotStarted => "then_by requires a preceding order_by"
  | .invalidCollectionName name => "invalid collection name '" ++ name ++ "'"
  | .invalidExpression reason => "invalid expression: " ++ reason
  | .invalidField reason => "invalid field expression: " ++ reason
  | .unsupportedArgument reason => "unsupported argument type: " ++ reason
  | .emptyPayload statement => statement ++ " statement has nothing to write"
  | .unsupportedStatement kind => "unsupported statement kind: " ++ kind

/-- A syntax fault at a span. -/
def syntaxAt (fault : SyntaxFault) (span : Span) : QueryError := .syntaxError ⟨fault, span⟩

/-- Move a syntax fault into the coordinates of an enclosing text; other failures stay. -/
def shifted (base : Nat) : QueryError → QueryError
  | .syntaxError e => .syntaxError (e.shifted base)
  | other => other

end QueryError

/-- A computation that may fail with a query error. -/
abbrev QueryResult (α : Type) := Except QueryError α

end Polyquery
