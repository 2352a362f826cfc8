import Polyquery.Proofs.Sql.RoundTrip

/-!
# Texts of every dialect and the expressions that they are read as

A text that a dialect writes has the lexemes of its tokens, in the lexical rules of the same dialect.
What it is read as is then a matter of the grammar and of the meaning of trees.

* `textExpression` - the reading of the expression that a text starts with;
* `parseExpr_of_ok`, `parseExpr_of_error` - the text of tokens is read as their lexemes are;
* `readInteger`, `parseExpr_integer` - the expression that the text of an integer is read as.
-/

namespace Polyquery.Sql

/-! ### Tokens of every dialect -/

/-- The lexemes of a qualified name in a dialect. -/
def pathLexemes (d : DialectName) (path : String) : List Lexeme :=
  match (Text.segments path).map (identIn d) with
  | [] => []
  | name :: names => .word name :: pointed names

/-- The tree of names with points between them. -/
def qualifiedTree : List Ident → Tree
  | [name] => .name name
  | names => .path names

/-- The tree of a qualified name in a dialect. -/
def pathTreeIn (d : DialectName) (path : String) : Tree :=
  qualifiedTree ((Text.segments path).map (identIn d))

namespace SpelledIn

variable {d : DialectName}

theorem pathTokens (d : DialectName) (path : String) :
    SpelledIn d (Sql.pathTokens path) (pathLexemes d path) := by
  obtain ⟨first, rest, hpath⟩ := List.exists_cons_of_ne_nil (Text.segments_ne_nil path)
  rw [Sql.pathTokens, pathLexemes, hpath]
  exact SpelledIn.path d first rest

/-- Items with commas between them. -/
theorem commaSeparated {items : List (List Token)} {lists : List (List Lexeme)}
    (h : List.Forall₂ (SpelledIn d) items lists) :
    SpelledIn d (Token.commaSeparated items) (commaLexemes lists) := by
  induction h with
  | nil => exact nil
  | @cons item ls items lists hitem hitems ih =>
    cases hitems with
    | nil =>
      have hsingle : commaLexemes [ls] = ls := List.append_nil ls
      rw [hsingle]
      exact hitem
    | @cons next ms items lists hnext hitems =>
      have htail : commaLexemes (ls :: ms :: lists)
          = ls ++ .symbol "," :: commaLexemes (ms :: lists) := rfl
      rw [Token.commaSeparated, Token.separated.eq_3 _ _ _ (by simp), List.append_assoc, htail]
      exact append hitem (comma (space ih)) (boundary_comma d _)

/-- A call of a function by its word. -/
theorem call {name : String} (hname : isBareName (Text.upper name) = true)
    {args : List (List Token)} {lists : List (List Lexeme)}
    (h : List.Forall₂ (SpelledIn d) args lists) :
    SpelledIn d (Token.call name args)
      (wordLexeme (Text.upper name) :: enclosed (commaLexemes lists)) := by
  have hword : SpelledIn d [.functionName name] [wordLexeme (Text.upper name)] := word rfl hname
  have hclosed : SpelledIn d (Token.commaSeparated args ++ [.rightParen])
      (commaLexemes lists ++ [.symbol ")"]) :=
    append (commaSeparated h) (rightParen nil) (boundary_rightParen d [])
  rw [Token.call, List.append_assoc]
  exact append hword (leftParen hclosed) (boundary_leftParen d _)

end SpelledIn

/-! ### Texts -/

/-- The reading of the expression that a text starts with. -/
def textExpression (d : DialectName) : Parse Tree :=
  (readings d (readers d false nestingLimit)).expression

section Texts

variable {d : DialectName} {ts : List Token} {ls : List Lexeme}

/-- The expression of a spelled text is that of its lexemes, if there is one. -/
theorem expression?_textIn (h : SpelledIn d ts ls) :
    expression? d (d.dialect.text ts) = (textExpression d ls).toOption.map Prod.fst := by
  simp only [expression?, lexemes?_textIn h, Option.bind_eq_bind, Option.bind_some, textExpression]
  cases (readings d (readers d false nestingLimit)).expression ls <;> rfl

theorem parseExpr_of_ok {t : Tree} {rest : List Lexeme} (h : SpelledIn d ts ls)
    (hread : textExpression d ls = .ok (t, rest)) (rs : Resolvers) :
    parseExpr d rs (d.dialect.text ts) = t.toExpr rs := by
  rw [parseExpr, expression?_textIn h, hread]
  rfl

theorem parseExpr_of_error {refusal : Refusal} (h : SpelledIn d ts ls)
    (hread : textExpression d ls = .error refusal) (rs : Resolvers) :
    parseExpr d rs (d.dialect.text ts) = .error .sqlSyntax := by
  rw [parseExpr, expression?_textIn h, hread]
  rfl

/-- The whole of a text is one expression, with the given tree. -/
def ReadsText (d : DialectName) (text : String) (t : Tree) : Prop :=
  ∃ ls, lexemes? d text = some ls ∧ textExpression d ls = .ok (t, [])

theorem readsText_of_spelled {t : Tree} (h : SpelledIn d ts ls)
    (hread : textExpression d ls = .ok (t, [])) : ReadsText d (d.dialect.text ts) t :=
  ⟨ls, lexemes?_textIn h, hread⟩

end Texts

/-! ### Integers -/

/-- The double of the least integer. -/
def leastDouble : Double := .finite true (Nat.pow 2 52) 11

/-- The expression that the text of an integer is read as.  The digits of the least integer are no
integer of 64 bits without their sign, which is an operator. -/
def readInteger (n : Int64) : Expr :=
  if n = Int64.minValue then .literal (.double leastDouble) else .int n

theorem readInteger_eq_iff (n : Int64) : readInteger n = .int n ↔ n ≠ Int64.minValue := by
  unfold readInteger
  split
  · rename_i hleast
    refine ⟨fun h => ?_, fun h => absurd hleast h⟩
    cases h
  · rename_i hleast
    exact ⟨fun _ => hleast, fun _ => rfl⟩

/-- The tree of an integer, the least one included. -/
theorem toExpr_integer (n : Int64) : (intTree n.toInt).toExpr .empty = .ok (readInteger n) := by
  by_cases h : n = Int64.minValue
  · subst h
    rw [readInteger, if_pos rfl]
    exact toExpr_of_literal? rfl
  · rw [readInteger, if_neg h, toExpr_intTree h]

theorem textExpression_integer (d : DialectName) (n : Int64) :
    textExpression d (intLexemes n.toInt) = .ok (intTree n.toInt, []) := by
  rw [intLexemes, intTree, signedLexemes, signedTree]
  split <;> cases d <;> rfl

/-- The text of an integer in any dialect. -/
theorem parseExpr_integer (d : DialectName) (n : Int64) :
    parseExpr d .empty (d.dialect.text [.int n]) = .ok (readInteger n) := by
  rw [parseExpr_of_ok (.int d n) (textExpression_integer d n), toExpr_integer]

end Polyquery.Sql
