import Polyquery.Error
import Polyquery.Expr.TextPattern

/-!
# Patterns of `LIKE`

* `LikePiece`, `likePieces` - a pattern as characters and wildcards;
* `likeRegex` - the regular expression that finds what a pattern matches.

A wildcard for any text at an end of a pattern leaves the expression without an anchor there.
-/

namespace Polyquery.Sql

/-- A part of a pattern. -/
inductive LikePiece where
  | character (c : Char)
  | anyText
  | anyCharacter
deriving DecidableEq

/-- The parts of a pattern.  A character behind the escape character stands for itself; a pattern
that ends in the escape character has no parts. -/
def likePieces (escape : Option Char) : List Char → Option (List LikePiece)
  | [] => some []
  | [c] =>
    if some c = escape then none
    else if c = '%' then some [.anyText]
    else if c = '_' then some [.anyCharacter]
    else some [.character c]
  | c :: next :: rest =>
    if some c = escape then (likePieces escape rest).map fun ps => .character next :: ps
    else
      let piece := if c = '%' then LikePiece.anyText
        else if c = '_' then .anyCharacter
        else .character c
      (likePieces escape (next :: rest)).map fun ps => piece :: ps

/-- The regular expression of a part. -/
def LikePiece.regex : LikePiece → List Char
  | .character c => TextPattern.escape [c]
  | .anyText => ['.', '*']
  | .anyCharacter => ['.']

/-- The regular expression of the parts of a pattern. -/
def piecesRegex (pieces : List LikePiece) : List Char :=
  let (start, rest) := match pieces with
    | .anyText :: rest => ([], rest)
    | pieces => (['^'], pieces)
  let (body, stop) :=
    if rest.getLast? = some .anyText then (rest.dropLast, []) else (rest, ['$'])
  start ++ body.flatMap LikePiece.regex ++ stop

/-- The regular expression that finds what a pattern matches. -/
def likeRegex (pattern : String) (escape : Option Char) : QueryResult String :=
  match likePieces escape pattern.toList with
  | some pieces => .ok (String.ofList (piecesRegex pieces))
  | none =>
    .error (.invalidExpression ("LIKE pattern '" ++ pattern ++
      "' ends with its escape character"))

end Polyquery.Sql
