/-!
# Delimited text

* `doubling` - a text with one character doubled;
* `delimited` - the doubled text between delimiters;
* `splitOn` - the parts of a text between separators.
-/

namespace Polyquery.Text

/-- The characters with every `q` doubled. -/
def doubling (q : Char) (cs : List Char) : List Char :=
  cs.flatMap fun c => if c = q then [c, c] else [c]

/-- A text between two delimiters, each `q` in it doubled. -/
def delimited (q : Char) (s : String) : String :=
  String.ofList (q :: (doubling q s.toList ++ [q]))

/-- The parts between separators; there is one part more than separators. -/
def splitOn (separator : Char) : List Char → List (List Char)
  | [] => [[]]
  | c :: rest =>
    if c = separator then [] :: splitOn separator rest
    else
      match splitOn separator rest with
      | [] => [[c]]
      | part :: parts => (c :: part) :: parts

/-- The dot-separated segments of a path. -/
def segments (path : String) : List String := (splitOn '.' path.toList).map String.ofList

end Polyquery.Text
