import Polyquery.Error
import Polyquery.Text.Bytes
import Polyquery.Text.Width

/-!
# Reports of syntax errors

A syntax error drawn below the text it is about, without colours.

* `SourceLine`, `sourceLines` - the lines of a text and where they start;
* `Label` - the marked characters and their message;
* `SyntaxError.report` - the report.

The places of a report count characters.  A mark inside one line is drawn below it, one over several
lines beside them.
-/

namespace Polyquery

/-! ### Lines -/

/-- A line of a text: its number from zero, the number of characters before it, and its characters
with the line break. -/
structure SourceLine where
  number : Nat
  start : Nat
  chars : List Char

namespace SourceLine

/-- The number of characters before the next line. -/
def stop (l : SourceLine) : Nat := l.start + l.chars.length

/-- Whether the character at a place belongs to the line. -/
def holds (l : SourceLine) (place : Nat) : Bool :=
  decide (l.start ≤ place) && decide (place < l.stop)

/-- The characters of a line that are drawn. -/
def visible (l : SourceLine) : List Char := (l.chars.reverse.dropWhile Text.isBlank).reverse

/-- The columns of a place of a line; places behind the text take one. -/
def columns (l : SourceLine) (place : Nat) : Nat :=
  match l.visible[place]? with
  | some c => Text.columnsAt place c
  | none => 1

/-- The text of a line, blanks as spaces. -/
def drawn (l : SourceLine) : List Char :=
  l.visible.zipIdx.flatMap fun (c, place) =>
    if Text.isBlank c then List.replicate (Text.columnsAt place c) ' ' else [c]

end SourceLine

/-- Characters that end a line; a carriage return and a line feed end it together. -/
def isLineBreak (c : Char) : Bool :=
  c ∈ ['\r', '\n', '\x0b', '\x0c', '\u0085', '\u2028', '\u2029']

/-- Lines from a number and place on, `line` being the characters of the first one in reverse. -/
def linesFrom (number start : Nat) (line : List Char) : List Char → List SourceLine
  | [] => if line.isEmpty then [] else [⟨number, start, line.reverse⟩]
  | '\r' :: '\n' :: rest =>
    ⟨number, start, ('\n' :: '\r' :: line).reverse⟩ ::
      linesFrom (number + 1) (start + line.length + 2) [] rest
  | c :: rest =>
    if isLineBreak c then
      ⟨number, start, (c :: line).reverse⟩ ::
        linesFrom (number + 1) (start + line.length + 1) [] rest
    else linesFrom number start (c :: line) rest

/-- The lines of a text; a text without characters is one line. -/
def sourceLines (source : List Char) : List SourceLine :=
  if source.isEmpty then [⟨0, 0, []⟩] else linesFrom 0 0 [] source

/-- The line of a place: the last one that starts at or before it. -/
def lineAt? (lines : List SourceLine) (place : Nat) : Option SourceLine :=
  if place ≤ (lines.getLast?.map SourceLine.stop).getD 0 then
    (lines.filter fun l => l.start ≤ place).getLast?
  else none

/-! ### Labels -/

/-- A mark over characters, the end excluded, with its message. -/
structure Label where
  start : Nat
  stop : Nat
  message : String

namespace Label

/-- The last character of a mark, or its place if it marks none. -/
def last (m : Label) : Nat := max (m.stop - 1) m.start

/-- Whether a mark covers a place. -/
def covers (m : Label) (place : Nat) : Bool := decide (m.start ≤ place) && decide (place < m.stop)

end Label

/-! ### Drawing -/

/-- A row of text. -/
def row (cs : List Char) : List Char := cs ++ ['\n']

/-- The margin of a row that shows no line. -/
def blankMargin (width : Nat) : List Char := List.replicate (width + 2) ' ' ++ ['│', ' ']

/-- The margin of a line with its number. -/
def lineMargin (width : Nat) (l : SourceLine) : List Char :=
  let digits := Nat.toDigits 10 (l.number + 1)
  ' ' :: (List.replicate (width - digits.length) ' ' ++ digits ++ [' ', '│', ' '])

/-- A cell of some columns: its first character, and the one that fills the others. -/
def cell (columns : Nat) (first fill : Char) : List Char :=
  if columns = 0 then [] else first :: List.replicate (columns - 1) fill

/-- Cells below a line, one for each of its first `count` places. -/
def cells (l : SourceLine) (count : Nat) (draw : Nat → Char × Char) : List Char :=
  (List.range count).flatMap fun place =>
    cell (l.columns place) (draw place).1 (draw place).2

/-- The rows of a line with a mark inside it. -/
def inlineRows (width : Nat) (l : SourceLine) (m : Label) : List Char :=
  let hook := max ((m.start + m.stop) / 2) m.start - l.start
  let count := m.stop - l.start + 2
  let mark (place : Nat) : Char × Char :=
    let covered := m.covers (l.start + place)
    if place = hook then (if covered then ('┬', '─') else ('│', ' '))
    else if covered then ('─', '─')
    else (' ', ' ')
  let arrow (place : Nat) : Char × Char :=
    if place = hook then ('╰', '─') else if hook < place then ('─', '─') else (' ', ' ')
  row (lineMargin width l ++ l.drawn) ++ row (blankMargin width ++ cells l count mark) ++
    row (blankMargin width ++ cells l count arrow ++ ' ' :: m.message.toList)

/-- The rows of the lines of a mark over several ones; `skipping` tells whether lines have just been
left out. -/
def blockRows (width : Nat) (m : Label) (skipping : Bool) : List SourceLine → List Char
  | [] => []
  | l :: rest =>
    if l.holds m.start then
      row (lineMargin width l ++ ['╭', '─', '▶', ' '] ++ l.drawn) ++ blockRows width m false rest
    else if l.holds m.last then
      let count := l.chars.length + 2
      row (lineMargin width l ++ ['├', '─', '▶', ' '] ++ l.drawn) ++
        row (blankMargin width ++ ['│', ' ', ' ', ' '] ++ cells l count fun _ => (' ', ' ')) ++
        row (blankMargin width ++ ['╰', '─', '─', '─'] ++ (cells l count fun _ => ('─', '─')) ++
          ' ' :: m.message.toList) ++
        blockRows width m false rest
    else if skipping then blockRows width m true rest
    else
      row (List.replicate (width + 2) ' ' ++ ['┆', ' ', '┆', ' ', ' ', ' ']) ++
        blockRows width m true rest

/-- The rows of a mark that starts in one line and ends in another or the same one. -/
def markRows (width : Nat) (lines : List SourceLine) (m : Label) (first last : SourceLine) :
    List Char :=
  if first.number = last.number then
    if m.stop ≤ first.stop then inlineRows width first m else row (blankMargin width)
  else
    blockRows width m false
      (lines.filter fun l => first.number ≤ l.number && l.number ≤ last.number)

/-- The frame around the rows of a mark. -/
def framedRows (lines : List SourceLine) (m : Label) (first last : SourceLine) : List Char :=
  let width := (Nat.toDigits 10 (last.number + 1)).length
  let column := m.start - first.start + 1
  let place := Nat.toDigits 10 (first.number + 1) ++ ':' :: Nat.toDigits 10 column
  let inset := List.replicate (width + 2) ' '
  row (inset ++ "╭─[ <unknown>:".toList ++ place ++ " ]".toList) ++ row (inset ++ ['│']) ++
    markRows width lines m first last ++ row (List.replicate (width + 2) '─' ++ ['╯'])

/-- The report of a mark: its message, and the frame if the mark lies in the text. -/
def Label.report (m : Label) (source : List Char) : String :=
  let lines := sourceLines source
  let header := row ("Error: ".toList ++ m.message.toList)
  match lineAt? lines m.start, lineAt? lines m.last with
  | some first, some last => String.ofList (header ++ framedRows lines m first last)
  | _, _ => String.ofList header

namespace SyntaxError

/-- The mark of an error in a text: at least one character, and none behind the text. -/
def label (e : SyntaxError) (length : Nat) : Label :=
  let stop := min (max e.span.stop (e.span.start + 1)) (max length 1)
  ⟨min e.span.start stop, stop, e.fault.message⟩

/-- The report of an error in a text, its span taken as a range of characters. -/
def report (e : SyntaxError) (source : List Char) : String :=
  (e.label (Text.byteLength source)).report source

end SyntaxError

end Polyquery
