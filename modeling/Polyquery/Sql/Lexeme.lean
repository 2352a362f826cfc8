import Polyquery.Sql.Dialect
import Polyquery.Text.Letter

/-!
# Lexemes of SQL text

SQL text is read in the lexical rules of one of the built-in dialects.  They differ in the
characters of a name, in the quotes around one, in backslashes inside strings, in comments, and in
which runs of punctuation form one operator.

* `Ident`, `TextKind`, `Lexeme` - names, spellings of text constants, lexemes;
* `isNameStart`, `isNamePart`, `closingQuote?` - the rules of names;
* `quotedText` - a text up to its closing quote;
* `lexemes?` - the lexemes of a text, if every stretch of it is one.
-/

namespace Polyquery.Sql

/-- A name, and the character that opened its quotes. -/
structure Ident where
  value : String
  quote : Option Char
deriving DecidableEq, Inhabited

/-- How a text constant is spelled. -/
inductive TextKind where
  | single
  | double
  | national
  | hex
  | escaped
  | unicode
  | bits (quote : Char)
  /-- Between quotes, three on either side where `long` holds. -/
  | raw (quote : Char) (long : Bool)
  | dollar (tag : String)
deriving DecidableEq

/-- A lexeme. -/
inductive Lexeme where
  | word (name : Ident)
  /-- A number as it is written, and whether an `L` follows it. -/
  | number (digits : String) (long : Bool)
  | text (kind : TextKind) (value : String)
  | placeholder (text : String)
  /-- Punctuation or an operator of the language. -/
  | symbol (text : String)
  /-- An operator that only its definition explains. -/
  | customOperator (text : String)
deriving DecidableEq

/-! ### Names -/

/-- Whether a character can start a name. -/
def isNameStart : DialectName → Char → Bool
  | .generic, c => Text.isAlphabetic c || c = '_' || c = '#' || c = '@'
  | .sqlite, c => Text.isAsciiLetter c || c = '_' || ('\u007f' ≤ c && c ≤ '\uffff')
  | .postgres, c => Text.isAlphabetic c || c = '_'
  | .mySql, c =>
    Text.isAlphabetic c || c = '_' || c = '$' || c = '@' || ('\u0080' ≤ c && c ≤ '\uffff')

/-- Whether a character can stand inside a name. -/
def isNamePart : DialectName → Char → Bool
  | .generic, c =>
    Text.isAlphabetic c || Text.isAsciiDigit c || c = '@' || c = '$' || c = '#' || c = '_'
  | .postgres, c => Text.isAlphabetic c || Text.isAsciiDigit c || c = '$' || c = '_'
  | d, c => isNameStart d c || Text.isAsciiDigit c

/-- The character that closes a name quoted by `c`, if `c` quotes names. -/
def closingQuote? (d : DialectName) (c : Char) : Option Char :=
  if c = '"' then if d = .mySql then none else some '"'
  else if c = '\x60' then if d = .postgres then none else some '\x60'
  else if c = '[' then if d = .sqlite then some ']' else none
  else none

/-- A name or word that starts with the given characters, and the text after it. -/
def wordFrom (d : DialectName) (first rest : List Char) : Lexeme × List Char :=
  (.word ⟨String.ofList (first ++ rest.takeWhile (isNamePart d)), none⟩,
    rest.dropWhile (isNamePart d))

/-! ### Texts in quotes -/

/-- The character a backslash makes of the one after it. -/
def unescaped : Char → Char
  | '0' => '\x00'
  | 'a' => '\x07'
  | 'b' => '\x08'
  | 'f' => '\x0c'
  | 'n' => '\n'
  | 'r' => '\x0d'
  | 't' => '\t'
  | 'Z' => '\x1a'
  | c => c

/-- Put a character in front of a text that has been read. -/
def prepend (c : Char) (read : List Char × List Char) : List Char × List Char :=
  (c :: read.1, read.2)

/-- A text up to its closing quote, and what follows.  A doubled quote stands for one, and with
`backslashes` a backslash escapes the character after it. -/
def quotedText (quote : Char) (backslashes : Bool) : List Char → Option (List Char × List Char)
  | [] => none
  | [c] => if c = quote then some ([], []) else none
  | c :: next :: rest =>
    if c = quote then
      if next = quote then (quotedText quote backslashes rest).map (prepend quote)
      else some ([], next :: rest)
    else if backslashes && c = '\\' then
      (quotedText quote backslashes rest).map (prepend (unescaped next))
    else (quotedText quote backslashes (next :: rest)).map (prepend c)

/-- A lexeme of a text in quotes, and what follows. -/
def textLexeme (kind : TextKind) (quote : Char) (backslashes : Bool) (rest : List Char) :
    Option (Lexeme × List Char) :=
  (quotedText quote backslashes rest).map fun (value, rest) =>
    (.text kind (String.ofList value), rest)

/-- The value of a hexadecimal digit. -/
def hexValue? (c : Char) : Option Nat :=
  if '0' ≤ c ∧ c ≤ '9' then some (c.toNat - '0'.toNat)
  else if 'a' ≤ c ∧ c ≤ 'f' then some (c.toNat - 'a'.toNat + 10)
  else if 'A' ≤ c ∧ c ≤ 'F' then some (c.toNat - 'A'.toNat + 10)
  else none

/-- The number some hexadecimal digits write. -/
def hexNumber? (digits : List Char) : Option Nat :=
  digits.foldlM (fun n c => (hexValue? c).map fun v => 16 * n + v) 0

/-- The character of a code point. -/
def charOf? (n : Nat) : Option Char :=
  if n.isValidChar then some (Char.ofNat n) else none

/-- A code point written with exactly `width` characters, all of them hexadecimal digits but a
plus sign that may stand first, and what follows. -/
def signedCodePoint? (width : Nat) (cs : List Char) : Option (Char × List Char) :=
  if cs.length < width then none
  else do
    let digits := match cs.take width with
      | '+' :: digits => digits
      | digits => digits
    some (← charOf? (← hexNumber? digits), cs.drop width)

/-- A code point written with exactly `width` hexadecimal digits, and what follows. -/
def codePoint? (width : Nat) (cs : List Char) : Option (Char × List Char) :=
  if cs.length < width then none
  else do
    let c ← charOf? (← hexNumber? (cs.take width))
    some (c, cs.drop width)

/-- A byte below 128 written with at most `width` digits, and what follows. -/
def shortCode? (isDigit : Char → Bool) (base width : Nat) (cs : List Char) :
    Option (Char × List Char) := do
  let digits := (cs.take width).takeWhile isDigit
  let values ← digits.mapM hexValue?
  let n := values.foldl (fun n v => base * n + v) 0 % 256
  if n ≤ 127 then some (Char.ofNat n, cs.drop digits.length) else none

/-- What a backslash escapes in an escape string, and what follows. -/
def escape? : List Char → Option (Char × List Char)
  | [] => none
  | c :: rest =>
    match c with
    | 'b' => some ('\x08', rest)
    | 'f' => some ('\x0c', rest)
    | 'n' => some ('\n', rest)
    | 'r' => some ('\x0d', rest)
    | 't' => some ('\t', rest)
    | 'u' => signedCodePoint? 4 rest
    | 'U' => signedCodePoint? 8 rest
    | 'x' =>
      if (rest.head?.bind hexValue?).isSome then
        shortCode? (fun c => (hexValue? c).isSome) 16 2 rest
      else some ('x', rest)
    | c =>
      if '0' ≤ c ∧ c ≤ '7' then
        shortCode? (fun c => '0' ≤ c ∧ c ≤ '7') 8 3 (c :: rest)
      else some (c, rest)

/-- An escape string up to its closing quote, and what follows. -/
def escapeText : Nat → List Char → Option (List Char × List Char)
  | 0, _ => none
  | _ + 1, [] => none
  | n + 1, c :: rest =>
    if c = '\'' then
      match rest with
      | '\'' :: rest => (escapeText n rest).map (prepend '\'')
      | _ => some ([], rest)
    else if c = '\\' then
      match escape? rest with
      | some (c, rest) =>
        if c = '\x00' then none else (escapeText n rest).map (prepend c)
      | none => none
    else (escapeText n rest).map (prepend c)

/-- A string with Unicode escapes up to its closing quote, and what follows. -/
def unicodeText : Nat → List Char → Option (List Char × List Char)
  | 0, _ => none
  | _ + 1, [] => none
  | n + 1, c :: rest =>
    if c = '\'' then
      match rest with
      | '\'' :: rest => (unicodeText n rest).map (prepend '\'')
      | _ => some ([], rest)
    else if c = '\\' then
      let point := match rest with
        | '\\' :: rest => some ('\\', rest)
        | '+' :: rest => codePoint? 6 rest
        | _ => codePoint? 4 rest
      match point with
      | some (c, rest) => (unicodeText n rest).map (prepend c)
      | none => none
    else (unicodeText n rest).map (prepend c)

/-- A text up to three quotes in a row, and what follows. -/
def longText (quote : Char) : List Char → Option (List Char × List Char)
  | [] => none
  | c :: rest =>
    if [quote, quote, quote].isPrefixOf (c :: rest) then some ([], rest.drop 2)
    else (longText quote rest).map (prepend c)

/-- A raw text, between three quotes if as many stand in front; `rest` follows the first quote. -/
def rawLexeme (quote : Char) (rest : List Char) : Option (Lexeme × List Char) :=
  let lexeme := fun (long : Bool) (value : List Char) =>
    Lexeme.text (.raw quote long) (String.ofList value)
  match rest.take 2 == [quote, quote], rest.head? == some quote with
  | true, _ => (longText quote (rest.drop 2)).map fun (value, rest) => (lexeme true value, rest)
  | false, true => some (lexeme false [], rest.drop 1)
  | false, false => (quotedText quote false rest).map fun (value, rest) =>
    (lexeme false value, rest)

/-- The number of characters that two texts have in common at their front. -/
def sharedFront : List Char → List Char → Nat
  | c :: cs, d :: ds => if c = d then sharedFront cs ds + 1 else 0
  | _, _ => 0

/-- A text up to a tag between dollar signs, and what follows.  What has been compared to a tag is
not looked at again. -/
def dollarText (tag : List Char) : Nat → List Char → Option (List Char × List Char)
  | 0, _ => none
  | _ + 1, [] => none
  | n + 1, c :: rest =>
    if c ≠ '$' then (dollarText tag n rest).map (prepend c)
    else
      let shared := sharedFront tag rest
      if shared = tag.length then
        match rest.drop shared with
        | '$' :: rest => some ([], rest)
        | after => (dollarText tag n after).map fun read => (c :: tag ++ read.1, read.2)
      else if rest.length ≤ shared then none
      else
        (dollarText tag n (rest.drop (shared + 1))).map fun read =>
          (c :: rest.take (shared + 1) ++ read.1, read.2)

/-- A text between dollar signs or a placeholder; `rest` follows the first dollar sign. -/
def dollarLexeme (rest : List Char) : Option (Lexeme × List Char) :=
  let isTagPart := fun c => Text.isAlphanumeric c || c = '_'
  let tag := rest.takeWhile isTagPart
  match rest.dropWhile isTagPart with
  | '$' :: body =>
    (dollarText tag (body.length + 1) body).map fun (value, rest) =>
      (.text (.dollar (String.ofList tag)) (String.ofList value), rest)
  | rest => some (.placeholder (String.ofList ('$' :: tag)), rest)

/-! ### Numbers -/

/-- The exponent in front of a text, and what follows it. -/
def exponentPart (cs : List Char) : List Char × List Char :=
  match cs with
  | e :: rest =>
    if e = 'e' || e = 'E' then
      let sign := rest.takeWhile (fun c => c = '+' || c = '-') |>.take 1
      let rest := rest.drop sign.length
      let digits := rest.takeWhile Text.isAsciiDigit
      if digits.isEmpty then ([], cs) else (e :: sign ++ digits, rest.drop digits.length)
    else ([], cs)
  | [] => ([], [])

/-- A lexeme that starts with a digit or a point, and what follows. -/
def numberLexeme (d : DialectName) (cs : List Char) : Lexeme × List Char :=
  let whole := cs.takeWhile Text.isAsciiDigit
  match whole, cs.dropWhile Text.isAsciiDigit with
  | ['0'], 'x' :: rest =>
    let digits := rest.takeWhile fun c => (hexValue? c).isSome
    (.text .hex (String.ofList digits), rest.drop digits.length)
  | whole, rest =>
    let (number, rest) := match rest with
      | '.' :: rest =>
        (whole ++ '.' :: rest.takeWhile Text.isAsciiDigit, rest.dropWhile Text.isAsciiDigit)
      | rest => (whole, rest)
    if number = ['.'] then (.symbol ".", rest)
    else
      let (exponent, rest) := exponentPart rest
      let plain := exponent.isEmpty && !(rest.head? == some 'e' || rest.head? == some 'E')
      let tail := if d = .mySql && plain then rest.takeWhile (isNamePart d) else []
      if !tail.isEmpty then
        (.word ⟨String.ofList (number ++ tail), none⟩, rest.drop tail.length)
      else
        match rest with
        | 'L' :: rest => (.number (String.ofList (number ++ exponent)) true, rest)
        | rest => (.number (String.ofList (number ++ exponent)) false, rest)

/-! ### Operators -/

/-- Operators and punctuation, a longer one before those it starts with.  The flag tells whether a
dialect with operators of its own may extend it. -/
def symbols : List (String × Bool) :=
  [("->>", true), ("->", true), ("-", true), ("||/", true), ("||", true), ("|/", true),
    ("|", true), ("=>", false), ("==", false), ("=", false), ("!=", false), ("!!", false),
    ("!~~*", false), ("!~~", false), ("!~*", false), ("!~", false), ("!", false), ("<=>", true),
    ("<=", true), ("<>", true), ("<<", true), ("<@", true), ("<", true), (">=", true),
    (">>", true), (">", true), ("::", false), (":=", false), (":", false), (";", false),
    ("\\", false), ("[", false), ("]", false), ("&&", true), ("&", true), ("^@", false),
    ("^", false), ("\x7b", false), ("\x7d", false), ("~~*", true), ("~~", true), ("~*", true),
    ("~", true), ("#>>", true), ("#>", true), ("#-", true), ("#", true), ("@>", false),
    ("@?", false), ("@@", false), ("@", false), ("%", true), ("+", false), ("*", false),
    ("/", false), ("(", false), (")", false), (",", false)]

/-- Whether a character can extend an operator. -/
def isOperatorPart (d : DialectName) (c : Char) : Bool :=
  d = .postgres &&
    c ∈ ['+', '-', '*', '/', '<', '>', '=', '~', '!', '@', '#', '%', '^', '&', '|', '\x60', '?']

/-- An operator, punctuation or a lone character, and what follows. -/
def symbolLexeme (d : DialectName) (c : Char) (rest : List Char) : Lexeme × List Char :=
  match symbols.find? fun s => s.1.toList.isPrefixOf (c :: rest) with
  | some (text, extends?) =>
    let rest := (c :: rest).drop text.toList.length
    let more := if extends? then rest.takeWhile (isOperatorPart d) else []
    if more.isEmpty then (.symbol text, rest)
    else (.customOperator (text ++ String.ofList more), rest.drop more.length)
  | none => (.symbol (String.singleton c), rest)

/-- A lexeme that starts with a question mark, and what follows. -/
def questionLexeme (d : DialectName) (rest : List Char) : Lexeme × List Char :=
  match d, rest with
  | .postgres, '|' :: rest => (.symbol "?|", rest)
  | .postgres, '&' :: rest => (.symbol "?&", rest)
  | .postgres, rest => (.symbol "?", rest.drop 1)
  | _, rest =>
    (.placeholder (String.ofList ('?' :: rest.takeWhile Text.isNumeric)),
      rest.dropWhile Text.isNumeric)

/-! ### Blanks and comments -/

/-- What follows a comment up to the end of the line. -/
def afterLine : List Char → List Char
  | [] => []
  | c :: rest => if c = '\n' then rest else afterLine rest

/-- What follows a block comment; comments nest, and `last` is the character before. -/
def afterBlock (nesting : Nat) (last : Char) : List Char → Option (List Char)
  | [] => none
  | c :: rest =>
    if last = '/' && c = '*' then afterBlock (nesting + 1) c rest
    else if last = '*' && c = '/' then
      if nesting ≤ 1 then some rest else afterBlock (nesting - 1) c rest
    else afterBlock nesting c rest

/-- Whether two hyphens start a comment, by what follows them. -/
def startsLineComment (d : DialectName) (rest : List Char) : Bool :=
  d ≠ .mySql || rest.head? = some ' '

/-! ### Texts -/

/-- A lexeme that starts with a letter, where some letters announce the spelling of a text. -/
def letterLexeme (d : DialectName) (c : Char) (rest : List Char) : Option (Lexeme × List Char) :=
  let word := some (wordFrom d [c] rest)
  match rest with
  | '\'' :: body =>
    match c with
    | 'b' | 'B' => if d = .sqlite then word else textLexeme (.bits '\'') '\'' false body
    | 'r' | 'R' => if d = .generic then rawLexeme '\'' body else word
    | 'n' | 'N' => textLexeme .national '\'' true body
    | 'e' | 'E' =>
      (escapeText (body.length + 1) body).map fun (value, rest) =>
        (.text .escaped (String.ofList value), rest)
    | 'x' | 'X' => textLexeme .hex '\'' true body
    | _ => word
  | '"' :: body =>
    match c with
    | 'b' | 'B' => if d = .sqlite then word else textLexeme (.bits '"') '"' false body
    | 'r' | 'R' => if d = .generic then rawLexeme '"' body else word
    | _ => word
  | '&' :: '\'' :: body =>
    if (c = 'u' || c = 'U') && (d = .generic || d = .postgres) then
      (unicodeText (body.length + 1) body).map fun (value, rest) =>
        (.text .unicode (String.ofList value), rest)
    else word
  | _ => word

/-- A lexeme that starts with `@` or `#` where those start names, and what follows. -/
def sigilLexeme (d : DialectName) (c : Char) (rest : List Char) : Lexeme × List Char :=
  match c, rest with
  | '@', '@' :: next :: after =>
    if next = ' ' then (.symbol "@@", next :: after) else wordFrom d ['@', '@', next] after
  | _, next :: after =>
    if next = ' ' || (symbols.any fun s => s.1 = String.ofList [c, next]) then
      symbolLexeme d c rest
    else wordFrom d [c, next] after
  | _, [] => symbolLexeme d c []

/-- What stands in front of a text: a blank or comment, which is no lexeme, or a lexeme. -/
def nextLexeme (d : DialectName) (c : Char) (rest : List Char) :
    Option (Option Lexeme × List Char) :=
  let lexeme := fun (read : Lexeme × List Char) => (some read.1, read.2)
  if c = ' ' || c = '\t' || c = '\n' || c = '\x0d' then some (none, rest)
  else if c = '\'' then (textLexeme .single '\'' (d = .mySql) rest).map lexeme
  else if c = '"' && d = .mySql then (textLexeme .double '"' true rest).map lexeme
  else if let some close := closingQuote? d c then
    (quotedText close false rest).map fun (value, rest) =>
      (some (.word ⟨String.ofList value, some c⟩), rest)
  else if Text.isAsciiLetter c then (letterLexeme d c rest).map lexeme
  else if Text.isAsciiDigit c || c = '.' then some (lexeme (numberLexeme d (c :: rest)))
  else if c = '#' && d = .mySql then some (none, afterLine rest)
  else if (c = '@' || c = '#') && isNameStart d c then some (lexeme (sigilLexeme d c rest))
  else if c = '?' then some (lexeme (questionLexeme d rest))
  else if isNameStart d c then some (lexeme (wordFrom d [c] rest))
  else if c = '$' then (dollarLexeme rest).map lexeme
  else if Text.isBlank c then some (none, rest)
  else
    match c, rest with
    | '-', '-' :: after =>
      if startsLineComment d after then some (none, afterLine after)
      else some (lexeme (symbolLexeme d c rest))
    | '/', '*' :: after => (afterBlock 1 ' ' after).map fun rest => (none, rest)
    | '/', '/' :: after =>
      if d = .generic then some (some (.symbol "//"), after)
      else some (lexeme (symbolLexeme d c rest))
    | _, _ => some (lexeme (symbolLexeme d c rest))

/-- The lexemes of a text, reading at most `n` of its stretches. -/
def lexemesWithin (d : DialectName) : Nat → List Char → Option (List Lexeme)
  | _, [] => some []
  | 0, _ :: _ => none
  | n + 1, c :: rest =>
    match nextLexeme d c rest with
    | none => none
    | some (none, rest) => lexemesWithin d n rest
    | some (some lexeme, rest) => (lexemesWithin d n rest).map fun ls => lexeme :: ls

/-- The lexemes of a text, if every stretch of it is one. -/
def lexemes? (d : DialectName) (text : String) : Option (List Lexeme) :=
  let cs := text.toList
  lexemesWithin d cs.length cs

end Polyquery.Sql
