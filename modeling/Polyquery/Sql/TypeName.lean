import Polyquery.Sql.Literal

/-!
# Names of types and of parts of dates

* `typeName` - a type, by its wording, and whether it is built in;
* `structFields` - the fields of a record type;
* `dateField` - a part of a date.

Types between angle brackets may nest, and two closing brackets may stand together as one operator.
A type then tells whether it has taken the bracket that closes what stands around it, too.
-/

namespace Polyquery.Sql

/-- What kind of type a name stands for. -/
inductive TypeKind where
  | builtIn
  | interval
  | custom
deriving DecidableEq

/-- A type that has been read. -/
structure TypeText where
  text : String
  kind : TypeKind
  /-- The closing bracket of what stands around the type has been taken, too. -/
  closesOuter : Bool

/-! ### Sizes -/

/-- A number in parentheses, if there is one. -/
def optionalSize : Parse String := do
  if symbolAhead "(" (← get) then return "(" ++ (← inParens wholeNumber) ++ ")" else return ""

/-- The length of a text in parentheses, if there is one. -/
def optionalLength : Parse String := do
  if symbolAhead "(" (← get) then
    let length ← inParens do
      if ← keyword? "MAX" then return "MAX"
      else
        let length ← wholeNumber
        return spacedText [length, (← oneOf? ["CHARACTERS", "OCTETS"]).getD ""]
    return "(" ++ length ++ ")"
  else return ""

/-- A precision and a scale in parentheses, if they are there; `comma` stands between them. -/
def optionalPrecision (comma : String) : Parse String := do
  if ← symbol? "(" then
    let precision ← wholeNumber
    let scale ← if ← symbol? "," then pure (comma ++ (← wholeNumber)) else pure ""
    expectSymbol ")"
    return "(" ++ precision ++ scale ++ ")"
  else return ""

/-- The wording of a time zone behind a type, if there is one. -/
def optionalZone : Parse String := do
  match ← oneOf? ["WITH", "WITHOUT"] with
  | some word =>
    expectKeywords ["TIME", "ZONE"]
    return " " ++ word ++ " TIME ZONE"
  | none => return ""

/-! ### Simple types -/

/-- Types of one word. -/
def plainTypes : List String :=
  ["BOOLEAN", "BOOL", "REAL", "FLOAT4", "FLOAT64", "FLOAT8", "INT64", "UUID", "DATE", "JSON",
    "JSONB", "REGCLASS", "TEXT", "TINYTEXT", "MEDIUMTEXT", "LONGTEXT", "BYTEA", "TINYBLOB",
    "MEDIUMBLOB", "LONGBLOB", "TRIGGER"]

/-- Types of one word that are worded in mixed case. -/
def mixedTypes : List String :=
  ["Float32", "Int16", "Int32", "Int128", "Int256", "UInt8", "UInt16", "UInt32", "UInt64",
    "UInt128", "UInt256", "Date32"]

/-- Types that a size may follow. -/
def sizedTypes : List String :=
  ["FLOAT", "CLOB", "BINARY", "VARBINARY", "BLOB", "BYTES", "DATETIME", "STRING", "TIMESTAMPTZ",
    "TIMETZ"]

/-- Integer types, which a size and a sign rule may follow. -/
def integerTypes : List String :=
  ["TINYINT", "INT2", "SMALLINT", "MEDIUMINT", "INT", "INT4", "INT8", "INTEGER", "BIGINT"]

/-- Types that a precision and a scale may follow. -/
def exactTypes : List String := ["NUMERIC", "DECIMAL", "DEC", "BIGNUMERIC", "BIGDECIMAL"]

/-- A member of an enumeration, perhaps with its number. -/
def enumMember (d : DialectName) : Parse String := do
  let name := inQuotes '\'' (← literalString d)
  if ← symbol? "=" then return name ++ " = " ++ (← signedNumber) else return name

/-- A member of a set of texts. -/
def setMember : Parse String := do
  match ← take with
  | .text .single value => return inQuotes '\'' value
  | _ => refuse

/-- The wording of a simple type that starts with the given word, if there is one. -/
def simpleType (d : DialectName) (word : String) : Parse (Option String) := do
  if plainTypes.contains word then return some word
  else if let some text := mixedTypes.find? fun t => Text.upper t = word then return some text
  else if sizedTypes.contains word then return some (word ++ (← optionalSize))
  else if integerTypes.contains word then
    let size ← optionalSize
    return some (word ++ size ++ (if ← keyword? "UNSIGNED" then " UNSIGNED" else ""))
  else if exactTypes.contains word then return some (word ++ (← optionalPrecision ","))
  else
    match word with
    | "DOUBLE" => return some (if ← keyword? "PRECISION" then "DOUBLE PRECISION" else "DOUBLE")
    | "VARCHAR" | "NVARCHAR" => return some (word ++ (← optionalLength))
    | "CHARACTER" | "CHAR" =>
      if ← keyword? "VARYING" then return some (word ++ " VARYING" ++ (← optionalLength))
      else if ← keywords? ["LARGE", "OBJECT"] then
        return some (word ++ " LARGE OBJECT" ++ (← optionalSize))
      else return some (word ++ (← optionalLength))
    | "BIT" =>
      let more ← if ← keyword? "VARYING" then pure " VARYING" else pure ""
      return some (word ++ more ++ (← optionalSize))
    | "TIMESTAMP" | "TIME" =>
      let size ← optionalSize
      return some (word ++ size ++ (← optionalZone))
    | "DATETIME64" =>
      expectSymbol "("
      let precision ← wholeNumber
      let zone ←
        if ← symbol? "," then pure (", '" ++ (← literalString d) ++ "'") else pure ""
      expectSymbol ")"
      return some ("DateTime64(" ++ precision ++ zone ++ ")")
    | "FIXEDSTRING" => return some ("FixedString(" ++ (← inParens wholeNumber) ++ ")")
    | "ENUM" | "ENUM8" | "ENUM16" =>
      return some (word ++ "(" ++ commas (← inParens (commaSeparated (enumMember d))) ++ ")")
    | "SET" => return some ("SET(" ++ commas (← inParens (commaSeparated setMember)) ++ ")")
    | _ => return none

/-! ### Types of types -/

/-- A type inside another that does not close what stands around it. -/
def closedType (inner : Parse TypeText) : Parse String := do
  let type ← inner
  if type.closesOuter then refuse else return type.text

/-- Take the bracket that closes a list of types, unless it has been taken; the result tells whether
the next one has been taken with it. -/
def closingAngle (taken : Bool) : Parse Bool := do
  if taken then return false
  else if ← symbol? ">" then return false
  else
    expectSymbol ">>"
    return true

/-- A field of a record type: a type, perhaps with a name in front. -/
def structField (inner : Parse TypeText) : Parse TypeText := do
  match ← get with
  | .word _ :: .word _ :: _ =>
    let name ← identifier
    let type ← inner
    return { type with text := name.text ++ " " ++ type.text }
  | _ => inner

/-- Further fields of a record type up to the closing bracket. -/
def structRest (inner : Parse TypeText) : Nat → Parse (List String × Bool)
  | 0 => refuse
  | n + 1 => do
    let field ← structField inner
    if ← symbol? "," then
      if field.closesOuter then refuse
      else
        let (more, closesOuter) ← structRest inner n
        return (field.text :: more, closesOuter)
    else return ([field.text], ← closingAngle field.closesOuter)

/-- The fields of a record type between angle brackets, if there are any. -/
def structFields (inner : Parse TypeText) : Parse (List String × Bool) := do
  if ← symbol? "<" then structRest inner (← remaining) else return ([], false)

/-- A name with its type. -/
def typedName (inner : Parse TypeText) : Parse String := do
  let name ← identifier
  return name.text ++ " " ++ (← closedType inner)

/-- The fields of a tuple type in parentheses. -/
def tupleFields (inner : Parse TypeText) : Parse (List String) :=
  inParens (commaSeparated do return (← structField inner).text)

/-- A built-in type made of other types that starts with the given word, if there is one. -/
def compositeType (d : DialectName) (inner : Parse TypeText) (word : String) :
    Parse (Option TypeText) := do
  let whole : String → Parse (Option TypeText) := fun text => return some ⟨text, .builtIn, false⟩
  match word, decide (d = .generic) with
  | "ARRAY", _ =>
    expectSymbol "<"
    let item ← inner
    return some ⟨"ARRAY<" ++ item.text ++ ">", .builtIn, ← closingAngle item.closesOuter⟩
  | "STRUCT", true =>
    let (fields, closesOuter) ← structFields inner
    let text := if fields.isEmpty then "STRUCT" else "STRUCT<" ++ commas fields ++ ">"
    return some ⟨text, .builtIn, closesOuter⟩
  | "UNION", true =>
    whole ("UNION(" ++ commas (← inParens (commaSeparated (typedName inner))) ++ ")")
  | "NULLABLE", true => whole ("Nullable(" ++ (← inParens (closedType inner)) ++ ")")
  | "LOWCARDINALITY", true => whole ("LowCardinality(" ++ (← inParens (closedType inner)) ++ ")")
  | "MAP", true =>
    expectSymbol "("
    let key ← closedType inner
    expectSymbol ","
    let item ← closedType inner
    expectSymbol ")"
    whole ("Map(" ++ key ++ ", " ++ item ++ ")")
  | "NESTED", true =>
    whole ("Nested(" ++ commas (← inParens (commaSeparated (typedName inner))) ++ ")")
  | "TUPLE", true => whole ("Tuple(" ++ commas (← tupleFields inner) ++ ")")
  | _, _ => return none

/-- Modifiers of a type that is not built in, up to the closing parenthesis; commas between them
may be left out or repeated. -/
def typeModifiers : Nat → Parse (List String)
  | 0 => refuse
  | n + 1 => do
    match ← take with
    | .word name => return name.spelled :: (← typeModifiers n)
    | .number digits _ => return digits :: (← typeModifiers n)
    | .text .single value => return value :: (← typeModifiers n)
    | .symbol "," => typeModifiers n
    | .symbol ")" => return []
    | _ => refuse

/-- A type that is not built in. -/
def customType : Parse String := do
  let name ← objectName
  let modifiers ← if ← symbol? "(" then typeModifiers (← remaining) else pure []
  let text := pathText name
  return if modifiers.isEmpty then text else text ++ "(" ++ commas modifiers ++ ")"

/-- Brackets behind a type, for arrays of it. -/
def arraySuffix (d : DialectName) : Parse (Option String) := do
  if ← symbol? "[" then
    let size ←
      if d = .generic || d = .postgres then pure ((← attempt wholeNumber).getD "") else pure ""
    expectSymbol "]"
    return some ("[" ++ size ++ "]")
  else return none

/-- A type, by what types inside it are read by. -/
def typeWith (d : DialectName) (inner : Parse TypeText) : Parse TypeText := do
  let start ← get
  match start with
  | .word name :: rest =>
    set rest
    let word := ((Lexeme.word name).keyword?).getD ""
    let type ←
      if word = "INTERVAL" then pure ⟨word, .interval, false⟩
      else
        match ← simpleType d word with
        | some text => pure ⟨text, .builtIn, false⟩
        | none =>
          match ← compositeType d inner word with
          | some type => pure type
          | none =>
            set start
            pure ⟨← customType, .custom, false⟩
    let suffix ← repeated (arraySuffix d) (← remaining)
    if suffix.isEmpty then return type
    else return ⟨type.text ++ String.join suffix, .builtIn, type.closesOuter⟩
  | _ => refuse

/-- A type with at most so many others inside one another. -/
def typeWithin (d : DialectName) : Nat → Parse TypeText
  | 0 => refuse
  | n + 1 => typeWith d (typeWithin d n)

/-- A type, by its wording. -/
def typeName (d : DialectName) : Parse (String × TypeKind) := do
  let type ← typeWithin d (← remaining)
  if type.closesOuter then refuse else return (type.text, type.kind)

/-! ### Parts of dates -/

/-- Parts of dates and units of durations. -/
def temporalUnits : List String :=
  ["YEAR", "YEARS", "MONTH", "MONTHS", "WEEK", "WEEKS", "DAY", "DAYS", "HOUR", "HOURS", "MINUTE",
    "MINUTES", "SECOND", "SECONDS", "CENTURY", "DECADE", "DOW", "DOY", "EPOCH", "ISODOW",
    "ISOYEAR", "JULIAN", "MICROSECOND", "MICROSECONDS", "MILLENIUM", "MILLENNIUM", "MILLISECOND",
    "MILLISECONDS", "NANOSECOND", "NANOSECONDS", "QUARTER", "TIMEZONE", "TIMEZONE_HOUR",
    "TIMEZONE_MINUTE"]

/-- Parts of dates that are no units of durations. -/
def otherDateFields : List String :=
  ["DAYOFWEEK", "DAYOFYEAR", "DATE", "DATETIME", "ISOWEEK", "TIME", "TIMEZONE_ABBR",
    "TIMEZONE_REGION"]

/-- A part of a date, by its wording; some dialects take any other word or text for one. -/
def dateField (d : DialectName) : Parse String := do
  let l ← take
  match l with
  | .word name =>
    let word := l.keyword?.getD ""
    if word = "WEEK" && d = .generic && symbolAhead "(" (← get) then
      return word ++ "(" ++ (← inParens identifier).text ++ ")"
    else if temporalUnits.contains word || otherDateFields.contains word then return word
    else if d = .generic || d = .postgres then return name.text
    else refuse
  | .text .single value =>
    if d = .generic || d = .postgres then return inQuotes '\'' value else refuse
  | _ => refuse

end Polyquery.Sql
