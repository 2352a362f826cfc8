import Polyquery.Proofs.Sql.PageReading
import Polyquery.Proofs.Unresolved
import Polyquery.Sql.Statement

/-!
# Paging clauses read back

Every dialect writes the bound and the offset of a query only where they are positive.  Two of them
write a bound in front of a lone offset, too: SQLite the number `-1`, MySQL the largest number of 64
bits without a sign.  The reader takes plain numbers of 64 bits with a sign, and so neither of the
two.

* `tablePage`, `tablePage_format` - a page of a table, and its text in every dialect;
* `boundTree?`, `offsetTree?`, `pagingClause_spelled` - a paging clause is written in one of the
  forms that are read;
* `lexemes?_tablePage` - the lexemes of the whole text;
* `pageQuery_numbers`, `pageQuery_filled` - what the numbers of a clause are read as;
* `parse_tablePage` - what the same dialect reads the text as.
-/

namespace Polyquery.Sql

/-- A page of everything in a table. -/
def tablePage (rs : Resolvers) (path : String) (limit offset : Int64) : Query :=
  ((wholeTable rs path).take limit).skip offset

/-- The tokens of a page of everything in a table. -/
def pageTokens (d : Dialect) (path : String) (limit offset : Int64) : List Token :=
  [.keyword .select, .space, .symbol "*", .space, .keyword .from, .space] ++
    (pathTokens path ++ d.pagingClause limit offset)

theorem tablePage_format (d : Dialect) (rs : Resolvers) (path : String) (limit offset : Int64) :
    d.format (tablePage rs path limit offset) = .ok (d.text (pageTokens d path limit offset)) := by
  have hselect : d.selectTokens (tablePage rs path limit offset)
      = .ok ([.keyword .select, .space] ++ [] ++ [.symbol "*"] ++
          clause .from (pathTokens path ++ []) ++ [] ++ [] ++ [] ++ []) := rfl
  have htokens : d.statementTokens (tablePage rs path limit offset)
      = .ok (pageTokens d path limit offset) := by
    show (d.selectTokens (tablePage rs path limit offset)).map
      (fun ts => ts ++ d.pagingClause limit offset) = _
    rw [hselect]
    simp only [Except.map, pageTokens, clause, Token.spaced, List.append_nil, List.cons_append,
      List.nil_append]
  rw [Dialect.format, htokens]
  rfl

/-! ### The clause as it is written -/

/-- The digits of a positive number. -/
def digitsOf (n : Int64) : String := Integer.natText n.toInt.natAbs

/-- The tree of the bound that a dialect writes where there is none. -/
def filledTree? : DialectName → Option Tree
  | .generic | .postgres => none
  | .sqlite => some (.unary .minus (numberTree "1"))
  | .mySql => some (numberTree "18446744073709551615")

/-- The tree of the bound in a paging clause, if it has one. -/
def boundTree? (d : DialectName) (limit offset : Int64) : Option Tree :=
  if 0 < limit then some (numberTree (digitsOf limit))
  else if 0 < offset then filledTree? d
  else none

/-- The tree of the offset in a paging clause, if it has one. -/
def offsetTree? (offset : Int64) : Option Tree :=
  if 0 < offset then some (numberTree (digitsOf offset)) else none

theorem not_negative {n : Int64} (h : 0 < n) : ¬ n.toInt < 0 := by
  have hpositive := Int64.lt_iff_toInt_lt.1 h
  rw [Int64.toInt_zero] at hpositive
  omega

namespace SpelledIn

variable {d : DialectName} {ts : List Token} {ls : List Lexeme}

/-- A reserved word with something behind it. -/
theorem keyword_space {k : Keyword} (hk : isBareName k.text = true) (h : SpelledIn d ts ls) :
    SpelledIn d (.keyword k :: .space :: ts) (wordLexeme k.text :: ls) :=
  append (@word d (.keyword k) k.text rfl hk) (space h) (boundary_space d ts)

/-- A number without a sign. -/
theorem digits {t : Token} {n : Nat}
    (h : (d.dialect.tokenText t).toList = Nat.toDigits 10 n) :
    SpelledIn d [t] [.number (Integer.natText n) false] := by
  have hwrites := BinaryFloat.Writes.plain Nat.toDigits_ne_nil (BinaryFloat.allDigits_toDigits n)
    .absent
  rw [List.append_nil] at hwrites
  exact numeral hwrites h

theorem positive {n : Int64} (h : 0 < n) :
    SpelledIn d [.int n] [.number (digitsOf n) false] := by
  refine digits ?_
  show (Integer.text64 n).toList = _
  rw [Integer.text64, Integer.text, String.toList_ofList, Integer.chars, if_neg (not_negative h)]

/-- The bound of a lone offset in SQLite is two lexemes. -/
theorem minusOne : SpelledIn .sqlite [.raw "-1"] [.symbol "-", .number "1" false] := by
  have hone : SpelledIn .sqlite [.raw "1"] [.number "1" false] := @digits .sqlite (.raw "1") 1 rfl
  have hspelling : spellingIn .sqlite [.raw "-1"] = '-' :: spellingIn .sqlite [.raw "1"] := rfl
  rw [SpelledIn, hspelling]
  exact Lexes.single (fun _ => rfl) hone

/-- The bound of a lone offset in MySQL is a number that no signed one of 64 bits reaches. -/
theorem unsignedLast : SpelledIn .mySql [.raw "18446744073709551615"]
    [.number "18446744073709551615" false] :=
  @digits .mySql (.raw "18446744073709551615") 18446744073709551615 (by decide)

end SpelledIn

section Clause

variable {limit offset : Int64}

/-- Where a bound is there or no offset is, every dialect writes what is positive. -/
theorem pagingTokens_plain (d : Dialect) (h : 0 < limit ∨ ¬ 0 < offset) :
    d.pagingTokens limit offset = boundTokens limit offset := by
  unfold Dialect.pagingTokens
  split
  · rfl
  · rw [if_pos h]

theorem pagingClause_both (d : Dialect) (hl : 0 < limit) (ho : 0 < offset) :
    d.pagingClause limit offset = .space :: ([.keyword .limit, .space, .int limit] ++
      .space :: [.keyword .offset, .space, .int offset]) := by
  rw [Dialect.pagingClause, pagingTokens_plain d (.inl hl), boundTokens, if_pos hl, if_pos ho]
  rfl

theorem pagingClause_limit (d : Dialect) (hl : 0 < limit) (ho : ¬ 0 < offset) :
    d.pagingClause limit offset = [.space, .keyword .limit, .space, .int limit] := by
  rw [Dialect.pagingClause, pagingTokens_plain d (.inl hl), boundTokens, if_pos hl, if_neg ho]
  rfl

theorem pagingClause_none (d : Dialect) (hl : ¬ 0 < limit) (ho : ¬ 0 < offset) :
    d.pagingClause limit offset = [] := by
  rw [Dialect.pagingClause, pagingTokens_plain d (.inr ho), boundTokens, if_neg hl, if_neg ho]
  rfl

/-- A lone offset stands alone where the dialect needs no bound in front of it. -/
theorem pagingClause_offset {d : Dialect} (hd : d.unboundedLimit = none) (hl : ¬ 0 < limit)
    (ho : 0 < offset) :
    d.pagingClause limit offset = [.space, .keyword .offset, .space, .int offset] := by
  rw [Dialect.pagingClause, Dialect.pagingTokens, hd]
  simp only []
  rw [boundTokens, if_neg hl, if_pos ho]
  rfl

theorem pagingClause_filled {d : Dialect} {unbounded : String}
    (hd : d.unboundedLimit = some unbounded) (hl : ¬ 0 < limit) (ho : 0 < offset) :
    d.pagingClause limit offset = .space :: ([.keyword .limit, .space, .raw unbounded] ++
      .space :: [.keyword .offset, .space, .int offset]) := by
  have hplain : ¬ (0 < limit ∨ ¬ 0 < offset) := by
    rintro (h | h)
    · exact hl h
    · exact h ho
  rw [Dialect.pagingClause, Dialect.pagingTokens, hd]
  simp only []
  rw [if_neg hplain]
  rfl

/-- A paging clause is written in one of the forms that are read. -/
theorem pagingClause_spelled (d : DialectName) (limit offset : Int64) :
    ∃ paging, PagingForm paging (boundTree? d limit offset) (offsetTree? offset) ∧
      SpelledIn d (d.dialect.pagingClause limit offset) paging ∧
      Boundary (spellingIn d (d.dialect.pagingClause limit offset)) := by
  have hboundary : ∀ ts, Boundary (spellingIn d (.space :: ts)) := SpelledIn.boundary_space d
  by_cases hlimit : 0 < limit
  · have hbound : SpelledIn d [.keyword .limit, .space, .int limit]
        [wordLexeme "LIMIT", .number (digitsOf limit) false] :=
      .keyword_space (by decide) (.positive hlimit)
    rw [boundTree?, if_pos hlimit]
    by_cases hoffset : 0 < offset
    · have hlast : SpelledIn d [.keyword .offset, .space, .int offset]
          [wordLexeme "OFFSET", .number (digitsOf offset) false] :=
        .keyword_space (by decide) (.positive hoffset)
      rw [offsetTree?, if_pos hoffset, pagingClause_both _ hlimit hoffset]
      exact ⟨_, .both _ _, (hbound.append hlast.space (hboundary _)).space, hboundary _⟩
    · rw [offsetTree?, if_neg hoffset, pagingClause_limit _ hlimit hoffset]
      exact ⟨_, .limit _, hbound.space, hboundary _⟩
  · rw [boundTree?, if_neg hlimit]
    by_cases hoffset : 0 < offset
    · have hlast : SpelledIn d [.keyword .offset, .space, .int offset]
          [wordLexeme "OFFSET", .number (digitsOf offset) false] :=
        .keyword_space (by decide) (.positive hoffset)
      rw [offsetTree?, if_pos hoffset, if_pos hoffset]
      cases d with
      | generic | postgres =>
        rw [pagingClause_offset rfl hlimit hoffset]
        exact ⟨_, .offset _, hlast.space, hboundary _⟩
      | sqlite =>
        have hbound : SpelledIn .sqlite [.keyword .limit, .space, .raw "-1"]
            [wordLexeme "LIMIT", .symbol "-", .number "1" false] :=
          .keyword_space (by decide) .minusOne
        rw [pagingClause_filled rfl hlimit hoffset]
        exact ⟨_, .negative _ _, (hbound.append hlast.space (hboundary _)).space, hboundary _⟩
      | mySql =>
        have hbound : SpelledIn .mySql [.keyword .limit, .space, .raw "18446744073709551615"]
            [wordLexeme "LIMIT", .number "18446744073709551615" false] :=
          .keyword_space (by decide) .unsignedLast
        rw [pagingClause_filled rfl hlimit hoffset]
        exact ⟨_, .both _ _, (hbound.append hlast.space (hboundary _)).space, hboundary _⟩
    · rw [offsetTree?, if_neg hoffset, if_neg hoffset, pagingClause_none _ hlimit hoffset]
      exact ⟨_, .none, .nil, boundary_nil⟩

end Clause

/-! ### The whole text -/

namespace SpelledIn

theorem star (d : DialectName) : SpelledIn d [.symbol "*"] [.symbol "*"] := by
  have hchars : (d.dialect.tokenText (.symbol "*")).toList = ['*'] := by
    show "*".toList = _
    rfl
  refine of_piece hchars fun rest _ => ?_
  cases d <;> rfl

end SpelledIn

/-- A page is written as a selection of everything, with one of the paging forms behind it. -/
theorem lexemes?_tablePage (d : DialectName) {path name : String} {names : List String}
    (hpath : Text.segments path = name :: names) (limit offset : Int64) :
    ∃ paging, PagingForm paging (boundTree? d limit offset) (offsetTree? offset) ∧
      lexemes? d (d.dialect.text (pageTokens d.dialect path limit offset))
        = some (pageLexemes (identIn d name) (names.map (identIn d)) paging) := by
  obtain ⟨paging, hform, hclause, hboundary⟩ := pagingClause_spelled d limit offset
  have hsource : SpelledIn d (pathTokens path ++ d.dialect.pagingClause limit offset)
      (.word (identIn d name) :: (pointed (names.map (identIn d)) ++ paging)) := by
    rw [pathTokens, hpath]
    exact (SpelledIn.path d name names).append hclause hboundary
  have hfrom : SpelledIn d (.keyword .from :: .space ::
      (pathTokens path ++ d.dialect.pagingClause limit offset)) _ :=
    .keyword_space (by decide) hsource
  have hstar : SpelledIn d ([.symbol "*"] ++ .space :: .keyword .from :: .space ::
      (pathTokens path ++ d.dialect.pagingClause limit offset)) _ :=
    (SpelledIn.star d).append hfrom.space (SpelledIn.boundary_space d _)
  exact ⟨paging, hform, lexemes?_textIn (.keyword_space (by decide) hstar)⟩

/-! ### The clause as it is read -/

/-- A number, if it is positive. -/
def positive? (n : Int64) : Option Int64 := if 0 < n then some n else none

/-- Setting a number that is positive, where none stands for zero. -/
theorem positive?_getD {α : Type} {f : Int64 → α} {a : α} (h : f 0 = a) (n : Int64) :
    ((positive? n).map f).getD a = f (max n 0) := by
  unfold positive?
  split
  · rename_i hn
    have hmax : max n 0 = n := if_neg (Int64.not_le.2 hn)
    rw [hmax]
    rfl
  · rename_i hn
    have hmax : max n 0 = 0 := if_pos (Int64.not_lt.1 hn)
    rw [hmax]
    exact h.symm

theorem pagingValue_digitsOf {n : Int64} (h : 0 < n) (clause : String) :
    pagingValue clause (numberTree (digitsOf n)) = .ok n := by
  have hread := Integer.parse64?_chars n
  rw [Integer.chars, if_neg (not_negative h)] at hread
  rw [numberTree, pagingValue, digitsOf, Integer.natText, String.toList_ofList, hread]

theorem offsetTree?_value (offset : Int64) :
    (offsetTree? offset).mapM (pagingValue "OFFSET") = .ok (positive? offset) := by
  unfold offsetTree? positive?
  split
  · rename_i h
    show (pagingValue "OFFSET" (numberTree (digitsOf offset)) >>= fun n => pure (some n)) = _
    rw [pagingValue_digitsOf h]
    rfl
  · rfl

/-- Whether a dialect writes a bound where a query has none. -/
def fillsBound (d : DialectName) (limit offset : Int64) : Bool :=
  d.dialect.unboundedLimit.isSome && decide (limit ≤ 0) && decide (0 < offset)

/-- The failure of reading such a bound. -/
def filledBoundError : DialectName → QueryError
  | .sqlite => .unsupported "LIMIT -1"
  | _ => .invalidExpression "LIMIT must be an integer, found 18446744073709551615"

theorem boundTree?_value {d : DialectName} {limit offset : Int64}
    (h : fillsBound d limit offset = false) :
    (boundTree? d limit offset).mapM (pagingValue "LIMIT") = .ok (positive? limit) := by
  unfold boundTree? positive?
  by_cases hlimit : 0 < limit
  · rw [if_pos hlimit, if_pos hlimit]
    show (pagingValue "LIMIT" (numberTree (digitsOf limit)) >>= fun n => pure (some n)) = _
    rw [pagingValue_digitsOf hlimit]
    rfl
  · rw [if_neg hlimit, if_neg hlimit]
    by_cases hoffset : 0 < offset
    · have hd : d.dialect.unboundedLimit.isSome = false := by
        simpa [fillsBound, Int64.not_lt.1 hlimit, hoffset] using h
      rw [if_pos hoffset]
      cases d with
      | generic | postgres => rfl
      | sqlite | mySql => cases hd
    · rw [if_neg hoffset]
      rfl

/-- A bound that a dialect writes where a query has none is no number that the reader takes. -/
theorem boundTree?_filled {d : DialectName} {limit offset : Int64}
    (h : fillsBound d limit offset = true) :
    (boundTree? d limit offset).mapM (pagingValue "LIMIT") = .error (filledBoundError d) := by
  simp only [fillsBound, Bool.and_eq_true, decide_eq_true_eq] at h
  obtain ⟨⟨hd, hlimit⟩, hoffset⟩ := h
  rw [boundTree?, if_neg (Int64.not_lt.2 hlimit), if_pos hoffset]
  cases d with
  | generic | postgres => cases hd
  | sqlite => rfl
  | mySql => rfl

/-- The query of a clause whose bound is the query's own. -/
theorem pageQuery_numbers (rs : Resolvers) (path : String) {d : DialectName} {limit offset : Int64}
    (h : fillsBound d limit offset = false) :
    pageQuery rs path (boundTree? d limit offset) (offsetTree? offset)
      = .ok (tablePage rs path (max limit 0) (max offset 0)) := by
  have hlimit : ((positive? limit).map (wholeTable rs path).take).getD (wholeTable rs path)
      = (wholeTable rs path).take (max limit 0) := positive?_getD rfl limit
  have hoffset : ∀ q : Query, q.skip 0 = q →
      ((positive? offset).map q.skip).getD q = q.skip (max offset 0) :=
    fun q hq => positive?_getD hq offset
  rw [pageQuery, boundTree?_value h, offsetTree?_value]
  show Except.ok _ = _
  rw [hlimit, hoffset _ rfl]
  rfl

theorem pageQuery_filled (rs : Resolvers) (path : String) {d : DialectName} {limit offset : Int64}
    (h : fillsBound d limit offset = true) :
    pageQuery rs path (boundTree? d limit offset) (offsetTree? offset)
      = .error (filledBoundError d) := by
  rw [pageQuery, boundTree?_filled h]
  rfl

/-! ### Reading what was written -/

/-- Whether a dialect writes the name of a table as a word that announces another source. -/
def announcesSource (d : DialectName) (path : String) : Bool :=
  (Text.segments path).head?.any fun name => (Lexeme.word (identIn d name)).isOneOf sourceWords

/-- Names in quotes announce nothing. -/
theorem generic_of_announcesSource {d : DialectName} {path : String}
    (h : announcesSource d path = true) : d = .generic := by
  unfold announcesSource at h
  cases d with
  | generic => rfl
  | _ => cases hpath : (Text.segments path).head? <;> rw [hpath] at h <;> cases h

/-- A dialect reads its own page of a table with the bound and the offset that count, unless it
writes a bound where the query has none, or a bare name that announces another source. -/
theorem parse_tablePage (d : DialectName) (rs written : Resolvers) (path : String)
    (limit offset : Int64) :
    ∃ text, d.dialect.format (tablePage written path limit offset) = .ok text ∧
      parse d rs text =
        if announcesSource d path then .error .sqlSyntax
        else if fillsBound d limit offset then .error (filledBoundError d)
        else .ok (tablePage rs path (max limit 0) (max offset 0)) := by
  refine ⟨_, tablePage_format d.dialect written path limit offset, ?_⟩
  obtain ⟨name, names, hpath⟩ := List.exists_cons_of_ne_nil (Text.segments_ne_nil path)
  obtain ⟨paging, hform, htext⟩ := lexemes?_tablePage d hpath limit offset
  have hannounces : announcesSource d path
      = (Lexeme.word (identIn d name)).isOneOf sourceWords := by
    rw [announcesSource, hpath]
    rfl
  by_cases hsource : announcesSource d path = true
  · obtain rfl := generic_of_announcesSource hsource
    rw [if_pos hsource, parse_sourceWord rs hform htext (hannounces.symm.trans hsource)]
  · have hname : (Lexeme.word (identIn d name)).isOneOf sourceWords = false := by
      rw [← hannounces]
      exact Bool.eq_false_iff.2 hsource
    have hplain : plainName (identIn d name :: names.map (identIn d)) = path := by
      rw [plainName, ← List.map_cons, value_identIn, ← hpath, Text.intercalate_segments]
    rw [if_neg hsource, parse_page rs hform htext hname, hplain]
    by_cases hfills : fillsBound d limit offset = true
    · rw [if_pos hfills, pageQuery_filled rs path hfills]
    · rw [if_neg hfills, pageQuery_numbers rs path (Bool.eq_false_iff.2 hfills)]

/-- A lone offset in SQLite and in MySQL. -/
theorem filled_bound_refused :
    Dialect.sqlite.format (tablePage .empty "Product" 0 5)
      = .ok "SELECT * FROM \x60Product\x60 LIMIT -1 OFFSET 5" ∧
    parse .sqlite .empty "SELECT * FROM \x60Product\x60 LIMIT -1 OFFSET 5"
      = .error (.unsupported "LIMIT -1") ∧
    Dialect.mySql.format (tablePage .empty "Product" 0 5)
      = .ok "SELECT * FROM \x60Product\x60 LIMIT 18446744073709551615 OFFSET 5" ∧
    parse .mySql .empty "SELECT * FROM \x60Product\x60 LIMIT 18446744073709551615 OFFSET 5"
      = .error (.invalidExpression "LIMIT must be an integer, found 18446744073709551615") := by
  refine ⟨?_, ?_, ?_, ?_⟩
  · rw [tablePage_format]
    exact congrArg Except.ok (by decide)
  · have htext : lexemes? .sqlite "SELECT * FROM \x60Product\x60 LIMIT -1 OFFSET 5"
        = some (pageLexemes ⟨"Product", some '\x60'⟩ []
            [wordLexeme "LIMIT", .symbol "-", .number "1" false, wordLexeme "OFFSET",
              .number "5" false]) := by decide
    rw [parse_page .empty (.negative "1" "5") htext (by decide)]
    rfl
  · rw [tablePage_format]
    exact congrArg Except.ok (by decide)
  · have htext : lexemes? .mySql
        "SELECT * FROM \x60Product\x60 LIMIT 18446744073709551615 OFFSET 5"
        = some (pageLexemes ⟨"Product", some '\x60'⟩ []
            [wordLexeme "LIMIT", .number "18446744073709551615" false, wordLexeme "OFFSET",
              .number "5" false]) := by decide
    rw [parse_page .empty (.both "18446744073709551615" "5") htext (by decide)]
    rfl

end Polyquery.Sql
