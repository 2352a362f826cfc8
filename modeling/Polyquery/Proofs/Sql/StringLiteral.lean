import Polyquery.Sql.Reader

/-!
# Text constants read back

Every built-in dialect writes a text constant between single quotes with its own quotes doubled.
The lexical rules of a dialect undo this, unless they give backslashes a meaning of their own.

* `ReadsAs d text value` - `text` is one constant of dialect `d`, with nothing behind it;
* `quotedText_doubling` - a doubled text up to its closing quote is the text;
* `length_le_of_quotedText` - with backslashes, what is read is never longer than what was written;
* `quoteString_reads_iff` - which constants read back.
-/

namespace Polyquery.Sql

/-! ### Quoted text -/

theorem doubling_cons_quote (q : Char) (cs : List Char) :
    Text.doubling q (q :: cs) = q :: q :: Text.doubling q cs := by
  rw [Text.doubling, List.flatMap_cons, if_pos rfl]
  rfl

theorem doubling_cons_of_ne {q c : Char} (h : c ≠ q) (cs : List Char) :
    Text.doubling q (c :: cs) = c :: Text.doubling q cs := by
  rw [Text.doubling, List.flatMap_cons, if_neg h]
  rfl

/-- A character with no meaning of its own stands for itself. -/
theorem quotedText_plain {q c : Char} {backslashes : Bool} (hq : c ≠ q)
    (hb : (backslashes && c = '\\') = false) {cs : List Char} (hcs : cs ≠ []) :
    quotedText q backslashes (c :: cs) = (quotedText q backslashes cs).map (prepend c) := by
  cases cs with
  | nil => exact absurd rfl hcs
  | cons d cs => rw [quotedText, if_neg hq, hb, if_neg (by simp)]

theorem quotedText_doubled (q : Char) (backslashes : Bool) (cs : List Char) :
    quotedText q backslashes (q :: q :: cs)
      = (quotedText q backslashes cs).map (prepend q) := by
  rw [quotedText, if_pos rfl, if_pos rfl]

theorem quotedText_escaped {q : Char} (hq : '\\' ≠ q) (c : Char) (cs : List Char) :
    quotedText q true ('\\' :: c :: cs) = (quotedText q true cs).map (prepend (unescaped c)) := by
  rw [quotedText, if_neg hq, if_pos (by decide)]

/-- A closing quote with anything but a quote behind it. -/
theorem quotedText_close {q : Char} (backslashes : Bool) {rest : List Char}
    (h : ∀ c ∈ rest.head?, c ≠ q) : quotedText q backslashes (q :: rest) = some ([], rest) := by
  cases rest with
  | nil => rw [quotedText, if_pos rfl]
  | cons c rest => rw [quotedText, if_pos rfl, if_neg (h c rfl)]

/-- A doubled text is read up to its closing quote, if no backslash in it has a meaning. -/
theorem quotedText_doubling {q : Char} {backslashes : Bool} {cs rest : List Char}
    (hb : backslashes = true → '\\' ∉ cs) (hr : ∀ c ∈ rest.head?, c ≠ q) :
    quotedText q backslashes (Text.doubling q cs ++ q :: rest) = some (cs, rest) := by
  induction cs with
  | nil => exact quotedText_close backslashes hr
  | cons c cs ih =>
    have htail := ih fun h hmem => hb h (List.mem_cons_of_mem c hmem)
    by_cases hc : c = q
    · subst hc
      rw [doubling_cons_quote, List.cons_append, List.cons_append, quotedText_doubled, htail]
      rfl
    · have hplain : (backslashes && decide (c = '\\')) = false := by
        rw [Bool.and_eq_false_iff, decide_eq_false_iff_not]
        by_cases hslash : backslashes = true
        · right
          rintro rfl
          exact hb hslash List.mem_cons_self
        · left
          simpa using hslash
      rw [doubling_cons_of_ne hc, List.cons_append, quotedText_plain hc hplain (by simp), htail]
      rfl

/-! ### Backslashes -/

theorem eq_cons_of_map_prepend {read : Option (List Char × List Char)} {c : Char}
    {value rest : List Char} (h : read.map (prepend c) = some (value, rest)) :
    ∃ tail, value = c :: tail ∧ read = some (tail, rest) := by
  obtain ⟨⟨tail, r⟩, hread, hprepend⟩ := Option.map_eq_some_iff.1 h
  obtain ⟨rfl, rfl⟩ := Prod.mk.inj hprepend
  exact ⟨tail, rfl, hread⟩

/-- A backslash in front of the closing quote leaves the text open. -/
theorem quotedText_backslash_quote {q : Char} (hq : '\\' ≠ q) :
    quotedText q true ['\\', q] = none := by
  rw [quotedText_escaped hq, quotedText, Option.map_none]

/-- Behind an odd quote a doubled text is cut short or never ends. -/
theorem length_le_of_quotedText_odd {q : Char} {cs value rest : List Char}
    (h : quotedText q true (q :: (Text.doubling q cs ++ [q])) = some (value, rest)) :
    value.length ≤ cs.length := by
  induction cs generalizing value with
  | nil =>
    have hopen : quotedText q true [q, q] = none := by
      rw [quotedText_doubled, quotedText, Option.map_none]
    have h' : quotedText q true [q, q] = some (value, rest) := h
    rw [hopen] at h'
    cases h'
  | cons c cs ih =>
    by_cases hc : c = q
    · subst hc
      rw [doubling_cons_quote, List.cons_append, List.cons_append, quotedText_doubled] at h
      obtain ⟨tail, rfl, hread⟩ := eq_cons_of_map_prepend h
      exact Nat.succ_le_succ (ih hread)
    · rw [doubling_cons_of_ne hc, List.cons_append,
        quotedText_close true (by simpa using hc)] at h
      obtain ⟨rfl, -⟩ := Prod.mk.inj (Option.some.inj h)
      exact Nat.zero_le _

/-- What is read from a doubled text is no longer than the text.  A backslash in front of a quote
takes one of two, and the other one closes the constant early. -/
theorem length_le_of_quotedText {q : Char} (hq : '\\' ≠ q) {cs value rest : List Char}
    (h : quotedText q true (Text.doubling q cs ++ [q]) = some (value, rest)) :
    value.length ≤ cs.length := by
  induction hn : cs.length using Nat.strongRecOn generalizing cs value with
  | _ n ih =>
    subst hn
    have shorter : ∀ {ds v}, ds.length < cs.length →
        quotedText q true (Text.doubling q ds ++ [q]) = some (v, rest) → v.length ≤ ds.length :=
      fun hds hread => ih _ hds hread rfl
    cases cs with
    | nil =>
      have hclose : quotedText q true [q] = some ([], []) := quotedText_close true (by simp)
      have h' : quotedText q true [q] = some (value, rest) := h
      rw [hclose] at h'
      obtain ⟨rfl, -⟩ := Prod.mk.inj (Option.some.inj h')
      exact Nat.zero_le _
    | cons c cs =>
      by_cases hc : c = q
      · subst hc
        rw [doubling_cons_quote, List.cons_append, List.cons_append, quotedText_doubled] at h
        obtain ⟨tail, rfl, hread⟩ := eq_cons_of_map_prepend h
        exact Nat.succ_le_succ (shorter (Nat.lt_succ_self _) hread)
      rw [doubling_cons_of_ne hc, List.cons_append] at h
      by_cases hslash : c = '\\'
      · subst hslash
        cases cs with
        | nil =>
          have h' : quotedText q true ['\\', q] = some (value, rest) := h
          rw [quotedText_backslash_quote hq] at h'
          cases h'
        | cons d ds =>
          by_cases hd : d = q
          · subst hd
            rw [doubling_cons_quote, List.cons_append, List.cons_append, quotedText_escaped hq] at h
            obtain ⟨tail, rfl, hread⟩ := eq_cons_of_map_prepend h
            have hodd := length_le_of_quotedText_odd hread
            simp only [List.length_cons]
            omega
          · rw [doubling_cons_of_ne hd, List.cons_append, quotedText_escaped hq] at h
            obtain ⟨tail, rfl, hread⟩ := eq_cons_of_map_prepend h
            have hmore := shorter (by simp only [List.length_cons]; omega) hread
            simp only [List.length_cons]
            omega
      · rw [quotedText_plain hc (by simpa using hslash) (by simp)] at h
        obtain ⟨tail, rfl, hread⟩ := eq_cons_of_map_prepend h
        exact Nat.succ_le_succ (shorter (Nat.lt_succ_self _) hread)

theorem unescaped_eq_backslash {c : Char} (h : unescaped c = '\\') : c = '\\' := by
  unfold unescaped at h
  split at h <;> first | exact h | exact absurd h (by decide)

/-- A text with a backslash is not read back where backslashes have a meaning.  Up to the first
backslash the two agree; behind it only a second backslash could stand for one, and then what
is read falls short of the text. -/
theorem quotedText_ne_of_backslash {q : Char} (hq : '\\' ≠ q) {cs rest : List Char}
    (h : '\\' ∈ cs) : quotedText q true (Text.doubling q cs ++ [q]) ≠ some (cs, rest) := by
  intro hread
  induction cs with
  | nil => cases h
  | cons c cs ih =>
    by_cases hslash : c = '\\'
    · subst hslash
      rw [doubling_cons_of_ne hq, List.cons_append] at hread
      cases cs with
      | nil =>
        have hread' : quotedText q true ['\\', q] = some (['\\'], rest) := hread
        rw [quotedText_backslash_quote hq] at hread'
        cases hread'
      | cons d ds =>
        by_cases hd : d = q
        · subst hd
          rw [doubling_cons_quote, List.cons_append, List.cons_append,
            quotedText_escaped hq] at hread
          obtain ⟨tail, hvalue, -⟩ := eq_cons_of_map_prepend hread
          exact hq (unescaped_eq_backslash (List.cons.inj hvalue).1.symm).symm
        · rw [doubling_cons_of_ne hd, List.cons_append, quotedText_escaped hq] at hread
          obtain ⟨tail, hvalue, hmore⟩ := eq_cons_of_map_prepend hread
          have hlength := length_le_of_quotedText hq hmore
          rw [← (List.cons.inj hvalue).2, List.length_cons] at hlength
          omega
    · have htail : '\\' ∈ cs := (List.mem_cons.1 h).resolve_left fun heq => hslash heq.symm
      by_cases hc : c = q
      · subst hc
        rw [doubling_cons_quote, List.cons_append, List.cons_append, quotedText_doubled] at hread
        obtain ⟨tail, hvalue, hmore⟩ := eq_cons_of_map_prepend hread
        obtain ⟨-, rfl⟩ := List.cons.inj hvalue
        exact ih htail hmore
      · rw [doubling_cons_of_ne hc, List.cons_append,
          quotedText_plain hc (by simpa using hslash) (by simp)] at hread
        obtain ⟨tail, hvalue, hmore⟩ := eq_cons_of_map_prepend hread
        obtain ⟨-, rfl⟩ := List.cons.inj hvalue
        exact ih htail hmore

/-! ### Constants -/

/-- A text is one constant of a dialect: it has no other lexeme, and it is read as the constant. -/
def ReadsAs (d : DialectName) (text value : String) : Prop :=
  lexemes? d text = some [.text .single value] ∧
    ∀ rs, parseExpr d rs text = .ok (.literal (.string value))

theorem quoteString_eq (d : DialectName) (s : String) :
    d.dialect.quoteString s = Text.delimited '\'' s := by
  cases d <;> rfl

/-- A single quote starts a text constant in every dialect. -/
theorem nextLexeme_quote (d : DialectName) (rest : List Char) :
    nextLexeme d '\'' rest
      = (quotedText '\'' (d = .mySql) rest).map fun read =>
          (some (.text .single (String.ofList read.1)), read.2) := by
  have hnext : nextLexeme d '\'' rest
      = (textLexeme .single '\'' (d = .mySql) rest).map fun read => (some read.1, read.2) := rfl
  rw [hnext, textLexeme, Option.map_map]
  rfl

theorem lexemes?_delimited (d : DialectName) (s : String) :
    lexemes? d (Text.delimited '\'' s)
      = (quotedText '\'' (d = .mySql) (Text.doubling '\'' s.toList ++ ['\''])).bind fun read =>
          (lexemesWithin d (Text.doubling '\'' s.toList ++ ['\'']).length read.2).map fun ls =>
            .text .single (String.ofList read.1) :: ls := by
  rw [lexemes?, Text.delimited, String.toList_ofList, List.length_cons, lexemesWithin,
    nextLexeme_quote]
  cases quotedText '\'' (d = .mySql) (Text.doubling '\'' s.toList ++ ['\'']) <;> rfl

/-- The expression of a lone text constant. -/
theorem parseExpr_of_lexemes {d : DialectName} {text value : String}
    (h : lexemes? d text = some [.text .single value]) (rs : Resolvers) :
    parseExpr d rs text = .ok (.literal (.string value)) := by
  have hread : (readings d (readers d false nestingLimit)).expression [.text .single value]
      = .ok (.constant (.text .single value), []) := rfl
  have hexpression : expression? d text = some (.constant (.text .single value)) := by
    simp only [expression?, h, hread, Option.bind_eq_bind, Option.bind_some]
  rw [parseExpr, hexpression]
  show (Tree.constant (.text .single value)).toExpr rs = _
  rw [Tree.toExpr]
  rfl

/-- The text that a dialect writes for a constant is read as that constant, except that MySQL takes
the backslashes in it for escapes: there the constants without a backslash are read back, and no
others. -/
theorem quoteString_reads_iff (d : DialectName) (s : String) :
    ReadsAs d (d.dialect.quoteString s) s ↔ (d = .mySql → '\\' ∉ s.toList) := by
  rw [quoteString_eq]
  constructor
  · rintro ⟨hlexemes, -⟩ rfl hmem
    rw [lexemes?_delimited] at hlexemes
    obtain ⟨⟨value, rest⟩, hread, hmore⟩ := Option.bind_eq_some_iff.1 hlexemes
    obtain ⟨ls, -, hls⟩ := Option.map_eq_some_iff.1 hmore
    obtain ⟨htext, -⟩ := List.cons.inj hls
    have hvalue : value = s.toList := by
      rw [← (Lexeme.text.inj htext).2, String.toList_ofList]
    rw [hvalue] at hread
    exact quotedText_ne_of_backslash (by decide) hmem hread
  · intro h
    have hread : quotedText '\'' (d = .mySql) (Text.doubling '\'' s.toList ++ ['\''])
        = some (s.toList, []) := quotedText_doubling (by simpa using h) (by simp)
    have hlexemes : lexemes? d (Text.delimited '\'' s) = some [.text .single s] := by
      rw [lexemes?_delimited, hread, Option.bind_some, lexemesWithin, String.ofList_toList,
        Option.map_some]
    exact ⟨hlexemes, parseExpr_of_lexemes hlexemes⟩

/-- A constant with a backslash and a quote ends early in MySQL, and what follows is read as SQL. -/
theorem quoteString_breaks_out :
    let written := DialectName.mySql.dialect.quoteString "\\' OR 1=1 -- "
    written = "'\\'' OR 1=1 -- '" ∧
      lexemes? .mySql written
        = some [.text .single "'", .word ⟨"OR", none⟩, .number "1" false, .symbol "=",
            .number "1" false] ∧
      ¬ ReadsAs .mySql written "\\' OR 1=1 -- " := by
  refine ⟨by decide, by decide, ?_⟩
  rintro ⟨hlexemes, -⟩
  exact absurd hlexemes (by decide)

end Polyquery.Sql
