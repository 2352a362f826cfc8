import Polyquery.Proofs.RegexSearch
import Polyquery.Sql.Like

/-!
# What a pattern of `LIKE` matches

* `LikeMatches` - a text matches a pattern, by the characters of the pattern;
* `EndsUnpaired` - the last character of a pattern is an escape character for nothing;
* `likePieces_cons`, `likePieces_escaped` - the parts of a pattern, one by one;
* `PiecesMatch` - a text matches the parts of a pattern;
* `matches_body` - inside the anchors, parts match what their regular expression matches;
* `likeRegex_finds_iff` - the regular expression of a pattern finds what the pattern matches.
-/

namespace Polyquery.Sql

/-! ### Patterns -/

/-- A text matches a pattern.  The escape character comes before the wildcards: it is one if it is a
percent sign or an underscore itself. -/
inductive LikeMatches (escape : Option Char) : (pattern text : List Char) → Prop where
  | nil : LikeMatches escape [] []
  | escaped {e c : Char} {pattern text : List Char} :
      some e = escape → LikeMatches escape pattern text →
      LikeMatches escape (e :: c :: pattern) (c :: text)
  | anyText {run pattern text : List Char} :
      some '%' ≠ escape → LikeMatches escape pattern text →
      LikeMatches escape ('%' :: pattern) (run ++ text)
  | anyCharacter {c : Char} {pattern text : List Char} :
      some '_' ≠ escape → LikeMatches escape pattern text →
      LikeMatches escape ('_' :: pattern) (c :: text)
  | character {c : Char} {pattern text : List Char} :
      some c ≠ escape → c ≠ '%' → c ≠ '_' → LikeMatches escape pattern text →
      LikeMatches escape (c :: pattern) (c :: text)

/-- Every escape character of a pattern is in front of a character that it makes literal. -/
inductive Paired (escape : Option Char) : (pattern : List Char) → Prop where
  | nil : Paired escape []
  | escaped {e c : Char} {pattern : List Char} :
      some e = escape → Paired escape pattern → Paired escape (e :: c :: pattern)
  | plain {c : Char} {pattern : List Char} :
      some c ≠ escape → Paired escape pattern → Paired escape (c :: pattern)

/-- A pattern ends in an escape character that is no part of a pair. -/
def EndsUnpaired (escape : Option Char) (pattern : List Char) : Prop :=
  ∃ front e, pattern = front ++ [e] ∧ some e = escape ∧ Paired escape front

/-! ### Parts of a pattern -/

/-- What a character stands for where nothing escapes it. -/
def wildcard (c : Char) : LikePiece :=
  if c = '%' then .anyText else if c = '_' then .anyCharacter else .character c

theorem wildcard_of_plain {c : Char} (hany : c ≠ '%') (hone : c ≠ '_') :
    wildcard c = .character c := by
  rw [wildcard, if_neg hany, if_neg hone]

theorem likePieces_cons {escape : Option Char} {c : Char} (h : some c ≠ escape) (cs : List Char) :
    likePieces escape (c :: cs) = (likePieces escape cs).map (wildcard c :: ·) := by
  cases cs with
  | nil =>
    rw [likePieces.eq_2, if_neg h, likePieces, wildcard]
    split
    · rfl
    · split <;> rfl
  | cons d cs => rw [likePieces, if_neg h, wildcard]

theorem likePieces_escaped (e c : Char) (cs : List Char) :
    likePieces (some e) (e :: c :: cs) = (likePieces (some e) cs).map (.character c :: ·) := by
  rw [likePieces, if_pos rfl]

/-- An escape character with nothing behind it is no pattern. -/
theorem likePieces_unpaired (e : Char) : likePieces (some e) [e] = none := by
  rw [likePieces, if_pos rfl]

/-- Patterns are read in three steps: the escape character alone, the escape character with the next
one, and any other character. -/
theorem pattern_induction (escape : Option Char) {P : List Char → Prop} (nil : P [])
    (unpaired : ∀ e, some e = escape → P [e])
    (escaped : ∀ e c cs, some e = escape → P cs → P (e :: c :: cs))
    (plain : ∀ c cs, some c ≠ escape → P cs → P (c :: cs)) (pattern : List Char) : P pattern := by
  induction hlength : pattern.length using Nat.strongRecOn generalizing pattern with
  | ind n ih =>
  cases pattern with
  | nil => exact nil
  | cons c cs =>
    by_cases hc : some c = escape
    · cases cs with
      | nil => exact unpaired c hc
      | cons d cs =>
        refine escaped c d cs hc (ih cs.length ?_ cs rfl)
        simp only [List.length_cons] at hlength
        omega
    · refine plain c cs hc (ih cs.length ?_ cs rfl)
      simp only [List.length_cons] at hlength
      omega

/-- The patterns that have no parts are those that end in an unpaired escape character. -/
theorem likePieces_eq_none_iff {escape : Option Char} {pattern : List Char} :
    likePieces escape pattern = none ↔ EndsUnpaired escape pattern := by
  induction pattern using pattern_induction escape with
  | nil =>
    constructor
    · intro h
      cases h
    · rintro ⟨front, e, h, -⟩
      simp at h
  | unpaired e he =>
    subst he
    exact ⟨fun _ => ⟨[], e, rfl, rfl, .nil⟩, fun _ => likePieces_unpaired e⟩
  | escaped e c cs he ih =>
    subst he
    rw [likePieces_escaped, Option.map_eq_none_iff, ih]
    constructor
    · rintro ⟨front, last, rfl, hlast, hfront⟩
      exact ⟨e :: c :: front, last, rfl, hlast, .escaped rfl hfront⟩
    · rintro ⟨front, last, heq, hlast, hfront⟩
      cases hfront with
      | nil => simp at heq
      | @escaped e' c' front he' hfront =>
        simp only [List.cons_append, List.cons.injEq] at heq
        exact ⟨front, last, heq.2.2, hlast, hfront⟩
      | plain hc hfront =>
        simp only [List.cons_append, List.cons.injEq] at heq
        rw [heq.1] at hc
        exact absurd rfl hc
  | plain c cs hc ih =>
    rw [likePieces_cons hc, Option.map_eq_none_iff, ih]
    constructor
    · rintro ⟨front, last, rfl, hlast, hfront⟩
      exact ⟨c :: front, last, rfl, hlast, .plain hc hfront⟩
    · rintro ⟨front, last, heq, hlast, hfront⟩
      cases hfront with
      | nil =>
        simp only [List.nil_append, List.cons.injEq] at heq
        exact absurd (heq.1 ▸ hlast) hc
      | escaped he hfront =>
        simp only [List.cons_append, List.cons.injEq] at heq
        exact absurd (heq.1 ▸ he) hc
      | @plain c' front hc' hfront =>
        simp only [List.cons_append, List.cons.injEq] at heq
        exact ⟨front, last, heq.2, hlast, hfront⟩

/-! ### Texts that parts match -/

/-- The runs of characters that a part stands for. -/
def LikePiece.Takes : LikePiece → (run : List Char) → Prop
  | .character c, run => run = [c]
  | .anyText, _ => True
  | .anyCharacter, run => ∃ c, run = [c]

/-- A text matches parts if it splits into runs that they stand for one by one. -/
def PiecesMatch : List LikePiece → (text : List Char) → Prop
  | [], text => text = []
  | piece :: pieces, text => ∃ run rest, text = run ++ rest ∧ piece.Takes run ∧
      PiecesMatch pieces rest

theorem piecesMatch_cons {piece : LikePiece} {pieces : List LikePiece} {text : List Char} :
    PiecesMatch (piece :: pieces) text ↔
      ∃ run rest, text = run ++ rest ∧ piece.Takes run ∧ PiecesMatch pieces rest :=
  Iff.rfl

/-- A part for any text in front lets any text stand in front. -/
theorem piecesMatch_anyText {pieces : List LikePiece} {text : List Char} :
    PiecesMatch (.anyText :: pieces) text ↔ ∃ run rest, text = run ++ rest ∧
      PiecesMatch pieces rest := by
  rw [piecesMatch_cons]
  simp only [LikePiece.Takes, true_and]

/-- A part for any text at the end lets any text stand at the end. -/
theorem piecesMatch_concat_anyText {pieces : List LikePiece} {text : List Char} :
    PiecesMatch (pieces ++ [.anyText]) text ↔ ∃ front behind, text = front ++ behind ∧
      PiecesMatch pieces front := by
  induction pieces generalizing text with
  | nil =>
    rw [List.nil_append, piecesMatch_anyText]
    constructor
    · rintro ⟨run, rest, htext, hrest⟩
      exact ⟨[], text, rfl, rfl⟩
    · intro _
      exact ⟨text, [], (List.append_nil text).symm, rfl⟩
  | cons piece pieces ih =>
    rw [List.cons_append, piecesMatch_cons]
    constructor
    · rintro ⟨run, rest, rfl, htakes, hrest⟩
      obtain ⟨front, behind, rfl, hfront⟩ := ih.1 hrest
      exact ⟨run ++ front, behind, (List.append_assoc run front behind).symm, run, front, rfl,
        htakes, hfront⟩
    · rintro ⟨front, behind, rfl, run, rest, rfl, htakes, hrest⟩
      exact ⟨run, rest ++ behind, List.append_assoc run rest behind, htakes,
        ih.2 ⟨rest, behind, rfl, hrest⟩⟩

/-- A text matches a pattern if it matches the parts of the pattern. -/
theorem likeMatches_iff {escape : Option Char} {pattern : List Char} {pieces : List LikePiece}
    (h : likePieces escape pattern = some pieces) {text : List Char} :
    LikeMatches escape pattern text ↔ PiecesMatch pieces text := by
  induction pattern using pattern_induction escape generalizing pieces text with
  | nil =>
    cases h
    constructor
    · intro hmatches
      cases hmatches
      rfl
    · rintro rfl
      exact .nil
  | unpaired e he =>
    subst he
    rw [likePieces_unpaired] at h
    cases h
  | escaped e c cs he ih =>
    subst he
    rw [likePieces_escaped] at h
    obtain ⟨rest, hrest, rfl⟩ := Option.map_eq_some_iff.1 h
    rw [piecesMatch_cons]
    constructor
    · intro hmatches
      cases hmatches with
      | @escaped _ _ _ text _ hmatches => exact ⟨[c], text, rfl, rfl, (ih hrest).1 hmatches⟩
      | anyText hne => exact absurd rfl hne
      | anyCharacter hne => exact absurd rfl hne
      | character hne => exact absurd rfl hne
    · rintro ⟨run, text, rfl, rfl, hmatches⟩
      exact .escaped rfl ((ih hrest).2 hmatches)
  | plain c cs hc ih =>
    rw [likePieces_cons hc] at h
    obtain ⟨rest, hrest, rfl⟩ := Option.map_eq_some_iff.1 h
    rw [piecesMatch_cons]
    constructor
    · intro hmatches
      cases hmatches with
      | escaped he => exact absurd he hc
      | @anyText run _ text _ hmatches => exact ⟨run, text, rfl, trivial, (ih hrest).1 hmatches⟩
      | @anyCharacter d _ text _ hmatches =>
        exact ⟨[d], text, rfl, ⟨d, rfl⟩, (ih hrest).1 hmatches⟩
      | @character _ _ text _ hany hone hmatches =>
        rw [wildcard_of_plain hany hone]
        exact ⟨[c], text, rfl, rfl, (ih hrest).1 hmatches⟩
    · rintro ⟨run, text, rfl, htakes, hmatches⟩
      have hrun := (ih hrest).2 hmatches
      by_cases hany : c = '%'
      · subst hany
        exact .anyText hc hrun
      · by_cases hone : c = '_'
        · subst hone
          obtain ⟨d, rfl⟩ := htakes
          exact .anyCharacter hc hrun
        · rw [wildcard_of_plain hany hone] at htakes
          obtain rfl : run = [c] := htakes
          exact .character hc hany hone hrun

/-! ### Their regular expression -/

/-- The part of the regular expression that a part of a pattern becomes. -/
def LikePiece.part : LikePiece → Regex.Part
  | .character c => .character c
  | .anyText => .anyText
  | .anyCharacter => .anyCharacter

/-- The wildcard for any text, where a pattern has one. -/
def wild (here : Bool) : List LikePiece := if here then [.anyText] else []

/-- The anchor of an end, where no wildcard for any text stands. -/
def anchor {α : Type} (here : Bool) (mark : α) : List α := if here then [] else [mark]

/-- Wildcards for any text at the ends of a pattern leave its expression without an anchor there. -/
theorem piecesRegex_eq (pieces : List LikePiece) : ∃ leading body trailing,
    pieces = wild leading ++ body ++ wild trailing ∧
      piecesRegex pieces = anchor leading '^' ++ body.flatMap LikePiece.regex
        ++ anchor trailing '$' := by
  have hstop : ∀ rest : List LikePiece, ∃ body trailing, rest = body ++ wild trailing ∧
      (if rest.getLast? = some .anyText then (rest.dropLast, []) else (rest, ['$']))
        = (body, anchor trailing '$') := by
    intro rest
    by_cases hlast : rest.getLast? = some .anyText
    · obtain ⟨body, rfl⟩ := List.getLast?_eq_some_iff.1 hlast
      refine ⟨body, true, rfl, ?_⟩
      rw [if_pos hlast, List.dropLast_concat]
      rfl
    · refine ⟨rest, false, (List.append_nil rest).symm, ?_⟩
      rw [if_neg hlast]
      rfl
  by_cases hlead : ∃ rest, pieces = .anyText :: rest
  · obtain ⟨rest, rfl⟩ := hlead
    obtain ⟨body, trailing, hrest, hends⟩ := hstop rest
    refine ⟨true, body, trailing, by rw [hrest]; rfl, ?_⟩
    simp only [piecesRegex, hends]
    rfl
  · obtain ⟨body, trailing, hrest, hends⟩ := hstop pieces
    refine ⟨false, body, trailing, hrest, ?_⟩
    have hstart : piecesRegex pieces
        = ['^'] ++ (if pieces.getLast? = some .anyText then (pieces.dropLast, [])
            else (pieces, ['$'])).1.flatMap LikePiece.regex
          ++ (if pieces.getLast? = some .anyText then (pieces.dropLast, [])
            else (pieces, ['$'])).2 := by
      cases pieces with
      | nil => rfl
      | cons piece rest =>
        cases piece with
        | anyText => exact absurd ⟨rest, rfl⟩ hlead
        | character c => rfl
        | anyCharacter => rfl
    rw [hstart, hends]
    rfl

/-- No expression of parts starts with a star. -/
theorem head?_pieces (body : List LikePiece) {behind : List Char} (h : behind.head? ≠ some '*') :
    (body.flatMap LikePiece.regex ++ behind).head? ≠ some '*' := by
  cases body with
  | nil => exact h
  | cons piece body =>
    rw [List.flatMap_cons, List.append_assoc]
    cases piece with
    | anyText => simp [LikePiece.regex]
    | anyCharacter => simp [LikePiece.regex]
    | character c =>
      rw [LikePiece.regex, TextPattern.escape_cons]
      by_cases hc : TextPattern.isEscaped c = true
      · simp [hc]
      · have hstar : c ≠ '*' := by
          rintro rfl
          exact hc (by decide)
        simp [hc, hstar]

/-- The expression of parts is read as these parts. -/
theorem parts?_pieces (body : List LikePiece) {behind : List Char} {parts : List Regex.Part}
    (hhead : behind.head? ≠ some '*') (hparts : Regex.parts? behind = some parts) :
    Regex.parts? (body.flatMap LikePiece.regex ++ behind)
      = some (body.map LikePiece.part ++ parts) := by
  induction body with
  | nil => exact hparts
  | cons piece body ih =>
    rw [List.flatMap_cons, List.append_assoc]
    cases piece with
    | character c =>
      rw [LikePiece.regex, Regex.parts?_character, ih]
      rfl
    | anyCharacter =>
      show Regex.parts? ('.' :: (body.flatMap LikePiece.regex ++ behind)) = _
      rw [Regex.parts?_anyCharacter (head?_pieces body hhead), ih]
      rfl
    | anyText =>
      show Regex.parts? ('.' :: '*' :: (body.flatMap LikePiece.regex ++ behind)) = _
      rw [Regex.parts?, ih]
      rfl

/-- Without line breaks a part stands for the runs that its expression matches. -/
theorem matchesAt_part {piece : LikePiece} {before run behind : List Char} (h : '\n' ∉ run) :
    piece.part.MatchesAt before run behind ↔ piece.Takes run := by
  cases piece with
  | character c => exact Iff.rfl
  | anyText => exact ⟨fun _ => trivial, fun _ => h⟩
  | anyCharacter =>
    constructor
    · rintro ⟨c, -, hc⟩
      exact ⟨c, hc⟩
    · rintro ⟨c, rfl⟩
      refine ⟨c, ?_, rfl⟩
      rintro rfl
      exact h List.mem_cons_self

/-- Inside the anchors, parts match what their expression matches. -/
theorem matches_body (body : List LikePiece) {parts : List Regex.Part}
    {before stretch behind : List Char} (h : '\n' ∉ stretch) :
    Regex.Matches (body.map LikePiece.part ++ parts) before stretch behind ↔
      ∃ inner rest, stretch = inner ++ rest ∧ PiecesMatch body inner ∧
        Regex.Matches parts (before ++ inner) rest behind := by
  induction body generalizing before stretch with
  | nil =>
    constructor
    · intro hmatches
      refine ⟨[], stretch, rfl, rfl, ?_⟩
      rw [List.append_nil]
      exact hmatches
    · rintro ⟨inner, rest, rfl, rfl, hmatches⟩
      rw [List.append_nil] at hmatches
      exact hmatches
  | cons piece body ih =>
    constructor
    · rintro ⟨run, tail, rfl, hrun, htail⟩
      rw [List.mem_append, not_or] at h
      obtain ⟨inner, rest, rfl, hinner, hrest⟩ := (ih h.2).1 htail
      refine ⟨run ++ inner, rest, (List.append_assoc run inner rest).symm, ?_, ?_⟩
      · exact ⟨run, inner, rfl, (matchesAt_part h.1).1 hrun, hinner⟩
      · rw [← List.append_assoc]
        exact hrest
    · rintro ⟨inner, rest, rfl, ⟨run, tail, rfl, hrun, htail⟩, hrest⟩
      rw [List.append_assoc, List.mem_append, not_or] at h
      refine ⟨run, tail ++ rest, List.append_assoc run tail rest, (matchesAt_part h.1).2 hrun, ?_⟩
      refine (ih h.2).2 ⟨tail, rest, rfl, htail, ?_⟩
      rw [List.append_assoc]
      exact hrest

/-- Unless any text may come first, a match begins where the text begins. -/
theorem matches_leading (leading : Bool) {parts : List Regex.Part}
    {before stretch behind : List Char} :
    Regex.Matches (anchor leading .start ++ parts) before stretch behind ↔
      (leading = false → before = []) ∧ Regex.Matches parts before stretch behind := by
  cases leading with
  | true => simp [anchor]
  | false =>
    constructor
    · rintro ⟨run, rest, rfl, ⟨rfl, rfl⟩, hrest⟩
      exact ⟨fun _ => rfl, hrest⟩
    · rintro ⟨hbefore, hmatches⟩
      obtain rfl := hbefore rfl
      exact ⟨[], stretch, rfl, ⟨rfl, rfl⟩, hmatches⟩

/-- Unless any text may come last, a match ends where the text ends. -/
theorem matches_trailing (trailing : Bool) {before stretch behind : List Char} :
    Regex.Matches (anchor trailing .stop) before stretch behind ↔
      stretch = [] ∧ (trailing = false → behind = []) := by
  cases trailing with
  | true => simp [anchor, Regex.Matches]
  | false =>
    constructor
    · rintro ⟨run, rest, rfl, ⟨rfl, hbehind⟩, rfl⟩
      exact ⟨rfl, fun _ => hbehind⟩
    · rintro ⟨rfl, hbehind⟩
      exact ⟨[], [], rfl, ⟨rfl, hbehind rfl⟩, rfl⟩

/-- The expression of parts with their anchors is found in the texts that the parts match. -/
theorem finds_iff (leading trailing : Bool) (body : List LikePiece) {text : List Char}
    (h : '\n' ∉ text) :
    Regex.Finds (anchor leading .start ++ (body.map LikePiece.part ++ anchor trailing .stop)) text ↔
      PiecesMatch (wild leading ++ body ++ wild trailing) text := by
  have hbody : Regex.Finds
      (anchor leading .start ++ (body.map LikePiece.part ++ anchor trailing .stop)) text ↔
      ∃ before inner behind, text = before ++ (inner ++ behind) ∧ PiecesMatch body inner ∧
        (leading = false → before = []) ∧ (trailing = false → behind = []) := by
    constructor
    · rintro ⟨before, stretch, behind, rfl, hmatches⟩
      simp only [List.mem_append, not_or] at h
      rw [matches_leading, matches_body body h.1.2] at hmatches
      obtain ⟨hbefore, inner, rest, rfl, hinner, hrest⟩ := hmatches
      obtain ⟨rfl, hbehind⟩ := (matches_trailing trailing).1 hrest
      exact ⟨before, inner, behind, by simp, hinner, hbefore, hbehind⟩
    · rintro ⟨before, inner, behind, rfl, hinner, hbefore, hbehind⟩
      simp only [List.mem_append, not_or] at h
      refine ⟨before, inner, behind, (List.append_assoc before inner behind).symm, ?_⟩
      rw [matches_leading, matches_body body h.2.1]
      exact ⟨hbefore, inner, [], (List.append_nil inner).symm, hinner,
        (matches_trailing trailing).2 ⟨rfl, hbehind⟩⟩
  have htrailing : ∀ stretch, PiecesMatch (body ++ wild trailing) stretch ↔
      ∃ inner behind, stretch = inner ++ behind ∧ PiecesMatch body inner ∧
        (trailing = false → behind = []) := by
    intro stretch
    cases trailing with
    | true => simp [wild, piecesMatch_concat_anyText]
    | false => simp [wild]
  rw [hbody, List.append_assoc]
  cases leading with
  | true =>
    show _ ↔ PiecesMatch (.anyText :: (body ++ wild trailing)) text
    rw [piecesMatch_anyText]
    simp only [htrailing, reduceCtorEq, false_implies, true_and]
    constructor
    · rintro ⟨before, inner, behind, rfl, hinner, hbehind⟩
      exact ⟨before, inner ++ behind, rfl, inner, behind, rfl, hinner, hbehind⟩
    · rintro ⟨before, rest, rfl, inner, behind, rfl, hinner, hbehind⟩
      exact ⟨before, inner, behind, rfl, hinner, hbehind⟩
  | false =>
    show _ ↔ PiecesMatch (body ++ wild trailing) text
    rw [htrailing]
    constructor
    · rintro ⟨before, inner, behind, rfl, hinner, hbefore, hbehind⟩
      obtain rfl := hbefore rfl
      exact ⟨inner, behind, rfl, hinner, hbehind⟩
    · rintro ⟨inner, behind, rfl, hinner, hbehind⟩
      exact ⟨[], inner, behind, rfl, hinner, fun _ => rfl, hbehind⟩

/-! ### The regular expression of a pattern -/

/-- The regular expression of a pattern finds the texts that the pattern matches, and a pattern has
none exactly if it ends in an unpaired escape character. -/
theorem likeRegex_finds_iff (pattern : String) (escape : Option Char) :
    (∀ regex, likeRegex pattern escape = .ok regex →
      ∃ parts, Regex.parts? regex.toList = some parts ∧
        ∀ text : String, '\n' ∉ text.toList →
          (Regex.Finds parts text.toList ↔ LikeMatches escape pattern.toList text.toList)) ∧
    ∀ e, likeRegex pattern escape = .error e ↔
      EndsUnpaired escape pattern.toList ∧
        e = .invalidExpression ("LIKE pattern '" ++ pattern ++
          "' ends with its escape character") := by
  rw [← likePieces_eq_none_iff]
  unfold likeRegex
  cases hpieces : likePieces escape pattern.toList with
  | none =>
    constructor
    · intro regex h
      cases h
    · intro e
      simp [eq_comm]
  | some pieces =>
    constructor
    · intro regex h
      cases h
      obtain ⟨leading, body, trailing, rfl, hregex⟩ := piecesRegex_eq pieces
      have hstop : (anchor trailing '$').head? ≠ some '*' := by cases trailing <;> decide
      have hstopParts : Regex.parts? (anchor trailing '$') = some (anchor trailing .stop) := by
        cases trailing <;> rfl
      have hstart : ∀ rest, Regex.parts? (anchor leading '^' ++ rest)
          = (Regex.parts? rest).map (anchor leading .start ++ ·) := by
        intro rest
        cases leading with
        | true => simp [anchor]
        | false => rfl
      refine ⟨anchor leading .start ++ (body.map LikePiece.part ++ anchor trailing .stop), ?_, ?_⟩
      · rw [String.toList_ofList, hregex, List.append_assoc, hstart,
          parts?_pieces body hstop hstopParts]
        rfl
      · intro text htext
        rw [finds_iff leading trailing body htext, likeMatches_iff hpieces]
    · intro e
      simp

/-- A pattern of a discount: a percent sign of its own, then at least one character. -/
theorem likeRegex_finds_iff_discount :
    likeRegex "50!%_%" (some '!') = .ok "^50%." ∧ '\n' ∉ "50% off".toList ∧
      LikeMatches (some '!') "50!%_%".toList "50% off".toList ∧
      ∃ parts, Regex.parts? "^50%.".toList = some parts ∧ Regex.Finds parts "50% off".toList := by
  have hregex : likeRegex "50!%_%" (some '!') = .ok "^50%." := by rfl
  have hline : '\n' ∉ "50% off".toList := by decide
  have hpattern : "50!%_%".toList = '5' :: '0' :: '!' :: '%' :: '_' :: '%' :: [] := by decide
  have htext : "50% off".toList = '5' :: '0' :: '%' :: ' ' :: (['o', 'f', 'f'] ++ []) := by decide
  have hlike : LikeMatches (some '!') "50!%_%".toList "50% off".toList := by
    rw [hpattern, htext]
    apply LikeMatches.character (by decide) (by decide) (by decide)
    apply LikeMatches.character (by decide) (by decide) (by decide)
    apply LikeMatches.escaped rfl
    apply LikeMatches.anyCharacter (by decide)
    apply LikeMatches.anyText (by decide)
    exact LikeMatches.nil
  obtain ⟨parts, hparts, hfinds⟩ := (likeRegex_finds_iff "50!%_%" (some '!')).1 "^50%." hregex
  exact ⟨hregex, hline, hlike, parts, hparts, (hfinds "50% off" hline).2 hlike⟩

end Polyquery.Sql
