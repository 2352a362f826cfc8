import Mathlib.Data.Char
import Mathlib.Data.List.Lex
import Polyquery.Closure.Meaning
import Polyquery.Proofs.Expr.Valuation
import Polyquery.Proofs.Sql.SqliteText
import Polyquery.Proofs.Sql.Substring

/-!
# Parts of texts

A part of a text is given by a start that is counted from zero and a length.  SQL gives the same
part by a start that is counted from one, and a closure by the positions where it starts and ends,
the second one excluded.

* `charactersBetween` - the characters between two positions, with `charactersBetween_eq` - they are
  what is left of the text behind the first one, up to a length;
* `Valuation.CutsTexts` - values in which `substr` takes such a part;
* `toInt_sliceLength`, `toExpr_between` - the length of a slice is the exact distance of its bounds;
* `substring_call_kept`, `greatest_start_refused` - starts that are read and starts that are written;
* `PartBetween`, `partBetween_sliceLength` - slices, as expressions and in SQL;
* `substring_positions_kept` - no position is lost between them.
-/

namespace Polyquery

/-! ### Positions -/

/-- The characters of a text at the positions between two bounds, the second one excluded.  The first
position is zero. -/
def charactersBetween (low high : Int) (cs : List Char) : List Char :=
  (cs.zipIdx.filter fun c => low ≤ c.2 ∧ c.2 < high).map Prod.fst

theorem filter_zipIdx_between {low : Int} (high : Int) (cs : List Char) (n : Nat) :
    ((cs.zipIdx n).filter fun c => low ≤ c.2 ∧ c.2 < high).map Prod.fst
      = (cs.drop (low - n).toNat).take (high - max low n).toNat := by
  induction cs generalizing n with
  | nil => simp
  | cons c cs ih =>
    have hrest := ih (n + 1)
    rw [Nat.cast_succ] at hrest
    rw [List.zipIdx_cons, List.filter_cons]
    by_cases hbefore : (n : Int) < low
    · -- the text has not reached the first position yet
      have hout : ¬ (low ≤ (n : Int) ∧ (n : Int) < high) := by omega
      have hstart : (low - n).toNat = (low - (n + 1)).toNat + 1 := by omega
      have hlength : max low (n : Int) = max low ((n : Int) + 1) := by omega
      simp only [hout, decide_false, Bool.false_eq_true, if_false]
      rw [hrest, hstart, List.drop_succ_cons, hlength]
    · have hstart : (low - n).toNat = 0 := by omega
      have hnext : (low - (n + 1)).toNat = 0 := by omega
      rw [hnext, List.drop_zero] at hrest
      rw [hstart, List.drop_zero]
      by_cases hwithin : (n : Int) < high
      · have hin : low ≤ (n : Int) ∧ (n : Int) < high := by omega
        have hlength : (high - max low n).toNat = (high - max low ((n : Int) + 1)).toNat + 1 := by
          omega
        simp only [hin, and_self, decide_true, if_true]
        rw [List.map_cons, hrest, hlength, List.take_succ_cons]
      · have hout : ¬ (low ≤ (n : Int) ∧ (n : Int) < high) := by omega
        have hlength : (high - max low n).toNat = 0 := by omega
        have hnone : (high - max low ((n : Int) + 1)).toNat = 0 := by omega
        simp only [hout, decide_false, Bool.false_eq_true, if_false]
        rw [hrest, hnone, hlength, List.take_zero, List.take_zero]

/-- Between two positions stands what follows the first one, up to their distance. -/
theorem charactersBetween_eq {low : Int} (hlow : 0 ≤ low) (high : Int) (cs : List Char) :
    charactersBetween low high cs = (cs.drop low.toNat).take (max (high - low) 0).toNat := by
  have hfirst : (low - (0 : Nat)).toNat = low.toNat := by omega
  have hlength : (high - max low (0 : Nat)).toNat = (max (high - low) 0).toNat := by omega
  rw [charactersBetween, filter_zipIdx_between, hfirst, hlength]

example : charactersBetween 1 3 "naïve".toList = "aï".toList := by decide

/-- Among the values are texts, and `substr` takes as many characters of a text as the length says,
behind as many as the start says. -/
def Valuation.CutsTexts {V : Type} (v : Valuation V) (ofText : List Char → V) : Prop :=
  ∀ (cs : List Char) (start length : Int64), 0 ≤ start → 0 ≤ length →
    v.call .substr [ofText cs, v.literal (.int start), v.literal (.int length)]
      = ofText ((cs.drop start.toInt.toNat).take length.toInt.toNat)

/-! ### Slices -/

namespace Closure

theorem toInt_nonneg {n : Int64} (h : 0 ≤ n) : 0 ≤ n.toInt := Int64.le_iff_toInt_le.1 h

/-- Bounds that are not negative are near enough to each other for their distance. -/
theorem toInt_distance {start stop : Int64} (hstart : 0 ≤ start) (hstop : 0 ≤ stop) :
    (stop - start).toInt = stop.toInt - start.toInt := by
  have hlow := toInt_nonneg hstart
  have hnonneg := toInt_nonneg hstop
  have hfirst := Int64.toInt_lt start
  have hlast := Int64.toInt_lt stop
  rw [Int64.toInt_sub, Int.bmod_eq_of_le (by omega) (by omega)]

theorem toInt_sliceLength {start stop : Int64} (hstart : 0 ≤ start) (hstop : 0 ≤ stop) :
    (sliceLength start stop).toInt = max (stop.toInt - start.toInt) 0 := by
  unfold sliceLength
  split
  · rename_i hle
    have hle := Int64.le_iff_toInt_le.1 hle
    rw [toInt_distance hstart hstop]
    omega
  · rename_i hgt
    have hgt := Int64.lt_iff_toInt_lt.1 (Int64.not_le.1 hgt)
    have hzero : (0 : Int64).toInt = 0 := rfl
    rw [hzero]
    omega

theorem sliceBound_int {n : Int64} (h : 0 ≤ n) :
    sliceBound (some (.constant (.int n))) = .ok (some n) := by
  rw [sliceBound, if_pos h]

/-- The slice of a term with two constant bounds. -/
def between (value : Term) (a b : Int64) : Term :=
  .slice value (some (.constant (.int a))) (some (.constant (.int b))) none

/-- A slice is translated whenever the term in front of it is. -/
theorem toExpr_between (s : Scope) (value : Term) {a b : Int64} (ha : 0 ≤ a) (hb : 0 ≤ b) :
    (between value a b).toExpr s
      = (value.toExpr s).map fun text =>
          .call .substr [text, .int a, .int (sliceLength a b)] := by
  rw [between, Term.toExpr, sliceBound_int ha, sliceBound_int hb]
  show (value.toExpr s >>= _) = _
  cases value.toExpr s <;> rfl

end Closure

/-! ### Starts and ends -/

/-- A call of `substring` with a constant start is written with this start again, in every dialect.
Only the least integer is no start. -/
theorem substring_call_kept {rs : Resolvers} {t : Sql.Tree} {text : Expr} {k : Int64}
    {length : Option Expr} (h : Sql.CallsSubstring rs t (text :: .int k :: length.toList)) :
    (k = Int64.minValue → t.toExpr rs = .error (.invalidExpression
      "SUBSTRING start -9223372036854775808 is out of range")) ∧
    (k ≠ Int64.minValue → ∃ start : Int64, start.toInt = k.toInt - 1 ∧
      t.toExpr rs = .ok (.call .substr (text :: .int start :: length.toList)) ∧
      ∀ d : Sql.Dialect, d.render (.call .substr (text :: .int start :: length.toList))
        = d.substringTokens text k length.toList) := by
  have hfew : length.toList.length ≤ 1 := by cases length <;> simp
  have hread := h.toExpr hfew
  rw [Sql.zeroBased_int] at hread
  constructor
  · intro hk
    rw [hread, if_pos hk]
    rfl
  · intro hk
    refine ⟨k - 1, Sql.toInt_previous hk, ?_, fun d => ?_⟩
    · rw [hread, if_neg hk]
      rfl
    · rw [Expr.int, d.render_substr rfl, if_neg (by omega), if_neg (Sql.previous_ne_maxValue hk),
        Int64.sub_add_cancel]

/-- The greatest integer of either width is no start, whatever the other operands are. -/
theorem greatest_start_refused (d : Sql.Dialect) (text : Expr) {v : Literal} (rest : List Expr)
    (hv : v.integer? = some Int64.maxValue) :
    d.render (.call .substr (text :: .literal v :: rest))
      = .error (if 1 < rest.length then Sql.arityError .substr (rest.length + 2)
          else Sql.startError (.literal v)) := by
  rw [d.render_substr hv, if_pos rfl]
  split <;> rfl

/-- A start and a length give the characters between two bounds. -/
structure PartBetween (a b length : Int64) : Prop where
  /-- The distance of the bounds does not overflow. -/
  distance : (b - a).toInt = b.toInt - a.toInt
  /-- The length is their distance, and nothing where they are the wrong way round. -/
  length_eq : length.toInt = max (b.toInt - a.toInt) 0
  /-- The expression stands for these characters, whatever text it is taken from. -/
  meaning (V : Type) [LinearOrder V] (v : Valuation V) (ofText : List Char → V) :
    v.CutsTexts ofText → ∀ (text : Expr) (cs : List Char), (v.meaning text).value = ofText cs →
      (v.meaning (.call .substr [text, .int a, .int length])).value
        = ofText (charactersBetween a.toInt b.toInt cs)
  /-- Its SQL, where the start has a successor, takes the same characters from one on. -/
  written : a ≠ Int64.maxValue →
    (∀ (d : Sql.Dialect) (text : Expr), d.render (.call .substr [text, .int a, .int length])
      = d.substringTokens text (a + 1) [.int length]) ∧
    ∀ cs : List Char, Sql.Sqlite.substr cs (a + 1).toInt (some length.toInt)
      = charactersBetween a.toInt b.toInt cs

theorem partBetween_sliceLength {a b : Int64} (ha : 0 ≤ a) (hb : 0 ≤ b) :
    PartBetween a b (Closure.sliceLength a b) := by
  have hlength := Closure.toInt_sliceLength ha hb
  have hstart := Closure.toInt_nonneg ha
  have hnonneg : 0 ≤ (Closure.sliceLength a b).toInt := by omega
  have hpart : ∀ cs : List Char, charactersBetween a.toInt b.toInt cs
      = (cs.drop a.toInt.toNat).take (Closure.sliceLength a b).toInt.toNat := by
    intro cs
    rw [charactersBetween_eq hstart, hlength]
  refine ⟨Closure.toInt_distance ha hb, hlength, ?_, ?_⟩
  · intro V _ v ofText hcuts text cs htext
    have hvalue := hcuts cs a _ ha (Int64.le_iff_toInt_le.2 hnonneg)
    rw [hpart, ← hvalue, ← htext]
    rfl
  · intro ha'
    refine ⟨fun d text => ?_, fun cs => ?_⟩
    · rw [Expr.int, d.render_substr rfl, if_neg (by simp), if_neg ha']
    · rw [Sql.toInt_next ha', Sql.Sqlite.substr_behind cs hstart hnonneg, hpart]

/-- Positions in texts are kept by every shift.  The start of a call of `substring` is written as it
was read, and the least integer is the only one that is refused; a start without a successor is
refused where it is written; the slice between two bounds is the part of the text between them. -/
theorem substring_positions_kept :
    (∀ (rs : Resolvers) (t : Sql.Tree) (text : Expr) (k : Int64) (length : Option Expr),
      Sql.CallsSubstring rs t (text :: .int k :: length.toList) →
        (k = Int64.minValue → t.toExpr rs = .error (.invalidExpression
          "SUBSTRING start -9223372036854775808 is out of range")) ∧
        (k ≠ Int64.minValue → ∃ start : Int64, start.toInt = k.toInt - 1 ∧
          t.toExpr rs = .ok (.call .substr (text :: .int start :: length.toList)) ∧
          ∀ d : Sql.Dialect, d.render (.call .substr (text :: .int start :: length.toList))
            = d.substringTokens text k length.toList)) ∧
    (∀ (d : Sql.Dialect) (text : Expr) (v : Literal) (rest : List Expr),
      v.integer? = some Int64.maxValue →
        d.render (.call .substr (text :: .literal v :: rest))
          = .error (if 1 < rest.length then Sql.arityError .substr (rest.length + 2)
              else Sql.startError (.literal v))) ∧
    ∀ (s : Closure.Scope) (value : Closure.Term) (a b : Int64), 0 ≤ a → 0 ≤ b →
      ∃ length : Int64, PartBetween a b length ∧
        (Closure.between value a b).toExpr s
          = (value.toExpr s).map fun text => .call .substr [text, .int a, .int length] := by
  refine ⟨fun rs t text k length h => substring_call_kept h, ?_, ?_⟩
  · intro d text v rest hv
    exact greatest_start_refused d text rest hv
  · intro s value a b ha hb
    exact ⟨_, partBetween_sliceLength ha hb, Closure.toExpr_between s value ha hb⟩

/-! ### A name in parts -/

/-- Values as texts, integers as their digits.  Only `substr` has a value of its own. -/
def textValues (row : String → List Char) : Valuation (List Char) where
  field := row
  literal
    | .int n => Integer.chars n.toInt
    | .string s => s.toList
    | _ => []
  arithmetic _ _ _ := []
  call
    | .substr, [cs, start, length] =>
      ((Integer.parse64? start).bind fun start => (Integer.parse64? length).map fun length =>
        (cs.drop start.toInt.toNat).take length.toInt.toNat).getD []
    | _, _ => []
  regexMatch _ _ _ := false
  custom _ _ := []
  ofBool _ := []
  truth cs := !cs.isEmpty

theorem textValues_cutsTexts (row : String → List Char) : (textValues row).CutsTexts id := by
  intro cs start length _ _
  simp only [textValues, Integer.parse64?_chars, Option.bind_some, Option.map_some,
    Option.getD_some, id_eq]

/-- A listener that knows `substring` by another name. -/
def middleNames : Resolver :=
  { Resolver.silent with
    method := fun e => .ok (if e.name = "mid" then { e with name := "substring" } else e) }

/-- `MID(name, 3)`. -/
def middleOfName : Sql.Tree :=
  .call (.of [⟨"MID", none⟩] (.arguments none []))
    [.value (.name ⟨"name", none⟩), .value (.constant (.number "3" false))]

/-- The middle of a name with such a listener, a start without a successor, and `x.name[1:3]`. -/
theorem substring_positions_kept_name :
    (∃ start : Int64, start.toInt = 2 ∧
      middleOfName.toExpr ⟨[middleNames]⟩ = .ok (.call .substr [.field "name", .int start]) ∧
      Sql.Dialect.postgres.exprText (.call .substr [.field "name", .int start])
        = .ok "SUBSTRING(\"name\", 3)") ∧
    Sql.Dialect.sqlite.render (.call .substr [.field "name", .literal (.long Int64.maxValue)])
      = .error (.invalidExpression
          "substring start Literal(Long(9223372036854775807)) is out of range") ∧
    ∃ e, (Closure.between (.attribute (.param "x") "name") 1 3).toExpr ⟨["x"], [], [], .empty⟩
        = .ok e ∧
      ((textValues fun _ => "naïve".toList).meaning e).value = "aï".toList := by
  obtain ⟨hcall, hrefused, hslice⟩ := substring_positions_kept
  refine ⟨?_, ?_, ?_⟩
  · have hcalls : Sql.CallsSubstring ⟨[middleNames]⟩ middleOfName
        (.field "name" :: .int 3 :: (none : Option Expr).toList) :=
      ⟨_, _, .plain rfl rfl, "substring", by decide, false, rfl⟩
    obtain ⟨-, hkept⟩ := hcall _ _ _ _ _ hcalls
    obtain ⟨start, hstart, hread, hwritten⟩ := hkept (by decide)
    refine ⟨start, hstart, hread, ?_⟩
    have htext := hwritten Sql.Dialect.postgres
    rw [Sql.Dialect.exprText]
    exact (congrArg _ htext).trans rfl
  · have htext : "substring start " ++ (Expr.literal (.long Int64.maxValue)).inspect
        ++ " is out of range"
        = "substring start Literal(Long(9223372036854775807)) is out of range" := by decide
    rw [hrefused Sql.Dialect.sqlite (.field "name") (.long Int64.maxValue) [] rfl, ← htext]
    rfl
  · obtain ⟨length, hpart, htranslated⟩ := hslice ⟨["x"], [], [], .empty⟩
      (.attribute (.param "x") "name") 1 3 (by decide) (by decide)
    refine ⟨_, htranslated, ?_⟩
    exact hpart.meaning _ _ id (textValues_cutsTexts _) (.field "name") "naïve".toList rfl

end Polyquery
