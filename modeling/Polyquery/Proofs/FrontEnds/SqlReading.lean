import Polyquery.Proofs.FrontEnds.Formula
import Polyquery.Proofs.Sql.LikePattern
import Polyquery.Proofs.Sql.Meaning

/-!
# Formulas in SQL

* `likePieces_protect` - a protected text stands for its own characters;
* `likeRegex_likePattern` - the pattern of a text test is the regular expression of that test;
* `toExpr_number`, `toExpr_negative`, `zeroBased_natural` - numbers, and offsets counted from one;
* `toExpr_functionTree` - functions, date parts and the forms with a syntax of their own;
* `joinedTree_eq`, `operands_treeAt` - a chain joined from the left is flat, its operands its own;
* `toExpr_tree` - the tree of a formula means what the formula means.
-/

namespace Polyquery.FrontEnds

open Sql

/-! ### Patterns -/

/-- A protected text stands for its own characters, whatever follows it. -/
theorem likePieces_protect {escape : Option Char} {cs : List Char}
    (h : Protects escape (String.ofList cs)) (rest : List Char) :
    likePieces escape (Formula.protect escape cs ++ rest)
      = (likePieces escape rest).map (cs.map .character ++ ·) := by
  induction cs with
  | nil =>
    have hnil : Formula.protect escape [] = [] := by cases escape <;> rfl
    rw [hnil, List.nil_append, List.map_nil]
    cases likePieces escape rest <;> rfl
  | cons c cs ih =>
    have hmap : ∀ pieces : Option (List LikePiece),
        (pieces.map (cs.map .character ++ ·)).map (.character c :: ·)
          = pieces.map ((c :: cs).map .character ++ ·) := by
      intro pieces
      rw [Option.map_map]
      rfl
    cases escape with
    | none =>
      obtain ⟨hany, hone⟩ := h
      rw [String.toList_ofList] at hany hone
      have htail : Protects none (String.ofList cs) := by
        refine ⟨?_, ?_⟩ <;> rw [String.toList_ofList]
        · exact fun hmem => hany (List.mem_cons_of_mem c hmem)
        · exact fun hmem => hone (List.mem_cons_of_mem c hmem)
      have hplain : wildcard c = .character c :=
        wildcard_of_plain (fun heq => hany (heq ▸ List.mem_cons_self))
          fun heq => hone (heq ▸ List.mem_cons_self)
      show likePieces none (c :: (Formula.protect none cs ++ rest)) = _
      rw [likePieces_cons (by simp), ih htail, hplain, hmap]
    | some e =>
      have hsplit : Formula.protect (some e) (c :: cs)
          = (if c = e ∨ c = '%' ∨ c = '_' then [e, c] else [c]) ++ Formula.protect (some e) cs :=
        rfl
      rw [hsplit, List.append_assoc]
      by_cases hc : c = e ∨ c = '%' ∨ c = '_'
      · rw [if_pos hc]
        show likePieces (some e) (e :: c :: (Formula.protect (some e) cs ++ rest)) = _
        rw [likePieces_escaped, ih h, hmap]
      · rw [not_or, not_or] at hc
        rw [if_neg (by simp [hc])]
        show likePieces (some e) (c :: (Formula.protect (some e) cs ++ rest)) = _
        rw [likePieces_cons (by simpa using hc.1), ih h, wildcard_of_plain hc.2.1 hc.2.2, hmap]

theorem flatMap_character (cs : List Char) :
    (cs.map LikePiece.character).flatMap LikePiece.regex = TextPattern.escape cs := by
  induction cs with
  | nil => rfl
  | cons c cs ih =>
    rw [List.map_cons, List.flatMap_cons, ih, LikePiece.regex]
    simp [TextPattern.escape]

/-- The pieces of the pattern of a text test. -/
def testPieces : TextPattern → List LikePiece
  | .startsWith s => s.toList.map .character ++ [.anyText]
  | .endsWith s => .anyText :: s.toList.map .character
  | .contains s => .anyText :: (s.toList.map .character ++ [.anyText])

theorem likePieces_likePattern {escape : Option Char} (pattern : TextPattern)
    (h : Protects escape pattern.text) :
    likePieces escape (Formula.likePattern escape pattern) = some (testPieces pattern) := by
  have hpercent : some '%' ≠ escape := by
    rintro rfl
    exact h.1 rfl
  have hany : likePieces escape ['%'] = some [.anyText] := by
    rw [likePieces_cons hpercent, likePieces]
    rfl
  have hprotected : ∀ s : String, Protects escape s → ∀ rest : List Char,
      likePieces escape (Formula.protect escape s.toList ++ rest)
        = (likePieces escape rest).map (s.toList.map .character ++ ·) := by
    intro s hs rest
    exact likePieces_protect (by rw [String.ofList_toList]; exact hs) rest
  cases pattern with
  | startsWith s =>
    show likePieces escape (Formula.protect escape s.toList ++ ['%']) = _
    rw [hprotected s h ['%'], hany]
    rfl
  | endsWith s =>
    have hend := hprotected s h []
    rw [List.append_nil] at hend
    show likePieces escape ('%' :: Formula.protect escape s.toList) = _
    rw [likePieces_cons hpercent, hend, likePieces, Option.map_some, Option.map_some,
      List.append_nil]
    rfl
  | contains s =>
    show likePieces escape ('%' :: (Formula.protect escape s.toList ++ ['%'])) = _
    rw [likePieces_cons hpercent, hprotected s h ['%'], hany]
    rfl

theorem getLast?_characters (cs : List Char) :
    (cs.map LikePiece.character).getLast? ≠ some .anyText := by
  intro h
  obtain ⟨c, -, hc⟩ := List.mem_map.1 (List.mem_of_getLast? h)
  cases hc

/-- The regular expression of the pieces of a text test. -/
theorem piecesRegex_testPieces {pattern : TextPattern} (h : pattern ≠ .startsWith "") :
    piecesRegex (testPieces pattern) = pattern.regexChars := by
  cases pattern with
  | startsWith s =>
    cases hs : s.toList with
    | nil => exact absurd (congrArg TextPattern.startsWith (String.toList_eq_nil_iff.1 hs)) h
    | cons c cs =>
      have hpieces : testPieces (.startsWith s)
          = .character c :: (cs.map .character ++ [.anyText]) := by
        rw [testPieces, hs]
        rfl
      have hlast : (LikePiece.character c :: (cs.map .character ++ [.anyText])).getLast?
          = some .anyText := by
        rw [← List.cons_append, List.getLast?_concat]
      have hinit : (LikePiece.character c :: (cs.map .character ++ [.anyText])).dropLast
          = (c :: cs).map .character := by
        rw [← List.cons_append, List.dropLast_concat]
        rfl
      rw [hpieces]
      simp only [piecesRegex, hlast, if_true, hinit, flatMap_character, List.append_nil]
      rw [← hs]
      rfl
  | endsWith s =>
    simp only [testPieces, piecesRegex, getLast?_characters, if_false, flatMap_character]
    rfl
  | contains s =>
    simp only [testPieces, piecesRegex, List.getLast?_concat, if_true, List.dropLast_concat,
      flatMap_character, List.append_nil]
    rfl

/-- The pattern of a text test is the regular expression of that test. -/
theorem likeRegex_likePattern {escape : Option Char} {pattern : TextPattern}
    (h : Protects escape pattern.text) (hne : pattern ≠ .startsWith "") :
    likeRegex (String.ofList (Formula.likePattern escape pattern)) escape = .ok pattern.regex := by
  rw [likeRegex, String.toList_ofList, likePieces_likePattern pattern h]
  show Except.ok (String.ofList (piecesRegex (testPieces pattern))) = _
  rw [piecesRegex_testPieces hne]
  rfl

theorem escapeCharacter_singleton (escape : Option Char) :
    escapeCharacter (escape.map String.singleton) = .ok escape := by
  cases escape with
  | none => rfl
  | some c =>
    have hlist : (String.singleton c).toList = [c] := String.toList_singleton c
    simp only [Option.map_some, escapeCharacter, hlist]

/-! ### Numbers -/

theorem toExpr_number {n : Nat} (h : n < Nat.pow 2 63) :
    (Formula.number n).toExpr .empty = .ok (Formula.natural n) := by
  rw [Formula.number, Tree.toExpr, Constant.toLiteral, numberLiteral_natText h]
  rfl

/-- A position counted from one is the position before it counted from zero. -/
theorem zeroBased_natural {n : Nat} (h : n + 1 < Nat.pow 2 63) :
    zeroBased (Formula.natural (n + 1)) = .ok (Formula.natural n) := by
  have hbefore : (Int64.ofNat (n + 1)).toInt - 1 = n := by
    rw [Int64.toInt_ofNat_of_lt h]
    omega
  have hread : Integer.to64? ((Int64.ofNat (n + 1)).toInt - 1) = some (Int64.ofNat n) := by
    rw [hbefore, to64?_natural (by omega)]
  simp only [zeroBased, Formula.natural, Expr.int, hread]

theorem toExpr_int {n : Int64} (sp : Spelling) (h : n ≠ Int64.minValue) :
    ((Formula.int n).tree sp).toExpr .empty = .ok (.int n) := by
  rw [Formula.tree]
  by_cases hn : n < 0
  · rw [if_pos hn, Tree.toExpr]
    show ((Formula.number n.toInt.natAbs).toExpr .empty >>= minus) = _
    rw [toExpr_number (natAbs_lt h)]
    show (Literal.int (Int64.ofNat n.toInt.natAbs)).neg?.map Expr.literal = _
    rw [neg?_natural hn h]
    rfl
  · rw [if_neg hn, toExpr_number (natAbs_lt h), Formula.natural, ofNat_natAbs hn h]

/-! ### Calls -/

/-- Parentheses change nothing. -/
theorem toExpr_treeAt {sp : Spelling} {l : OData.Level} {f : Formula} {t : Tree} {e : Expr}
    (h : t.toExpr .empty = .ok e) : (Formula.treeAt sp l f t).toExpr .empty = .ok e := by
  rw [Formula.treeAt]
  split
  · exact h
  · rw [Tree.toExpr]
    exact h

/-- A call of one operand that the built-in table claims. -/
theorem toExpr_call {name : String} {t : Tree} {x e : Expr} (hx : t.toExpr .empty = .ok x)
    (h : functions ⟨Text.lower (pathText [⟨name, none⟩]), [x], false, none⟩
      = .ok ⟨Text.lower (pathText [⟨name, none⟩]), [x], false, some e⟩) :
    (Tree.call (.of [⟨name, none⟩] (.arguments none [])) [.value t]).toExpr .empty = .ok e := by
  have hargs : toArguments .empty [.value t] = .ok [x] := by
    rw [toArguments, hx]
    rfl
  rw [Tree.toExpr]
  show (toArguments .empty [.value t] >>= _) = _
  rw [hargs]
  exact Resolvers.resolveMethod_empty h

theorem claimed_call {func : Func} (h : func ∈ sharedFunctions) (x : Expr) :
    functions ⟨Text.lower (pathText [⟨Formula.sqlName func, none⟩]), [x], false, none⟩
      = .ok ⟨Text.lower (pathText [⟨Formula.sqlName func, none⟩]), [x], false,
          some (.call func [x])⟩ := by
  revert h
  cases func <;> first
    | (intro h; exact absurd h (by decide))
    | (intro _; rfl)

theorem extractFunction_sqlName {func : Func} (h : func ∈ Formula.dateParts) :
    extractFunction (Formula.sqlName func) = .ok func := by
  revert h
  cases func <;> first
    | (intro h; exact absurd h (by decide))
    | (intro _; rfl)

/-- A function by any of its forms. -/
theorem toExpr_functionTree {sp : Spelling} {func : Func} {t : Tree} {x : Expr}
    (hfunc : func ∈ sharedFunctions) (hx : t.toExpr .empty = .ok x) :
    (Formula.functionTree sp func t).toExpr .empty = .ok (.call func [x]) := by
  unfold Formula.functionTree
  split
  · rw [Tree.toExpr, hx]
    show resolveCall .empty "trim" [x] = _
    exact Resolvers.resolveMethod_empty rfl
  · rw [Tree.toExpr, hx]
    show resolveCall .empty (Text.lower (Formula.sqlName .ceil)) [x] = _
    exact Resolvers.resolveMethod_empty rfl
  · rw [Tree.toExpr, hx]
    show resolveCall .empty (Text.lower (Formula.sqlName .floor)) [x] = _
    exact Resolvers.resolveMethod_empty rfl
  · split
    · rename_i hpart
      rw [Tree.toExpr, extractFunction_sqlName hpart.1, hx]
      rfl
    · exact toExpr_call hx (claimed_call hfunc x)

/-- A part of a text, its start counted from one. -/
theorem toExpr_substring {t : Tree} {x : Expr} {start : Nat} {length : Option Nat}
    (hx : t.toExpr .empty = .ok x) (hstart : start + 1 < Nat.pow 2 63)
    (hlength : ∀ n ∈ length, start + n < Nat.pow 2 63) :
    (Tree.substring true t (some (Formula.number (start + 1)))
      (length.map Formula.number)).toExpr .empty
      = .ok (.call .substr
          (x :: Formula.natural start :: (length.map Formula.natural).toList)) := by
  have hfirst : toExprOption .empty (some (Formula.number (start + 1)))
      = .ok (some (Formula.natural (start + 1))) := by
    rw [toExprOption, toExpr_number hstart]
    rfl
  have hsecond : toExprOption .empty (length.map Formula.number)
      = .ok (length.map Formula.natural) := by
    cases length with
    | none => rfl
    | some n =>
      have hn := hlength n rfl
      rw [Option.map_some, toExprOption, toExpr_number (by omega)]
      rfl
  have hclaim : ∀ rest : List Expr, rest.length ≤ 1 →
      functions ⟨"substring", x :: Formula.natural (start + 1) :: rest, false, none⟩
        = .ok ⟨"substring", x :: Formula.natural (start + 1) :: rest, false,
            some (.call .substr (x :: Formula.natural start :: rest))⟩ := by
    intro rest hrest
    show (MethodEvent.expectArgs _ 2 3 >>= _) = _
    rw [MethodEvent.expectArgs, if_pos (by simp; omega)]
    show (zeroBased (Formula.natural (start + 1)) >>= _) = _
    rw [zeroBased_natural hstart]
    rfl
  rw [Tree.toExpr, hx, hfirst, hsecond]
  exact Resolvers.resolveMethod_empty
    (hclaim (length.map Formula.natural).toList (by cases length <;> simp))

/-! ### Members and lists -/

theorem toExpr_member_tree (sp : Spelling) {names : List String} (hne : names ≠ []) :
    ((Formula.member names).tree sp).toExpr .empty = .ok (.field (".".intercalate names)) := by
  cases names with
  | nil => exact absurd rfl hne
  | cons name rest =>
    cases rest with
    | nil =>
      rw [Formula.tree, Tree.toExpr, String.intercalate_singleton]
      rfl
    | cons second rest =>
      have hvalues : ((name :: second :: rest).map fun name => (⟨name, none⟩ : Ident)).map Ident.value
          = name :: second :: rest := by
        rw [List.map_map]
        exact List.map_id _
      rw [Formula.tree]
      · rw [toExpr_path (by simp), hvalues]
      · exact fun single h => List.cons_ne_nil _ _ (List.cons.inj h).2

theorem toExprs_trees {sp : Spelling} {l : OData.Level} {operands : List Formula}
    (h : ∀ f ∈ operands, (f.tree sp).toExpr .empty = .ok f.meaning) :
    toExprs .empty (Formula.trees sp l operands) = .ok (Formula.meanings operands) := by
  induction operands with
  | nil => rfl
  | cons f operands ih =>
    have hf : (Formula.treeAt sp l f (f.tree sp)).toExpr .empty = .ok f.meaning :=
      toExpr_treeAt (h f List.mem_cons_self)
    have hrest := ih fun g hg => h g (List.mem_cons_of_mem f hg)
    rw [Formula.trees, toExprs, hf, hrest, Formula.meanings]
    rfl

/-! ### Chains -/

theorem joinedTree_chain (op : LogicalOp) {ts : List Tree} (h : 2 ≤ ts.length) :
    ∃ operands, Formula.joinedTree op ts = .chain (.logical op) operands := by
  match ts, h with
  | s :: t :: ts, _ =>
    exact foldl_joined_chain (.logical op) ts (s.operands (.logical op) ++ t.operands (.logical op))

theorem joinedTree_eq {op : LogicalOp} {ts : List Tree} (hlen : 2 ≤ ts.length)
    (h : ∀ t ∈ ts, t.operands (.logical op) = [t]) :
    Formula.joinedTree op ts = .chain (.logical op) ts := by
  match ts, hlen with
  | s :: t :: ts, _ => exact foldl_joined (List.cons_ne_nil t ts) h

theorem trees_length (sp : Spelling) (l : OData.Level) (operands : List Formula) :
    (Formula.trees sp l operands).length = operands.length := by
  induction operands with
  | nil => rfl
  | cons f operands ih => rw [Formula.trees, List.length_cons, List.length_cons, ih]

theorem operands_functionTree (sp : Spelling) (func : Func) (t : Tree) (op : ChainOp) :
    (Formula.functionTree sp func t).operands op = [Formula.functionTree sp func t] := by
  unfold Formula.functionTree
  split
  · rfl
  · rfl
  · rfl
  · split <;> rfl

/-- An operand of a connective adds itself: a chain of that connective stands in parentheses. -/
theorem operands_treeAt (sp : Spelling) (op : LogicalOp) {f : Formula} (h : Shared f) :
    (Formula.treeAt sp (OData.operandLevel op) f (f.tree sp)).operands (.logical op)
      = [Formula.treeAt sp (OData.operandLevel op) f (f.tree sp)] := by
  by_cases hbare : (f.sqlLevel.rank ≤ (OData.operandLevel op).rank
      && !sp.parenthesized f) = true
  · rw [Formula.treeAt, if_pos hbare]
    have hlevel : f.sqlLevel.rank ≤ (OData.operandLevel op).rank := by
      rw [Bool.and_eq_true, decide_eq_true_eq] at hbare
      exact hbare.1
    cases h with
    | @chain inner operands hlen _ =>
      have hne : inner ≠ op := by
        rintro rfl
        cases inner with
        | and => exact absurd (show 5 ≤ 4 from hlevel) (by decide)
        | or => exact absurd (show 6 ≤ 5 from hlevel) (by decide)
      have htrees : 2 ≤ (Formula.trees sp (OData.operandLevel inner) operands).length := by
        rw [trees_length]
        exact hlen
      obtain ⟨ts, hts⟩ := joinedTree_chain inner htrees
      rw [Formula.tree, hts]
      exact if_neg fun heq => hne (ChainOp.logical.inj heq)
    | @member names _ _ _ _ =>
      cases names with
      | nil => rfl
      | cons name rest => cases rest <;> rfl
    | int _ =>
      rw [Formula.tree]
      split <;> rfl
    | apply _ _ =>
      rw [Formula.tree]
      exact operands_functionTree sp _ _ _
    | _ => rfl
  · rw [Formula.treeAt, if_neg hbare]
    rfl

theorem operands_trees (sp : Spelling) (op : LogicalOp) {operands : List Formula}
    (h : ∀ f ∈ operands, Shared f) :
    ∀ t ∈ Formula.trees sp (OData.operandLevel op) operands, t.operands (.logical op) = [t] := by
  induction operands with
  | nil =>
    intro t ht
    cases ht
  | cons f operands ih =>
    intro t ht
    rw [Formula.trees] at ht
    rcases List.mem_cons.1 ht with rfl | ht
    · exact operands_treeAt sp op (h f List.mem_cons_self)
    · exact ih (fun g hg => h g (List.mem_cons_of_mem f hg)) t ht

/-! ### Formulas -/

/-- The tree of a formula means what the formula means. -/
theorem toExpr_tree (sp : Spelling) {f : Formula} (h : Shared f) :
    (f.tree sp).toExpr .empty = .ok f.meaning := by
  induction h with
  | member hne _ _ _ => exact toExpr_member_tree sp hne
  | int hmin => exact toExpr_int sp hmin
  | string s =>
    rw [Formula.tree, Tree.toExpr]
    rfl
  | bool b =>
    rw [Formula.tree, Tree.toExpr]
    rfl
  | compare _ _ _ ihl ihr =>
    rw [Formula.tree, Tree.toExpr, toExpr_treeAt ihl, toExpr_treeAt ihr]
    rfl
  | isNull _ ih =>
    rw [Formula.tree, Tree.toExpr, toExpr_treeAt ih]
    rfl
  | @chain op operands hlen hshared ih =>
    have hfold := Formula.foldLogical?_meanings op hlen
    rw [Formula.tree,
      joinedTree_eq (by rw [trees_length]; exact hlen) (operands_trees sp op hshared), Tree.toExpr,
      toExprs_trees ih]
    show ChainOp.combine (.logical op) (Formula.meanings operands) = _
    rw [ChainOp.combine, hfold]
  | not _ ih =>
    rw [Formula.tree, Tree.toExpr, toExpr_treeAt ih]
    rfl
  | arithmetic _ _ ihl ihr =>
    rw [Formula.tree, Tree.toExpr, toExpr_treeAt ihl, toExpr_treeAt ihr]
    rfl
  | apply hfunc _ ih =>
    rw [Formula.tree]
    exact toExpr_functionTree hfunc ih
  | substring hstart hlength _ ih =>
    rw [Formula.tree]
    exact toExpr_substring ih hstart hlength
  | @textTest pattern operand hne _ ih =>
    have hregex := likeRegex_likePattern (sp.protects pattern.text) hne
    rw [Formula.tree, Tree.toExpr, escapeCharacter_singleton, toExpr_treeAt ih]
    show (likeRegex _ (sp.escape pattern.text) >>= _) = _
    rw [hregex]
    rfl
  | choice _ _ _ _ ihc ihy ihn =>
    rw [Formula.tree, Tree.toExpr]
    simp only [toExprOption, toBranches, ihc, ihy, ihn]
    rfl

end Polyquery.FrontEnds
