import Mathlib.Data.List.Forall2
import Polyquery.Proofs.OData.Derivation
import Polyquery.Proofs.OData.Lexing

/-!
# Texts that are read as expressions

* `Trimmed` - texts with no blank at either end;
* `Derives.chainMore`, `Derives.argumentList`, `Derives.branchList` - rules for chains and lists;
* `Written rs l cs e` - `cs` scans to tokens that derive the expression `e` at level `l`;
* `Written.parenthesized`, `Written.compare`, `Written.chain`, ... - one rule for each form of text;
* `Written.parseFilter` - a text written as an expression is read as that expression.

The rules join `Lexes` and `Derives`, so that a printer is followed form by form without a list of
tokens in sight.
-/

namespace Polyquery.OData

/-! ### Texts without blanks at the ends -/

/-- A text that starts and ends with a character other than a blank. -/
def Trimmed (cs : List Char) : Prop :=
  (∃ c rest, cs = c :: rest ∧ Text.isBlank c = false) ∧
    ∃ init c, cs = init ++ [c] ∧ Text.isBlank c = false

theorem Trimmed.append {a b : List Char} (ha : Trimmed a) (hb : Trimmed b) (m : List Char) :
    Trimmed (a ++ (m ++ b)) := by
  obtain ⟨⟨c, rest, rfl, hc⟩, -⟩ := ha
  obtain ⟨-, init, d, rfl, hd⟩ := hb
  exact ⟨⟨c, rest ++ (m ++ (init ++ [d])), rfl, hc⟩,
    ⟨c :: rest ++ (m ++ init), d, by simp only [List.append_assoc], hd⟩⟩

theorem trimmed_singleton {c : Char} (hc : Text.isBlank c = false) : Trimmed [c] :=
  ⟨⟨c, [], rfl, hc⟩, ⟨[], c, rfl, hc⟩⟩

theorem Trimmed.enclosed {c d : Char} (hc : Text.isBlank c = false) (hd : Text.isBlank d = false)
    (m : List Char) : Trimmed (c :: (m ++ [d])) :=
  (trimmed_singleton hc).append (trimmed_singleton hd) m

theorem isBlank_of_isWordChar {c : Char} (h : isWordChar c = true) : Text.isBlank c = false := by
  simp only [isWordChar, Bool.or_eq_true, decide_eq_true_eq] at h
  rcases h with ((h | rfl) | rfl) | rfl
  · exact Text.isBlank_of_isAlphanumeric h
  · decide
  · decide
  · decide

/-- A text of characters that are not blank is trimmed, if there are any. -/
theorem trimmed_of_all {cs : List Char} (hne : cs ≠ [])
    (h : ∀ c ∈ cs, Text.isBlank c = false) : Trimmed cs := by
  refine ⟨?_, cs.dropLast, cs.getLast hne, (List.dropLast_append_getLast hne).symm,
    h _ (List.getLast_mem hne)⟩
  cases cs with
  | nil => exact absurd rfl hne
  | cons c cs => exact ⟨c, cs, rfl, h c List.mem_cons_self⟩

theorem trimmed_of_isWord {cs : List Char} (h : isWord cs = true) : Trimmed cs := by
  obtain ⟨c, rest, rfl, hc, hrest⟩ := isWord_iff.1 h
  refine trimmed_of_all (List.cons_ne_nil c rest) fun d hd => ?_
  rcases List.mem_cons.1 hd with rfl | hd
  · exact (isWordStart_cases hc).2.2.2.2
  · exact isBlank_of_isWordChar (hrest d hd)

/-- Two trimmed texts with a word between them. -/
theorem Trimmed.spaced {a b : List Char} (ha : Trimmed a) (hb : Trimmed b) (w : List Char) :
    Trimmed (a ++ (' ' :: (w ++ (' ' :: b)))) := by
  have h := ha.append hb (' ' :: (w ++ [' ']))
  simpa only [List.cons_append, List.append_assoc, List.nil_append] using h

/-! ### Words between texts -/

theorem boundary_blank {cs : List Char} : Boundary (' ' :: cs) :=
  boundary_cons (by decide) (by decide)

/-- Two texts with a word between them. -/
theorem Lexes.spaced {a b w : List Char} {ka kb : List TokenKind} (ha : Lexes a ka)
    (hw : isWord w = true) (hb : Lexes b kb) :
    Lexes (a ++ (' ' :: (w ++ (' ' :: b)))) (ka ++ wordKind (String.ofList w) :: kb) := by
  have hblank : Text.isBlank ' ' = true := by decide
  have hwb : Lexes (w ++ (' ' :: b)) ([wordKind (String.ofList w)] ++ kb) :=
    (Lexes.word hw).append (.blank hblank hb) boundary_blank
  exact ha.append (.blank hblank hwb) boundary_blank

/-- A word and a text behind it. -/
theorem Lexes.wordBefore {b w : List Char} {kb : List TokenKind} (hw : isWord w = true)
    (hb : Lexes b kb) : Lexes (w ++ (' ' :: b)) (wordKind (String.ofList w) :: kb) :=
  (Lexes.word hw).append (.blank (by decide) hb) boundary_blank

/-- Texts with commas between them and the closing parenthesis of a call. -/
theorem Lexes.commas {texts : List (List Char)} {parts : List (List TokenKind)}
    (h : List.Forall₂ Lexes texts parts) :
    Lexes ([','].intercalate texts ++ [')']) ([.comma].intercalate parts ++ [.rightParen]) := by
  have hclose : Lexes [')'] [.rightParen] := .punctuation rfl (by decide) .nil
  induction h with
  | nil => exact hclose
  | @cons t ks texts parts ht hrest ih =>
    cases hrest with
    | nil => simpa using ht.append hclose (boundary_cons (by decide) (by decide))
    | cons ht' hrest' =>
      have hcomma := Lexes.punctuation (c := ',') rfl (by decide) ih
      simpa using ht.append hcomma (boundary_cons (by decide) (by decide))

/-- Texts that each scan to tokens of their own scan, one by one, to lists of tokens. -/
theorem exists_kinds {α : Type} {T : List Char → α → Prop} {D : List TokenKind → α → Prop}
    (h : ∀ cs a, T cs a → ∃ ks, Lexes cs ks ∧ D ks a) {texts : List (List Char)} {as : List α}
    (htexts : List.Forall₂ T texts as) :
    ∃ parts, List.Forall₂ Lexes texts parts ∧ List.Forall₂ D parts as := by
  induction htexts with
  | nil => exact ⟨[], .nil, .nil⟩
  | cons ht _ ih =>
    obtain ⟨ks, hl, hd⟩ := h _ _ ht
    obtain ⟨parts, hls, hds⟩ := ih
    exact ⟨ks :: parts, .cons hl hls, .cons hd hds⟩

/-! ### Texts of expressions -/

/-- A text scans to tokens that derive an expression at a level. -/
def Written (rs : Resolvers) (l : Level) (cs : List Char) (e : Expr) : Prop :=
  Trimmed cs ∧ ∃ ks, Lexes cs ks ∧ Derives rs (.expr l e) ks

/-- What is derived at a level is derived at every looser one. -/
theorem Derives.looser {rs : Resolvers} {l m : Level} {e : Expr} {ks : List TokenKind}
    (h : Derives rs (.expr l e) ks) (hm : l.rank ≤ m.rank) : Derives rs (.expr m e) ks := by
  have chain (c : Chain) {ks : List TokenKind} (h : Derives rs (.expr c.operand e) ks) :
      Derives rs (.expr c.level e) ks := by
    simpa using Derives.chain h .noMore
  have conjunction {ks : List TokenKind} (h : Derives rs (.expr .conjunction e) ks) :
      Derives rs (.expr .disjunction e) ks := .operand .or h
  have negation {ks : List TokenKind} (h : Derives rs (.expr .negation e) ks) :
      Derives rs (.expr .conjunction e) ks := .operand .and h
  have product {ks : List TokenKind} (h : Derives rs (.expr .primary e) ks) :
      Derives rs (.expr .product e) ks := chain .product h
  have sum {ks : List TokenKind} (h : Derives rs (.expr .product e) ks) :
      Derives rs (.expr .sum e) ks := chain .sum h
  cases l <;> cases m <;> first
    | exact h
    | exact absurd hm (by decide)
    | exact conjunction h
    | exact negation h
    | exact conjunction (negation h)
    | exact .comparison h
    | exact negation (.comparison h)
    | exact conjunction (negation (.comparison h))
    | exact .sum h
    | exact .comparison (.sum h)
    | exact negation (.comparison (.sum h))
    | exact conjunction (negation (.comparison (.sum h)))
    | exact sum h
    | exact .sum (sum h)
    | exact .comparison (.sum (sum h))
    | exact negation (.comparison (.sum (sum h)))
    | exact conjunction (negation (.comparison (.sum (sum h))))
    | exact product h
    | exact sum (product h)
    | exact .sum (sum (product h))
    | exact .comparison (.sum (sum (product h)))
    | exact negation (.comparison (.sum (sum (product h))))
    | exact conjunction (negation (.comparison (.sum (sum (product h)))))

/-- One more operand behind those of a chain. -/
theorem Derives.oneMore {rs : Resolvers} {c : Chain} {a e b : Expr} {op : ArithmeticOp} {w : String}
    {ks ks' : List TokenKind} (h : Derives rs (.further c a e) ks) (hw : c.operatorOf? w = some op)
    (hb : Derives rs (.expr c.operand b) ks') :
    Derives rs (.further c a (.arithmetic op e b)) (ks ++ .identifier w :: ks') := by
  generalize hp : Phrase.further c a e = p at h
  induction h generalizing a with
  | noMore =>
    cases hp
    simpa using Derives.more hw hb .noMore
  | more hw' hb' _ _ ih =>
    cases hp
    rw [List.cons_append, List.append_assoc]
    exact .more hw' hb' (ih rfl)
  | _ => cases hp

/-- An expression of the level of a chain is a first operand with further ones behind it. -/
theorem Derives.exists_chain {rs : Resolvers} {c : Chain} {e : Expr} {ks : List TokenKind}
    (h : Derives rs (.expr c.level e) ks) :
    ∃ a first others, ks = first ++ others ∧ Derives rs (.expr c.operand a) first ∧
      Derives rs (.further c a e) others := by
  generalize hp : Phrase.expr c.level e = p at h
  cases h with
  | @chain c' a e' ks ks' hfirst hothers =>
    obtain ⟨hlevel, rfl⟩ := Phrase.expr.inj hp
    obtain rfl : c = c' := by cases c <;> cases c' <;> first | rfl | cases hlevel
    exact ⟨a, ks, ks', rfl, hfirst, hothers⟩
  | operand k _ => cases c <;> cases k <;> cases hp
  | @connective k => cases c <;> cases k <;> cases hp
  | _ => cases c <;> cases hp

/-- A chain groups to the left, so another operand may follow one. -/
theorem Derives.chainMore {rs : Resolvers} {c : Chain} {a b : Expr} {op : ArithmeticOp} {w : String}
    {ks ks' : List TokenKind} (hw : c.operatorOf? w = some op)
    (ha : Derives rs (.expr c.level a) ks) (hb : Derives rs (.expr c.operand b) ks') :
    Derives rs (.expr c.level (.arithmetic op a b)) (ks ++ .identifier w :: ks') := by
  obtain ⟨first, _, _, rfl, hfirst, hothers⟩ := ha.exists_chain
  rw [List.append_assoc]
  exact .chain hfirst (hothers.oneMore hw hb)

/-! ### Lists of phrases -/

theorem Derives.moreArgumentList {rs : Resolvers} {ks : List TokenKind}
    {parts : List (List TokenKind)} {args : List Expr}
    (h : List.Forall₂ (fun ks e => Derives rs (.expr .disjunction e) ks) (ks :: parts) args) :
    Derives rs (.moreArguments args) ([.comma].intercalate (ks :: parts) ++ [.rightParen]) := by
  induction parts generalizing ks args with
  | nil =>
    obtain ⟨a, args, ha, hrest, rfl⟩ := List.forall₂_cons_left_iff.1 h
    cases hrest
    simpa using Derives.lastArgument ha
  | cons ks' parts ih =>
    obtain ⟨a, args, ha, hrest, rfl⟩ := List.forall₂_cons_left_iff.1 h
    simpa using Derives.argument ha (ih hrest)

/-- Arguments with commas between them, and the closing parenthesis. -/
theorem Derives.argumentList {rs : Resolvers} {parts : List (List TokenKind)} {args : List Expr}
    (h : List.Forall₂ (fun ks e => Derives rs (.expr .disjunction e) ks) parts args) :
    Derives rs (.arguments args) ([.comma].intercalate parts ++ [.rightParen]) := by
  cases h with
  | nil => exact .noArguments
  | cons ha hrest => exact .someArguments (.moreArgumentList (.cons ha hrest))

/-- The tokens of a branch: its condition and its value around a colon. -/
def Derives.Branch (rs : Resolvers) (ks : List TokenKind) (branch : Expr × Expr) : Prop :=
  ∃ kc kv, ks = kc ++ .colon :: kv ∧ Derives rs (.expr .disjunction branch.1) kc ∧
    Derives rs (.expr .disjunction branch.2) kv

/-- The tokens of a default branch: none, or one with the constant condition. -/
def Derives.Default (rs : Resolvers) (parts : List (List TokenKind)) : Option Expr → Prop
  | none => parts = []
  | some e => ∃ kv, parts = [.literal (.bool true) :: .colon :: kv] ∧
      Derives rs (.expr .disjunction e) kv

/-- Branches behind others, of which none has the constant condition, and a default.  The induction
is on the branches; a default, or the last branch, ends the list. -/
theorem Derives.branchList {rs : Resolvers} {parts tail : List (List TokenKind)}
    {branches : List (Expr × Expr)} {default : Option Expr}
    (h : List.Forall₂ (Derives.Branch rs) parts branches)
    (hmark : ∀ b ∈ branches, isDefaultMark b.1 = false) (htail : Derives.Default rs tail default)
    (hne : parts ++ tail ≠ []) (before : List (Expr × Expr)) :
    Derives rs (.branches before (caseOf (before ++ branches) default))
      ([.comma].intercalate (parts ++ tail) ++ [.rightParen]) := by
  induction h generalizing before with
  | nil =>
    cases default with
    | none =>
      obtain rfl : tail = [] := htail
      exact absurd rfl hne
    | some d =>
      obtain ⟨kv, rfl, hd⟩ := htail
      have hlast : Derives rs (.branches before (closeCase before _ _)) _ :=
        .lastBranch ((Derives.literal (.bool true)).looser (by decide)) hd
      simpa [closeCase, isDefaultMark] using hlast
  | @cons part b parts branches hpart hrest ih =>
    rw [List.forall_mem_cons] at hmark
    obtain ⟨kc, kv, rfl, hc, hv⟩ := hpart
    by_cases hmore : parts ++ tail = []
    · obtain ⟨rfl, rfl⟩ := List.append_eq_nil_iff.1 hmore
      cases hrest
      obtain rfl : default = none := by
        cases default with
        | none => rfl
        | some d =>
          obtain ⟨kv, hkv, -⟩ := htail
          cases hkv
      have hlast : Derives rs (.branches before (closeCase before _ _)) _ := .lastBranch hc hv
      simpa [closeCase, hmark.1] using hlast
    · have hnext := Derives.branch hmark.1 hc hv (ih hmark.2 hmore (before ++ [b]))
      rw [List.cons_append, List.intercalate_cons_of_ne_nil hmore]
      simpa using hnext

namespace Written

variable {rs : Resolvers} {l m : Level} {a b cs : List Char} {e x y : Expr}

theorem looser (h : Written rs l cs e) (hm : l.rank ≤ m.rank) : Written rs m cs e := by
  obtain ⟨ht, ks, hl, hd⟩ := h
  exact ⟨ht, ks, hl, hd.looser hm⟩

theorem parenthesized (h : Written rs l cs e) : Written rs .primary ('(' :: (cs ++ [')'])) e := by
  obtain ⟨-, ks, hl, hd⟩ := h.looser (m := .disjunction) (by cases l <;> decide)
  have hclose : Lexes [')'] [.rightParen] := .punctuation rfl (by decide) .nil
  refine ⟨.enclosed (by decide) (by decide) cs, _, .punctuation rfl (by decide)
    (hl.append hclose (boundary_cons (by decide) (by decide))), .parenthesized hd⟩

/-- The word of an operator between two texts. -/
theorem spaced {phrase : Expr} {k : Level} {w : String}
    (hw : IsIdentifier w) (ha : Written rs l a x)
    (hb : Written rs m b y)
    (h : ∀ {ka kb : List TokenKind}, Derives rs (.expr l x) ka → Derives rs (.expr m y) kb →
      Derives rs (.expr k phrase) (ka ++ .identifier w :: kb)) :
    Written rs k (a ++ (' ' :: (w.toList ++ (' ' :: b)))) phrase := by
  obtain ⟨hta, ka, hla, hda⟩ := ha
  obtain ⟨htb, kb, hlb, hdb⟩ := hb
  have hlex := hla.spaced hw.1 hlb
  rw [String.ofList_toList, hw.2] at hlex
  exact ⟨hta.spaced htb _, _, hlex, h hda hdb⟩

theorem connective (k : LogicalOp) (ha : Written rs (operandLevel k) a x)
    (hb : Written rs (connectiveLevel k) b y) :
    Written rs (connectiveLevel k) (a ++ (' ' :: ((logicalWord k).toList ++ (' ' :: b))))
      (.logical k [x, y]) :=
  spaced (by cases k <;> decide) ha hb fun hda hdb => .connective (by cases k <;> decide) hda hdb

theorem compare {op : ComparisonOp} {w : String} (hw : comparisonOf? w = some op)
    (ha : Written rs .sum a x) (hb : Written rs .sum b y) :
    Written rs .comparison (a ++ (' ' :: (w.toList ++ (' ' :: b)))) (comparisonOf op x y) :=
  spaced ((show ∀ v ∈ comparisonWords, IsIdentifier v by decide) w (mem_of_comparisonOf? hw)) ha hb
    fun hda hdb => .compare hw hda hdb

theorem isIdentifier_of_mem_arithmeticWords {w : String} (h : w ∈ arithmeticWords) :
    IsIdentifier w :=
  (show ∀ v ∈ arithmeticWords, IsIdentifier v by decide) w h

theorem chain {c : Chain} {op : ArithmeticOp} {w : String} (hw : c.operatorOf? w = some op)
    (ha : Written rs c.level a x) (hb : Written rs c.operand b y) :
    Written rs c.level (a ++ (' ' :: (w.toList ++ (' ' :: b)))) (.arithmetic op x y) :=
  spaced (isIdentifier_of_mem_arithmeticWords (Chain.mem_of_operatorOf? hw)) ha hb
    fun hda hdb => .chainMore hw hda hdb

theorem not (h : Written rs .negation cs e) :
    Written rs .negation ("not".toList ++ (' ' :: cs)) (.not e) := by
  obtain ⟨ht, ks, hl, hd⟩ := h
  have hlex := hl.wordBefore (w := "not".toList) (by decide)
  refine ⟨?_, _, hlex, .not (by decide) hd⟩
  exact (trimmed_of_isWord (show isWord "not".toList = true by decide)).append ht [' ']

/-! ### Literals and paths -/

theorem literal {value : Literal} (ht : Trimmed cs) (h : Lexes cs [.literal value]) :
    Written rs .primary cs (.literal value) :=
  ⟨ht, _, h, .literal value⟩

/-- The text of the segments of a path with slashes between them. -/
theorem lexes_path {name : String} {segments : List String}
    (h : ∀ s ∈ name :: segments, IsIdentifier s) :
    Lexes (['/'].intercalate ((name :: segments).map String.toList))
      (.identifier name :: segmentKinds segments) := by
  induction segments generalizing name with
  | nil => simpa [segmentKinds] using Lexes.identifier (h name List.mem_cons_self)
  | cons s segments ih =>
    have hlex := Lexes.identifier (h name List.mem_cons_self)
    have htail := ih fun s' hs' => h s' (List.mem_cons_of_mem name hs')
    have hslash : Lexes ('/' :: ['/'].intercalate ((s :: segments).map String.toList))
        (.slash :: .identifier s :: segmentKinds segments) := .punctuation rfl (by decide) htail
    have hboth := hlex.append hslash (boundary_cons (by decide) (by decide))
    simpa [segmentKinds] using hboth

theorem trimmed_path {name : String} {segments : List String}
    (h : ∀ s ∈ name :: segments, isWord s.toList = true) :
    Trimmed (['/'].intercalate ((name :: segments).map String.toList)) := by
  induction segments generalizing name with
  | nil => simpa using trimmed_of_isWord (h name List.mem_cons_self)
  | cons s segments ih =>
    have hname := trimmed_of_isWord (h name List.mem_cons_self)
    have htail := ih fun s' hs' => h s' (List.mem_cons_of_mem name hs')
    simpa using hname.append htail ['/']

theorem path {name : String} {segments : List String}
    (h : ∀ s ∈ name :: segments, IsIdentifier s)
    (hn : StartsOperand name) :
    Written rs .primary (['/'].intercalate ((name :: segments).map String.toList))
      (memberField ⟨rs, 0⟩ (name :: segments)) :=
  ⟨trimmed_path fun s hs => (h s hs).1, _, lexes_path h, .path hn⟩

/-! ### Calls -/

/-- A call of a name that is no keyword, whatever function it stands for. -/
theorem call {name : String} {texts : List (List Char)} {args : List Expr}
    (hword : IsIdentifier name)
    (hn : StartsOperand name) (hname : Text.asciiLower name ≠ "case")
    (h : List.Forall₂ (Written rs .disjunction) texts args)
    (he : rs.resolveMethod builtin ⟨Text.asciiLower name, args, false, none⟩ = .ok e) :
    Written rs .primary (name.toList ++ ('(' :: ([','].intercalate texts ++ [')']))) e := by
  obtain ⟨parts, hls, hds⟩ := exists_kinds (fun _ _ hta => hta.2) h
  have hlex := Lexes.identifier hword
  have hparen := Lexes.punctuation (c := '(') rfl (by decide) (Lexes.commas hls)
  refine ⟨?_, _, hlex.append hparen (boundary_cons (by decide) (by decide)),
    .call hn hname (.argumentList hds) he⟩
  exact (trimmed_of_isWord hword.1).append (trimmed_singleton (by decide))
    ('(' :: [','].intercalate texts)

/-! ### Conditionals -/

/-- The text of a branch: its condition and its value around a colon. -/
def Branch (rs : Resolvers) (cs : List Char) (branch : Expr × Expr) : Prop :=
  ∃ c v, cs = c ++ (':' :: v) ∧ Written rs .disjunction c branch.1 ∧
    Written rs .disjunction v branch.2

/-- The texts of a default branch: none, or one with the constant condition. -/
def Default (rs : Resolvers) (texts : List (List Char)) : Option Expr → Prop
  | none => texts = []
  | some e => ∃ v, texts = ["true".toList ++ (':' :: v)] ∧ Written rs .disjunction v e

theorem true_text : Written rs .primary "true".toList (.literal (.bool true)) :=
  .literal (trimmed_of_isWord (by decide)) (Lexes.word (by decide))

theorem Branch.kinds {cs : List Char} {branch : Expr × Expr} (h : Branch rs cs branch) :
    ∃ ks, Lexes cs ks ∧ Derives.Branch rs ks branch := by
  obtain ⟨c, v, rfl, ⟨-, kc, hlc, hdc⟩, ⟨-, kv, hlv, hdv⟩⟩ := h
  have hcolon := Lexes.punctuation (c := ':') rfl (by decide) hlv
  exact ⟨_, hlc.append hcolon (boundary_cons (by decide) (by decide)), kc, kv, rfl, hdc, hdv⟩

theorem Default.kinds {texts : List (List Char)} {default : Option Expr}
    (h : Default rs texts default) :
    ∃ parts, List.Forall₂ Lexes texts parts ∧ Derives.Default rs parts default := by
  cases default with
  | none =>
    obtain rfl : texts = [] := h
    exact ⟨[], .nil, rfl⟩
  | some e =>
    obtain ⟨v, rfl, -, kv, hlv, hdv⟩ := h
    have hcolon := Lexes.punctuation (c := ':') rfl (by decide) hlv
    have htrue : Lexes "true".toList [.literal (.bool true)] := Lexes.word (by decide)
    exact ⟨_, .cons (htrue.append hcolon (boundary_cons (by decide) (by decide))) .nil,
      kv, rfl, hdv⟩

/-- A conditional with branches, of which none has the constant condition, and a default. -/
theorem case {parts tail : List (List Char)} {branches : List (Expr × Expr)}
    {default : Option Expr} (h : List.Forall₂ (Branch rs) parts branches)
    (hmark : ∀ b ∈ branches, isDefaultMark b.1 = false) (htail : Default rs tail default)
    (hne : parts ++ tail ≠ []) :
    Written rs .primary ("case".toList ++ ('(' :: ([','].intercalate (parts ++ tail) ++ [')'])))
      (caseOf branches default) := by
  obtain ⟨kbranches, hlb, hdb⟩ := exists_kinds (fun _ _ hbranch => hbranch.kinds) h
  obtain ⟨kdefault, hld, hdd⟩ := htail.kinds
  have hall : List.Forall₂ Lexes (parts ++ tail) (kbranches ++ kdefault) :=
    List.rel_append hlb hld
  have hkinds : kbranches ++ kdefault ≠ [] := by
    intro hnil
    rw [hnil] at hall
    exact hne (List.forall₂_nil_right_iff.1 hall)
  have hlex := Lexes.word (show isWord "case".toList = true by decide)
  have hparen := Lexes.punctuation (c := '(') rfl (by decide) (Lexes.commas hall)
  refine ⟨?_, _, hlex.append hparen (boundary_cons (by decide) (by decide)),
    .case ⟨by decide, by decide⟩ (by decide) (Derives.branchList hdb hmark hdd hkinds [])⟩
  exact (trimmed_of_isWord (show isWord "case".toList = true by decide)).append
    (trimmed_singleton (by decide)) ('(' :: [','].intercalate (parts ++ tail))

end Written

/-! ### Reading texts -/

theorem tokenize_of_lexes {cs : List Char} {ks : List TokenKind} (h : Lexes cs ks) :
    ∃ ts, tokenize cs = .ok ts ∧ ts.map Token.kind = ks := by
  obtain ⟨ts, hts, hscan⟩ := h 0
  refine ⟨ts, ?_, hts⟩
  have hall := hscan [] boundary_nil
  rw [List.append_nil, scan_nil] at hall
  rw [tokenize, hall]
  simp [Except.map]

/-- A text that scans to the tokens of an expression is read as that expression. -/
theorem parseFilter_of_lexes {rs : Resolvers} {cs : List Char} {e : Expr} {ks : List TokenKind}
    (hl : Lexes cs ks) (hd : Derives rs (.expr .disjunction e) ks) :
    parseFilter rs cs = .ok e := by
  obtain ⟨ts, htokens, hts⟩ := tokenize_of_lexes hl
  have hread := expression_of_derives ⟨rs, Text.byteLength cs⟩ hd hts (.nil _)
  rw [List.append_nil] at hread
  simp only [OData.parseFilter, parseText, htokens, Except.mapError, hread, bind, Except.bind,
    Context.finish]

/-- A text that is written as an expression is read as that expression. -/
theorem Written.parseFilter {rs : Resolvers} {l : Level} {cs : List Char} {e : Expr}
    (h : Written rs l cs e) : parseFilter rs cs = .ok e := by
  obtain ⟨-, ks, hl, hd⟩ := h.looser (m := .disjunction) (by cases l <;> decide)
  exact parseFilter_of_lexes hl hd

end Polyquery.OData
