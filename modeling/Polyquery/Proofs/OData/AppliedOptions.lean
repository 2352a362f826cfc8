import Polyquery.Proofs.OData.ClauseReading

/-!
# Options that are applied in turn

* `Applied` - options whose values may stand in an expansion, and the node they lead to;
* `applyOptions_of_applied` - the same node from options given as names and values;
* `nodeOptions_of_applied` - the same node from the text of the options in an expansion.
-/

namespace Polyquery.OData

/-- Options are applied in turn and lead from one node to another. -/
inductive Applied (rs : Resolvers) (expansions : List Char → QueryResult (List Node)) :
    Node → Options → Node → Prop where
  | nil {n : Node} : Applied rs expansions n [] n
  | cons {n n' m : Node} {key : String} {value : OptionValue} {rest : Options} {name : OptionName} :
      IsIdentifier key → OptionName.ofText? key = some name → IsValue value.toText.toList →
      n.setOption rs expansions name value.toText.toList = (n', .ok ()) →
      Applied rs expansions n' rest m → Applied rs expansions n ((key, value) :: rest) m

namespace Applied

variable {rs : Resolvers} {expansions : List Char → QueryResult (List Node)} {n n' m : Node}
  {options more : Options}

theorem one {key : String} {value : OptionValue} {name : OptionName} (hkey : IsIdentifier key)
    (hname : OptionName.ofText? key = some name) (hvalue : IsValue value.toText.toList)
    (hset : n.setOption rs expansions name value.toText.toList = (m, .ok ())) :
    Applied rs expansions n [(key, value)] m := .cons hkey hname hvalue hset .nil

theorem append (h : Applied rs expansions n options n') (h' : Applied rs expansions n' more m) :
    Applied rs expansions n (options ++ more) m := by
  induction h with
  | nil => exact h'
  | cons hkey hname hvalue hset _ ih => exact .cons hkey hname hvalue hset (ih h')

end Applied

/-! ### Options of a query -/

/-- Options given as names and values are applied. -/
theorem applyOptions_of_applied {r : Reader} {n m : Node} {options : Options}
    (h : Applied r.resolvers r.parseExpand n options m) :
    r.applyOptions n (options.map fun o => (o.1, o.2.toText)) = .ok m := by
  induction h with
  | nil => rfl
  | @cons n n' m key value rest name hkey hname _ hset _ ih =>
    have htrim : String.ofList (Text.trim key.toList) = key := by
      rw [trim_of_trimmed (trimmed_of_isWord hkey.1), String.ofList_toList]
    have happly : r.applyOption n key value.toText = (n', .ok true) := by
      simp only [Reader.applyOption, htrim, hname, hset, Except.map]
    rw [List.map_cons, Reader.applyOptions, happly]
    exact ih

/-! ### Options of an expansion -/

/-- The text of an option in an expansion. -/
def optionChars (o : String × OptionValue) : List Char :=
  o.1.toList ++ ('=' :: o.2.toText.toList)

/-- The text of options in an expansion, with the closing parenthesis. -/
def closedOptions (options : Options) : List Char :=
  [';'].intercalate (options.map optionChars) ++ [')']

theorem closedOptions_singleton (key : String) (value : OptionValue) :
    closedOptions [(key, value)] = key.toList ++ ('=' :: (value.toText.toList ++ [')'])) := by
  simp [closedOptions, optionChars]

theorem closedOptions_cons (key : String) (value : OptionValue) (o : String × OptionValue)
    (rest : Options) :
    closedOptions ((key, value) :: o :: rest)
      = key.toList ++ ('=' :: (value.toText.toList ++ (';' :: closedOptions (o :: rest)))) := by
  simp [closedOptions, optionChars]

/-- The tokens of options are passed over up to the closing parenthesis. -/
theorem lexes_closedOptions {rs : Resolvers} {expansions : List Char → QueryResult (List Node)}
    {n m : Node} {options : Options} (h : Applied rs expansions n options m) (hne : options ≠ []) :
    ∃ ks, Lexes (closedOptions options) ks ∧ Balances 1 0 ks := by
  induction h with
  | nil => exact absurd rfl hne
  | @cons n n' m key value rest name hkey _ hvalue _ _ ih =>
    obtain ⟨-, kv, hlv, hbv⟩ := hvalue
    -- a key, an equals sign, a value, and what ends the value
    have hoption : ∀ {c : Char} {k : TokenKind} {tail : List Char} {kt : List TokenKind},
        punctuation? c = some k → Text.isBlank c = false → Boundary (c :: tail) → Lexes tail kt →
        Balances 1 0 (k :: kt) →
        ∃ ks, Lexes (key.toList ++ ('=' :: (value.toText.toList ++ (c :: tail)))) ks ∧
          Balances 1 0 ks := by
      intro c k tail kt hc hb hboundary htail hbalances
      have hv := hlv.append (.punctuation hc hb htail) hboundary
      have hequals := Lexes.punctuation (c := '=') rfl (by decide) hv
      refine ⟨_, (Lexes.identifier hkey).append hequals (boundary_cons (by decide) (by decide)), ?_⟩
      have hpass : Balances 1 1 [.equals] := .plain (by simp) (by simp) (by simp)
      exact (Balances.word key).cons (hpass.cons (hbv.deeper.append hbalances))
    cases rest with
    | nil =>
      rw [closedOptions_singleton]
      exact hoption rfl (by decide) (boundary_cons (by decide) (by decide)) .nil .closing
    | cons o rest =>
      obtain ⟨ks, hl, hb⟩ := ih (List.cons_ne_nil o rest)
      rw [closedOptions_cons]
      exact hoption rfl (by decide) (boundary_cons (by decide) (by decide)) hl
        (Balances.semicolon.cons hb)

/-- The tokens of an option: its key, an equals sign, its value, and the token that ends it. -/
theorem scan_option {key : String} {value : List Char} {c : Char} {k : TokenKind}
    {tail : List Char} (hkey : IsIdentifier key) (hvalue : IsValue value)
    (hc : punctuation? c = some k) (hb : Text.isBlank c = false) (hboundary : Boundary (c :: tail))
    {pos : Nat} {ts : List Token}
    (h : scan pos (key.toList ++ ('=' :: (value ++ (c :: tail)))) = .ok ts) :
    ∃ t te tv tc ts', t.kind = .identifier key ∧ te.kind = .equals ∧
      scan (pos + Text.byteLength key.toList + '='.utf8Size) value = .ok tv ∧ tc.kind = k ∧
      scan (pos + Text.byteLength key.toList + '='.utf8Size + Text.byteLength value + c.utf8Size)
        tail = .ok ts' ∧
      ts = t :: te :: (tv ++ tc :: ts') := by
  obtain ⟨-, kv, hlv, -⟩ := hvalue
  have hlk := Lexes.identifier hkey
  obtain ⟨tk, ta, htk, hta, rfl⟩ := scan_parts hlk (boundary_cons (by decide) (by decide)) h
  obtain ⟨t, rfl, ht⟩ := List.map_eq_singleton_iff.1 (hlk.kinds htk)
  obtain ⟨te, tb, hte, htb, rfl⟩ := scan_punctuation rfl (by decide) hta
  obtain ⟨tv, td, htv, htd, rfl⟩ := scan_parts hlv hboundary htb
  obtain ⟨tc, ts', htc, hts', rfl⟩ := scan_punctuation hc hb htd
  exact ⟨t, te, tv, tc, ts', ht, hte, htv, htc, hts', rfl⟩

/-- The value of an option stands behind its key and the equals sign. -/
theorem slice_value {source : List Char} (before : List Char) (key : String)
    (value tail : List Char)
    (h : source = before ++ (key.toList ++ ('=' :: (value ++ tail)))) :
    Text.slice (Text.byteLength before + Text.byteLength key.toList + '='.utf8Size)
      (Text.byteLength before + Text.byteLength key.toList + '='.utf8Size + Text.byteLength value)
      source = value := by
  have hparts : source = (before ++ (key.toList ++ ['='])) ++ (value ++ tail) := by
    rw [h]
    simp
  have hlength : Text.byteLength (before ++ (key.toList ++ ['=']))
      = Text.byteLength before + Text.byteLength key.toList + '='.utf8Size := by
    simp [Nat.add_assoc]
  rw [hparts, ← hlength]
  exact Text.slice_append _ _ _

section OneOption

variable {rs : Resolvers} {expansions : List Char → QueryResult (List Node)} (ctx : Context)
  {source value : List Char} {n n' : Node} {key : String} {name : OptionName} {t te tc : Token}
  {tv : List Token} {pos : Nat} (ht : t.kind = .identifier key) (hte : te.kind = .equals)
  (hvalue : IsValue value) (htv : scan pos value = .ok tv)
  (hslice : Text.slice pos (pos + Text.byteLength value) source = value)
  (hname : OptionName.ofText? key = some name)
  (hset : n.setOption rs expansions name value = (n', .ok ()))

include ht hte hvalue htv hslice hname hset

/-- An option in front of others is read and applied. -/
theorem nodeOptions_more (htc : tc.kind = .semicolon) (fuel : Nat) (rest : List Token) :
    nodeOptions ctx source (fun n => n.setOption rs expansions) (fuel + 1) n
        (t :: te :: (tv ++ tc :: rest))
      = nodeOptions ctx source (fun n => n.setOption rs expansions) fuel n' rest := by
  have hspan := optionValue_of_isValue ctx hvalue htv (.inl htc) rest
  simp only [nodeOptions, identifier_of_word ctx ht, expect_of_eq ctx hte, hspan, hname, hslice,
    hset, eat?_of_eq htc, bind, Except.bind]

/-- The last option is read and applied. -/
theorem nodeOptions_last (htc : tc.kind = .rightParen) (fuel : Nat) (rest : List Token) :
    nodeOptions ctx source (fun n => n.setOption rs expansions) (fuel + 1) n
        (t :: te :: (tv ++ tc :: rest))
      = .ok (n', rest) := by
  have hspan := optionValue_of_isValue ctx hvalue htv (.inr htc) rest
  have hmore : eat? .semicolon (tc :: rest) = none := eat?_of_ne (by simp [htc])
  simp only [nodeOptions, identifier_of_word ctx ht, expect_of_eq ctx hte, hspan, hname, hslice,
    hset, hmore, expect_of_eq ctx htc, bind, Except.bind]

end OneOption

/-- The options of an expansion are applied, and read up to the closing parenthesis. -/
theorem nodeOptions_of_applied {rs : Resolvers} {expansions : List Char → QueryResult (List Node)}
    {n m : Node} {options : Options} (h : Applied rs expansions n options m) (hne : options ≠ [])
    (ctx : Context) {source before after : List Char}
    (hsource : source = before ++ (closedOptions options ++ after)) {ts : List Token}
    (hts : scan (Text.byteLength before) (closedOptions options) = .ok ts) :
    options.length ≤ ts.length ∧ ∀ fuel more, options.length ≤ fuel →
      nodeOptions ctx source (fun n => n.setOption rs expansions) fuel n (ts ++ more)
        = .ok (m, more) := by
  induction h generalizing before ts with
  | nil => exact absurd rfl hne
  | @cons n n' m key value rest name hkey hname hvalue hset hrest ih =>
    cases rest with
    | nil =>
      cases hrest
      rw [closedOptions_singleton] at hts hsource
      obtain ⟨t, te, tv, tc, ts', ht, hte, htv, htc, hts', rfl⟩ := scan_option hkey hvalue
        (k := .rightParen) rfl (by decide) (boundary_cons (by decide) (by decide)) hts
      rw [scan_nil] at hts'
      cases hts'
      refine ⟨by simp, ?_⟩
      intro fuel more hfuel
      cases fuel with
      | zero => exact absurd hfuel (by simp)
      | succ fuel =>
        have hsplit : source
            = before ++ (key.toList ++ ('=' :: (value.toText.toList ++ (')' :: after)))) := by
          rw [hsource]
          simp
        have htokens : t :: te :: (tv ++ [tc]) ++ more = t :: te :: (tv ++ tc :: more) := by simp
        rw [htokens]
        exact nodeOptions_last ctx ht hte hvalue htv (slice_value before key _ _ hsplit) hname hset
          htc fuel more
    | cons o rest =>
      rw [closedOptions_cons] at hts hsource
      obtain ⟨t, te, tv, tc, ts', ht, hte, htv, htc, hts', rfl⟩ := scan_option hkey hvalue
        (k := .semicolon) rfl (by decide) (boundary_cons (by decide) (by decide)) hts
      -- the other options start behind the semicolon
      have hlength :
          Text.byteLength (before ++ (key.toList ++ ('=' :: (value.toText.toList ++ [';']))))
          = Text.byteLength before + Text.byteLength key.toList + '='.utf8Size
            + Text.byteLength value.toText.toList + ';'.utf8Size := by
        simp [Nat.add_assoc]
      rw [← hlength] at hts'
      obtain ⟨hcount, hmore⟩ := ih (List.cons_ne_nil o rest) (by rw [hsource]; simp) hts'
      refine ⟨?_, ?_⟩
      · simp only [List.length_cons, List.length_append] at hcount ⊢
        omega
      intro fuel more hfuel
      cases fuel with
      | zero => exact absurd hfuel (by simp)
      | succ fuel =>
        have hsplit : source = before ++ (key.toList ++ ('=' :: (value.toText.toList ++
            (';' :: (closedOptions (o :: rest) ++ after))))) := by
          rw [hsource]
          simp
        have htokens : t :: te :: (tv ++ tc :: ts') ++ more
            = t :: te :: (tv ++ tc :: (ts' ++ more)) := by simp
        rw [htokens, nodeOptions_more ctx ht hte hvalue htv (slice_value before key _ _ hsplit)
          hname hset htc fuel (ts' ++ more)]
        exact hmore fuel more (by simpa using hfuel)

end Polyquery.OData
