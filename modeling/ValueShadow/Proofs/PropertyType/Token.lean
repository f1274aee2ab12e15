import ValueShadow.PropertyType.Token
import ValueShadow.Proofs.Result

/-!
# Texts and their tokens

`Token.Spells` says which texts consist of which tokens: names that are as long as possible, the
three symbols, and blank characters anywhere around them. A text has tokens exactly if `Token.scan`
finds them (`Token.scan_eq_ok_iff`). No character is both blank and part of a name
(`Token.isNameChar_eq_false`), so it does not matter which of the two is asked first. The scan goes
on behind one token at a time: a symbol or a blank character (`Token.scanFrom_symbol`), or a whole
name (`Token.scanFrom_name`).
-/

namespace ValueShadow

open Text

namespace Text

theorem ascending_blankRanges : Ascending blankRanges := by
  simp [Ascending, blankRanges]

/-- No blank character is alphabetic or numeric. -/
theorem isAlphanumeric_eq_false {c : Char} (h : isBlankChar c = true) :
    isAlphanumeric c = false := by
  obtain ⟨range, hrange, hlow, hhigh⟩ := (inRanges_iff ascending_blankRanges).1 h
  have hnone : ∀ range ∈ blankRanges, ∀ n ∈ List.range' range.1 (range.2 + 1 - range.1),
      inRanges n alphabeticRanges = false ∧ inRanges n numericRanges = false := by
    decide +kernel
  obtain ⟨halphabetic, hnumeric⟩ :=
    hnone range hrange c.toNat (List.mem_range'_1.2 ⟨hlow, by omega⟩)
  rw [isAlphanumeric, isAlphabetic, isNumeric, halphabetic, hnumeric]
  rfl

end Text

namespace Token

/-- The text consists of the tokens, with blank characters anywhere between them and at the ends. No
name can be continued. -/
inductive Spells : List Char → List Token → Prop where
  | nil : Spells [] []
  | blank {c : Char} {rest : List Char} {tokens : List Token} :
      isBlankChar c = true → Spells rest tokens → Spells (c :: rest) tokens
  | opening {rest : List Char} {tokens : List Token} :
      Spells rest tokens → Spells ('<' :: rest) (.opening :: tokens)
  | closing {rest : List Char} {tokens : List Token} :
      Spells rest tokens → Spells ('>' :: rest) (.closing :: tokens)
  | comma {rest : List Char} {tokens : List Token} :
      Spells rest tokens → Spells (',' :: rest) (.comma :: tokens)
  | name {name rest : List Char} {tokens : List Token} :
      name ≠ [] → (∀ c ∈ name, isNameChar c = true) → (∀ c ∈ rest.head?, isNameChar c = false) →
      Spells rest tokens → Spells (name ++ rest) (.name (String.ofList name) :: tokens)

/-- No blank character is part of a name. -/
theorem isNameChar_eq_false {c : Char} (h : isBlankChar c = true) : isNameChar c = false := by
  have hother : c ≠ '_' ∧ c ≠ '$' ∧ c ≠ '.' := by
    refine ⟨?_, ?_, ?_⟩ <;> rintro rfl <;> revert h <;> decide
  simp [isNameChar, isAlphanumeric_eq_false h, hother]

/-- A blank character is no symbol. -/
theorem ofSymbol_of_isBlankChar {c : Char} (h : isBlankChar c = true) : ofSymbol c = .ok none := by
  have hother : c ≠ '<' ∧ c ≠ '>' ∧ c ≠ ',' := by
    refine ⟨?_, ?_, ?_⟩ <;> rintro rfl <;> revert h <;> decide
  simp [ofSymbol, h, hother]

/-- A character outside names is a symbol or blank, if it is anything. -/
theorem ofSymbol_cases {c : Char} {symbol : Option Token} (h : ofSymbol c = .ok symbol) :
    (c = '<' ∧ symbol = some .opening) ∨ (c = '>' ∧ symbol = some .closing) ∨
      (c = ',' ∧ symbol = some .comma) ∨ (isBlankChar c = true ∧ symbol = none) := by
  unfold ofSymbol at h
  split_ifs at h with hopening hclosing hcomma hblank
  all_goals cases h
  · exact .inl ⟨hopening, rfl⟩
  · exact .inr (.inl ⟨hclosing, rfl⟩)
  · exact .inr (.inr (.inl ⟨hcomma, rfl⟩))
  · exact .inr (.inr (.inr ⟨hblank, rfl⟩))

/-- No character is both part of a name and a symbol or blank. -/
theorem isNameChar_of_ofSymbol {c : Char} {symbol : Option Token} (h : ofSymbol c = .ok symbol) :
    isNameChar c = false := by
  rcases ofSymbol_cases h with ⟨rfl, -⟩ | ⟨rfl, -⟩ | ⟨rfl, -⟩ | ⟨hblank, -⟩
  · decide
  · decide
  · decide
  · exact isNameChar_eq_false hblank

/-- Only the empty list of tokens is spelled by the empty text. -/
theorem spells_nil_iff {tokens : List Token} : Spells [] tokens ↔ tokens = [] := by
  constructor
  · intro h
    generalize htext : [] = text at h
    cases h with
    | nil => rfl
    | blank | opening | closing | comma => cases htext
    | name hne => exact absurd (List.append_eq_nil_iff.1 htext.symm).1 hne
  · rintro rfl
    exact .nil

/-- Blank characters may stand in front of a text. -/
theorem Spells.behind_gap {gap text : List Char} {tokens : List Token}
    (hgap : ∀ c ∈ gap, isBlankChar c = true) (h : Spells text tokens) :
    Spells (gap ++ text) tokens := by
  induction gap with
  | nil => exact h
  | cons c gap ih =>
    obtain ⟨hc, hgap⟩ := List.forall_mem_cons.1 hgap
    exact .blank hc (ih hgap)

/-- A text that is blank has no tokens. -/
theorem spells_of_isBlank {text : List Char} (h : ∀ c ∈ text, isBlankChar c = true) :
    Spells text [] := by
  have hspells := Spells.nil.behind_gap h
  rwa [List.append_nil] at hspells

/-- A text that does not start with a part of a name starts with a symbol or a blank character. -/
theorem spells_cons_iff {c : Char} {rest : List Char} {tokens : List Token}
    (hc : isNameChar c = false) :
    Spells (c :: rest) tokens ↔
      ∃ symbol tokens', ofSymbol c = .ok symbol ∧ Spells rest tokens' ∧
        tokens = symbol.toList ++ tokens' := by
  constructor
  · intro h
    generalize htext : c :: rest = text at h
    cases h with
    | nil => cases htext
    | blank hblank hrest =>
      cases htext
      exact ⟨none, _, ofSymbol_of_isBlankChar hblank, hrest, rfl⟩
    | opening hrest =>
      cases htext
      exact ⟨some .opening, _, rfl, hrest, rfl⟩
    | closing hrest =>
      cases htext
      exact ⟨some .closing, _, rfl, hrest, rfl⟩
    | comma hrest =>
      cases htext
      exact ⟨some .comma, _, rfl, hrest, rfl⟩
    | @name name _ _ hne hname =>
      cases name with
      | nil => exact absurd rfl hne
      | cons first others =>
        cases htext
        rw [hname c (.head _)] at hc
        cases hc
  · rintro ⟨symbol, tokens', hsymbol, hrest, rfl⟩
    obtain ⟨rfl, rfl⟩ | ⟨rfl, rfl⟩ | ⟨rfl, rfl⟩ | ⟨hblank, rfl⟩ := ofSymbol_cases hsymbol
    · exact .opening hrest
    · exact .closing hrest
    · exact .comma hrest
    · exact .blank hblank hrest

/-- A run of name characters that cannot be continued is the longest one at the start of a text. -/
theorem takeWhile_isNameChar {name rest : List Char} (hname : ∀ c ∈ name, isNameChar c = true)
    (hrest : ∀ c ∈ rest.head?, isNameChar c = false) :
    (name ++ rest).takeWhile isNameChar = name := by
  rw [List.takeWhile_append_of_pos hname]
  cases rest with
  | nil => rw [List.takeWhile_nil, List.append_nil]
  | cons c rest =>
    have hc : isNameChar c = false := hrest c rfl
    rw [List.takeWhile_cons_of_neg (by simp [hc]), List.append_nil]

/-- A run of name characters that cannot be continued is one name, unless it is empty. -/
theorem spells_append_iff {name rest : List Char} {tokens : List Token}
    (hname : ∀ c ∈ name, isNameChar c = true) (hrest : ∀ c ∈ rest.head?, isNameChar c = false) :
    Spells (name ++ rest) tokens ↔
      ∃ tokens', Spells rest tokens' ∧ tokens = afterName name tokens' := by
  cases name with
  | nil => simp [afterName]
  | cons first others =>
    have hfirst := hname first (.head _)
    constructor
    · intro h
      generalize htext : first :: others ++ rest = text at h
      cases h with
      | nil => cases htext
      | blank hblank =>
        cases htext
        cases hfirst.symm.trans (isNameChar_eq_false hblank)
      | opening | closing | comma =>
        cases htext
        exact absurd hfirst (by decide)
      | @name name' rest' tokens' hne hname' hrest' htokens =>
        -- Both runs are the longest one, so they are the same.
        have hsame := takeWhile_isNameChar hname' hrest'
        rw [← htext, takeWhile_isNameChar hname hrest] at hsame
        subst hsame
        obtain rfl := List.append_cancel_left htext
        exact ⟨tokens', htokens, rfl⟩
    · rintro ⟨tokens', htokens, rfl⟩
      exact .name (List.cons_ne_nil _ _) hname hrest htokens

/-- The tokens that are found after a part of a name are those of the part and the text together. -/
theorem scanFrom_eq_ok_iff {name text : List Char} {tokens : List Token}
    (hname : ∀ c ∈ name, isNameChar c = true) :
    scanFrom name text = .ok tokens ↔ Spells (name ++ text) tokens := by
  induction text generalizing name tokens with
  | nil =>
    rw [spells_append_iff hname (by simp), scanFrom]
    simp only [spells_nil_iff, exists_eq_left, Except.ok.injEq, eq_comm]
  | cons c text ih =>
    cases hc : isNameChar c with
    | true =>
      have hname' : ∀ c' ∈ name ++ [c], isNameChar c' = true := by
        intro c' hc'
        rcases List.mem_append.1 hc' with hold | hnew
        · exact hname c' hold
        · rw [List.mem_singleton.1 hnew, hc]
      rw [scanFrom, if_pos hc, ih hname', List.append_assoc, List.singleton_append]
    | false =>
      rw [scanFrom, if_neg (by simp [hc]), spells_append_iff hname (by simpa using hc), bind_eq_ok]
      simp only [spells_cons_iff hc]
      constructor
      · rintro ⟨symbol, hsymbol, h⟩
        obtain ⟨tokens', hscan, h⟩ := bind_eq_ok.1 h
        cases h
        exact ⟨_, ⟨symbol, tokens', hsymbol, (ih (by simp)).1 hscan, rfl⟩, rfl⟩
      · rintro ⟨_, ⟨symbol, tokens', hsymbol, hspells, rfl⟩, rfl⟩
        exact ⟨symbol, hsymbol, bind_eq_ok.2 ⟨tokens', (ih (by simp)).2 hspells, rfl⟩⟩

/-- The tokens that are found in a text are those that it consists of, and a text without tokens is
refused. -/
theorem scan_eq_ok_iff {text : String} {tokens : List Token} :
    scan text = .ok tokens ↔ Spells text.toList tokens :=
  scanFrom_eq_ok_iff (by simp)

/-! ## Scanning token by token -/

/-- Name characters go on with the name that ends before them. -/
theorem scanFrom_append {name run : List Char} (h : ∀ c ∈ run, isNameChar c = true)
    (rest : List Char) : scanFrom name (run ++ rest) = scanFrom (name ++ run) rest := by
  induction run generalizing name with
  | nil => rw [List.nil_append, List.append_nil]
  | cons c run ih =>
    obtain ⟨hc, hrun⟩ := List.forall_mem_cons.1 h
    rw [List.cons_append, scanFrom, if_pos hc, ih hrun, List.append_assoc, List.singleton_append]

/-- A name that cannot be continued is a token in front of those behind it. -/
theorem scanFrom_of_head? {rest : List Char} (h : ∀ c ∈ rest.head?, isNameChar c = false)
    (name : List Char) : scanFrom name rest = (scanFrom [] rest).map (afterName name) := by
  cases rest with
  | nil => rfl
  | cons c rest =>
    have hc : isNameChar c = false := h c rfl
    rw [scanFrom, scanFrom, if_neg (by simp [hc]), if_neg (by simp [hc])]
    cases ofSymbol c with
    | error problem => rfl
    | ok symbol =>
      cases scanFrom [] rest with
      | error problem => rfl
      | ok tokens => rfl

/-- A symbol or a blank character is looked at on its own. -/
theorem scanFrom_symbol {c : Char} {symbol : Option Token} (h : ofSymbol c = .ok symbol)
    (rest : List Char) :
    scanFrom [] (c :: rest) = (scanFrom [] rest).map (symbol.toList ++ ·) := by
  rw [scanFrom, if_neg (by simp [isNameChar_of_ofSymbol h]), h]
  cases scanFrom [] rest with
  | error problem => rfl
  | ok tokens => rfl

/-- A name that cannot be continued is the first token. -/
theorem scanFrom_name {name rest : List Char} (hne : name ≠ [])
    (hname : ∀ c ∈ name, isNameChar c = true) (hrest : ∀ c ∈ rest.head?, isNameChar c = false) :
    scanFrom [] (name ++ rest) = (scanFrom [] rest).map (.name (String.ofList name) :: ·) := by
  have hafter : afterName name = (.name (String.ofList name) :: ·) := by
    funext tokens
    rw [afterName, if_neg (by simpa using hne)]
  rw [scanFrom_append hname, List.nil_append, scanFrom_of_head? hrest, hafter]

end Token

end ValueShadow
