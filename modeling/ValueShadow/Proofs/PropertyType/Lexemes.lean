import ValueShadow.Proofs.PropertyType.Cutting
import ValueShadow.Proofs.PropertyType.Parser
import Mathlib.Logic.Relation

/-!
# What the tokens keep of a text

A text is refused for its first character that is no symbol, not blank and no part of a name
(`Token.scanFrom_eq_error_iff`). The tokens of any other text are the text without its blank
characters (`Token.Spells.toList_join`). Each name among them is a longest run of name characters
(`Token.Spells.exists_run`), and names that follow each other have blank characters between them in
the text (`Token.Spells.exists_gap`). Blank characters around a symbol or at the ends make no
difference (`Token.SameButBlanks.scanFrom_eq`).
-/

namespace ValueShadow

open Text

/-- The problem is that of the character: an array, a wildcard, or the character itself. -/
inductive TypeProblem.Blames : TypeProblem → Char → Prop where
  | openingBracket : Blames .array '['
  | closingBracket : Blames .array ']'
  | questionMark : Blames .wildcard '?'
  | other {c : Char} : c ≠ '[' → c ≠ ']' → c ≠ '?' → Blames (.unexpectedChar c) c

/-- Every character has a problem of its own. -/
theorem TypeProblem.exists_blames (c : Char) : ∃ problem : TypeProblem, problem.Blames c := by
  by_cases hopening : c = '['
  · exact ⟨.array, hopening ▸ .openingBracket⟩
  by_cases hclosing : c = ']'
  · exact ⟨.array, hclosing ▸ .closingBracket⟩
  by_cases hquestion : c = '?'
  · exact ⟨.wildcard, hquestion ▸ .questionMark⟩
  · exact ⟨.unexpectedChar c, .other hopening hclosing hquestion⟩

namespace Token

/-! ## Refused texts -/

/-- The character is one of the three symbols. -/
def IsSymbol (c : Char) : Prop := c = '<' ∨ c = '>' ∨ c = ','

/-- The character can stand in a text that has tokens. -/
def IsTokenChar (c : Char) : Prop := IsSymbol c ∨ isBlankChar c = true ∨ isNameChar c = true

instance (c : Char) : Decidable (IsSymbol c) := inferInstanceAs (Decidable (_ ∨ _ ∨ _))

instance (c : Char) : Decidable (IsTokenChar c) := inferInstanceAs (Decidable (_ ∨ _ ∨ _))

/-- No symbol is part of a name. -/
theorem IsSymbol.isNameChar_eq_false {c : Char} (h : IsSymbol c) : isNameChar c = false := by
  rcases h with rfl | rfl | rfl <;> decide

/-- A character outside names can stand in a text exactly if it is a symbol or blank. -/
theorem exists_ofSymbol_iff {c : Char} (hc : isNameChar c = false) :
    (∃ symbol, ofSymbol c = .ok symbol) ↔ IsTokenChar c := by
  refine ⟨fun ⟨symbol, hsymbol⟩ => ?_, fun h => ?_⟩
  · rcases ofSymbol_cases hsymbol with ⟨hc, -⟩ | ⟨hc, -⟩ | ⟨hc, -⟩ | ⟨hblank, -⟩
    · exact .inl (.inl hc)
    · exact .inl (.inr (.inl hc))
    · exact .inl (.inr (.inr hc))
    · exact .inr (.inl hblank)
  · rcases h with (rfl | rfl | rfl) | hblank | hname
    · exact ⟨_, rfl⟩
    · exact ⟨_, rfl⟩
    · exact ⟨_, rfl⟩
    · exact ⟨_, ofSymbol_of_isBlankChar hblank⟩
    · cases hc.symm.trans hname

/-- A character outside names is refused if it cannot stand in a text, with its own problem. -/
theorem ofSymbol_eq_error_iff {c : Char} {problem : TypeProblem} (hc : isNameChar c = false) :
    ofSymbol c = .error problem ↔ ¬ IsTokenChar c ∧ problem.Blames c := by
  refine ⟨fun h => ⟨?_, ?_⟩, fun ⟨hbad, hblames⟩ => ?_⟩
  · rw [← exists_ofSymbol_iff hc, h]
    rintro ⟨symbol, hsymbol⟩
    cases hsymbol
  · unfold ofSymbol at h
    split_ifs at h with _ _ _ _ hbracket hquestion
    all_goals cases h
    · rcases hbracket with rfl | rfl
      · exact .openingBracket
      · exact .closingBracket
    · subst hquestion
      exact .questionMark
    · rw [not_or] at hbracket
      exact .other hbracket.1 hbracket.2 hquestion
  · cases hblames with
    | openingBracket | closingBracket | questionMark => rfl
    | other hopening hclosing hquestion =>
      simp only [IsTokenChar, IsSymbol, not_or] at hbad
      simp [ofSymbol, hbad, hopening, hclosing, hquestion]

/-- A text is refused for its first character that cannot stand in it, and for nothing else. -/
theorem scanFrom_eq_error_iff {name text : List Char} {problem : TypeProblem} :
    scanFrom name text = .error problem ↔
      ∃ c, FirstFailing IsTokenChar text c ∧ problem.Blames c := by
  induction text generalizing name with
  | nil => simp [scanFrom, not_firstFailing_nil]
  | cons c text ih =>
    cases hc : isNameChar c with
    | true =>
      have htoken : IsTokenChar c := .inr (.inr hc)
      rw [scanFrom, if_pos hc, ih]
      simp only [firstFailing_cons_of_good htoken]
    | false =>
      rw [scanFrom, if_neg (by simp [hc]), bind_eq_error, ofSymbol_eq_error_iff hc]
      by_cases htoken : IsTokenChar c
      · obtain ⟨symbol, hsymbol⟩ := (exists_ofSymbol_iff hc).2 htoken
        simp only [firstFailing_cons_of_good htoken, htoken, hsymbol, ← @ih []]
        simp [bind_eq_error, pure, Except.pure]
      · have hnone : ∀ symbol, ofSymbol c ≠ .ok symbol :=
          fun symbol hsymbol => htoken ((exists_ofSymbol_iff hc).1 ⟨symbol, hsymbol⟩)
        simp [firstFailing_cons_of_not_good htoken, htoken, hnone]

/-- A text is refused exactly if some character cannot stand in it. -/
theorem exists_scan_eq_error_iff {text : String} :
    (∃ problem, scan text = .error problem) ↔ ∃ c ∈ text.toList, ¬ IsTokenChar c := by
  refine ⟨fun ⟨problem, h⟩ => ?_, fun ⟨c, hc, hbad⟩ => ?_⟩
  · obtain ⟨c, hfirst, -⟩ := scanFrom_eq_error_iff.1 h
    exact ⟨c, hfirst.mem, hfirst.not_good⟩
  · rcases forall_or_exists_firstFailing IsTokenChar text.toList with hall | ⟨first, hfirst⟩
    · exact absurd (hall c hc) hbad
    · obtain ⟨problem, hblames⟩ := TypeProblem.exists_blames first
      exact ⟨problem, scanFrom_eq_error_iff.2 ⟨first, hfirst, hblames⟩⟩

/-! ## Where a token ends -/

/-- The token can end where the text goes on like this: a name only where it cannot be continued. -/
inductive EndsAt : Token → List Char → Prop where
  | opening {rest : List Char} : EndsAt .opening rest
  | closing {rest : List Char} : EndsAt .closing rest
  | comma {rest : List Char} : EndsAt .comma rest
  | name {name : String} {rest : List Char} :
      name ≠ "" → (∀ c ∈ name.toList, isNameChar c = true) →
      (∀ c ∈ rest.head?, isNameChar c = false) → EndsAt (.name name) rest

/-- Only the next character matters for where a token ends. -/
theorem EndsAt.of_append {token : Token} {rest after : List Char}
    (h : token.EndsAt (rest ++ after)) : token.EndsAt rest := by
  cases h with
  | opening => exact .opening
  | closing => exact .closing
  | comma => exact .comma
  | name hne hchars hend =>
    cases rest with
    | nil => exact .name hne hchars (by simp)
    | cons c rest => exact .name hne hchars hend

/-- A token in front of a name is a symbol. -/
theorem EndsAt.isNameChar_getLast? {token : Token} {c : Char} {rest : List Char}
    (h : token.EndsAt (c :: rest)) (hc : isNameChar c = true) (gap : List Char) :
    ∀ last ∈ (gap ++ token.text.toList).getLast?, isNameChar last = false := by
  cases h with
  | opening | closing | comma =>
    intro last hlast
    rw [List.getLast?_append_of_ne_nil _ (by decide)] at hlast
    simp only [Token.text] at hlast
    cases hlast
    decide
  | name _ _ hend => cases hc.symm.trans (hend c rfl)

/-- A text with a first token is blank up to this token, which ends where the text goes on with the
other tokens. -/
theorem Spells.exists_first {text : List Char} {token : Token} {tokens : List Token}
    (h : Spells text (token :: tokens)) :
    ∃ gap rest, text = gap ++ (token.text.toList ++ rest) ∧
      (∀ c ∈ gap, isBlankChar c = true) ∧ token.EndsAt rest ∧ Spells rest tokens := by
  generalize htokens : token :: tokens = all at h
  induction h with
  | nil => cases htokens
  | blank hblank _ ih =>
    obtain ⟨gap, rest, rfl, hgap, hend, hrest⟩ := ih htokens
    exact ⟨_ :: gap, rest, rfl, List.forall_mem_cons.2 ⟨hblank, hgap⟩, hend, hrest⟩
  | opening hrest =>
    cases htokens
    exact ⟨[], _, rfl, by simp, .opening, hrest⟩
  | closing hrest =>
    cases htokens
    exact ⟨[], _, rfl, by simp, .closing, hrest⟩
  | comma hrest =>
    cases htokens
    exact ⟨[], _, rfl, by simp, .comma, hrest⟩
  | name hne hchars hend hrest =>
    cases htokens
    refine ⟨[], _, by simp [Token.text], by simp, .name ?_ ?_ hend, hrest⟩
    · simpa using hne
    · simpa using hchars

/-- A token that ends where the text goes on stands in front of the tokens behind it. -/
theorem EndsAt.spells {token : Token} {rest : List Char} {tokens : List Token}
    (h : token.EndsAt rest) (hrest : Spells rest tokens) :
    Spells (token.text.toList ++ rest) (token :: tokens) := by
  cases h with
  | opening => exact .opening hrest
  | closing => exact .closing hrest
  | comma => exact .comma hrest
  | name hne hchars hend =>
    have hspells := Spells.name (by simpa using hne) hchars hend hrest
    rwa [String.ofList_toList] at hspells

/-! ## The text of the tokens -/

/-- Nothing in a name is blank. -/
theorem filter_name {name : List Char} (h : ∀ c ∈ name, isNameChar c = true) :
    name.filter (!isBlankChar ·) = name := by
  refine List.filter_eq_self.2 fun c hc => ?_
  cases hblank : isBlankChar c with
  | false => rfl
  | true => cases (h c hc).symm.trans (isNameChar_eq_false hblank)

/-- The tokens one behind the other are the text without its blank characters. -/
theorem Spells.toList_join {text : List Char} {tokens : List Token} (h : Spells text tokens) :
    (String.join (tokens.map Token.text)).toList = text.filter (!isBlankChar ·) := by
  induction h with
  | nil => rfl
  | blank hblank _ ih => rw [ih, List.filter_cons_of_neg (by simp [hblank])]
  | opening _ ih | closing _ ih | comma _ ih =>
    rw [List.map_cons, String.join_cons, String.toList_append, ih]
    rfl
  | name _ hchars _ _ ih =>
    rw [List.map_cons, String.join_cons, String.toList_append, ih, List.filter_append,
      filter_name hchars, Token.text, String.toList_ofList]

/-- The name is a longest run of name characters between the two texts. -/
structure IsRun (before name after : List Char) : Prop where
  nonempty : name ≠ []
  chars : ∀ c ∈ name, isNameChar c = true
  start : ∀ c ∈ before.getLast?, isNameChar c = false
  stop : ∀ c ∈ after.head?, isNameChar c = false

/-- Each name among the tokens of a text is a longest run of name characters in it. The tokens
before and behind the name are those of the text before and behind the run. -/
theorem Spells.exists_run {text : List Char} {earlier later : List Token} {name : String}
    (h : Spells text (earlier ++ .name name :: later)) :
    ∃ before after, text = before ++ (name.toList ++ after) ∧
      IsRun before name.toList after ∧ Spells before earlier ∧ Spells after later := by
  induction earlier generalizing text with
  | nil =>
    obtain ⟨gap, rest, rfl, hgap, hend, hrest⟩ := h.exists_first
    cases hend with
    | name hne hchars hend =>
      refine ⟨gap, rest, rfl, ⟨by simpa using hne, hchars, fun c hc => ?_, hend⟩, ?_, hrest⟩
      · exact isNameChar_eq_false (hgap c (List.mem_of_getLast? hc))
      · exact spells_of_isBlank hgap
  | cons token earlier ih =>
    obtain ⟨gap, rest, rfl, hgap, hend, hrest⟩ := h.exists_first
    obtain ⟨before, after, rfl, hrun, hearlier, hlater⟩ := ih hrest
    have hbefore : Spells (gap ++ (token.text.toList ++ before)) (token :: earlier) :=
      (hend.of_append.spells hearlier).behind_gap hgap
    refine ⟨_, after, by simp, { hrun with start := fun c hc => ?_ }, hbefore, hlater⟩
    -- In front of the name stands the end of the text before it, or else a token that ends there.
    cases before with
    | nil =>
      obtain ⟨first, others, hname⟩ := List.exists_cons_of_ne_nil hrun.nonempty
      have hfirst : isNameChar first = true := hrun.chars first (by rw [hname]; exact .head _)
      rw [hname, List.nil_append, List.cons_append] at hend
      rw [List.append_nil] at hc
      exact hend.isNameChar_getLast? hfirst gap c hc
    | cons first others =>
      rw [← List.append_assoc, List.getLast?_append_cons] at hc
      exact hrun.start c hc

/-- Two names follow each other only if blank characters separate them in the text. -/
theorem Spells.exists_gap {text : List Char} {earlier later : List Token} {first second : String}
    (h : Spells text (earlier ++ .name first :: .name second :: later)) :
    ∃ before gap after,
      text = before ++ (first.toList ++ (gap ++ (second.toList ++ after))) ∧ gap ≠ [] ∧
        (∀ c ∈ gap, isBlankChar c = true) ∧ Spells before earlier ∧ Spells after later := by
  obtain ⟨before, rest, rfl, hfirst, hearlier, hrest⟩ := h.exists_run
  obtain ⟨gap, after, rfl, hgap, hend, hlater⟩ := hrest.exists_first
  refine ⟨before, gap, after, rfl, ?_, hgap, hearlier, hlater⟩
  rintro rfl
  cases hend with
  | name hne hchars =>
    obtain ⟨c, others, hname⟩ := List.exists_cons_of_ne_nil (mt String.toList_eq_nil_iff.1 hne)
    have hc : isNameChar c = true := hchars c (by rw [hname]; exact .head _)
    have hstop : isNameChar c = false := hfirst.stop c (by simp [Token.text, hname])
    cases hc.symm.trans hstop

/-! ## Blank characters around symbols -/

/-- Blank characters that no name stands in front of are left out. -/
theorem scanFrom_blank {gap : List Char} (hgap : ∀ c ∈ gap, isBlankChar c = true)
    (rest : List Char) : scanFrom [] (gap ++ rest) = scanFrom [] rest := by
  induction gap with
  | nil => rfl
  | cons c gap ih =>
    obtain ⟨hc, hgap⟩ := List.forall_mem_cons.1 hgap
    rw [List.cons_append, scanFrom_symbol (ofSymbol_of_isBlankChar hc), ih hgap]
    cases scanFrom [] rest with
    | error problem => rfl
    | ok tokens => rfl

/-- Blank characters are left out where they do not cut a name. -/
theorem scanFrom_gap {gap name rest : List Char} (hgap : ∀ c ∈ gap, isBlankChar c = true)
    (hcut : name = [] ∨ ∀ c ∈ rest.head?, isNameChar c = false) :
    scanFrom name (gap ++ rest) = scanFrom name rest := by
  rcases hcut with rfl | hrest
  · exact scanFrom_blank hgap rest
  · have hend : ∀ c ∈ (gap ++ rest).head?, isNameChar c = false := by
      cases gap with
      | nil => exact hrest
      | cons c gap => simpa using isNameChar_eq_false (hgap c (.head _))
    rw [scanFrom_of_head? hend, scanFrom_of_head? hrest, scanFrom_blank hgap]

/-- Two texts have the same tokens behind a third if they have them behind every part of a name that
the third may end in. -/
theorem scanFrom_append_congr {name before rest rest' : List Char}
    (hname : ∀ c ∈ name, isNameChar c = true)
    (h : ∀ part, part <:+ name ++ before → (∀ c ∈ part, isNameChar c = true) →
      scanFrom part rest = scanFrom part rest') :
    scanFrom name (before ++ rest) = scanFrom name (before ++ rest') := by
  induction before generalizing name with
  | nil =>
    rw [List.append_nil] at h
    exact h name (List.suffix_refl name) hname
  | cons c before ih =>
    rw [List.cons_append, List.cons_append, scanFrom, scanFrom]
    split
    · next hc =>
      have hname' : ∀ c' ∈ name ++ [c], isNameChar c' = true :=
        List.forall_mem_append.2 ⟨hname, by simpa using hc⟩
      refine ih hname' ?_
      rwa [List.append_assoc, List.singleton_append]
    · next hc =>
      have hsuffix : before <:+ name ++ c :: before :=
        (List.suffix_cons c before).trans (List.suffix_append name _)
      have hscan : scanFrom [] (before ++ rest) = scanFrom [] (before ++ rest') :=
        ih (by simp) fun part hpart => h part (hpart.trans hsuffix)
      rw [hscan]

/-- The second text has blank characters that the first one does not have, next to a symbol or at
one of the ends. -/
inductive Loosens : List Char → List Char → Prop where
  | intro {before gap after : List Char} :
      (∀ c ∈ gap, isBlankChar c = true) →
      (∀ c ∈ before.getLast?, IsSymbol c) ∨ (∀ c ∈ after.head?, IsSymbol c) →
      Loosens (before ++ after) (before ++ (gap ++ after))

/-- Blank characters next to a symbol or at the ends cut no name. -/
theorem Loosens.scanFrom_eq {tight loose : List Char} (h : Loosens tight loose) :
    scanFrom [] loose = scanFrom [] tight := by
  obtain ⟨hgap, hcut⟩ := h
  refine scanFrom_append_congr (by simp) fun part hpart hchars => scanFrom_gap hgap ?_
  rcases hcut with hbefore | hafter
  · -- A part of a name that the text before the blank characters ends in would end in a symbol.
    left
    obtain ⟨front, rfl⟩ := hpart
    by_contra hne
    have hlast : IsSymbol (part.getLast hne) := hbefore _ (by
      rw [List.getLast?_append_of_ne_nil _ hne, List.getLast?_eq_some_getLast hne, Option.mem_some])
    cases (hchars _ (List.getLast_mem hne)).symm.trans hlast.isNameChar_eq_false
  · exact .inr fun c hc => (hafter c hc).isNameChar_eq_false

/-- The texts differ only in blank characters around symbols and at the ends. -/
def SameButBlanks : List Char → List Char → Prop := Relation.EqvGen Loosens

/-- Such texts have the same tokens, or the same problem. -/
theorem SameButBlanks.scanFrom_eq {text other : List Char} (h : SameButBlanks text other) :
    scanFrom [] other = scanFrom [] text := by
  induction h with
  | rel _ _ h => exact h.scanFrom_eq
  | refl _ => rfl
  | symm _ _ _ ih => exact ih.symm
  | trans _ _ _ _ _ ih ih' => exact ih'.trans ih

/-! ## Nothing is lost -/

/-- The tokens hold everything of the text but its blank characters, and of these that names which
follow each other are separated. -/
structure LosesNothing (text : List Char) (tokens : List Token) : Prop where
  joined : (String.join (tokens.map Token.text)).toList = text.filter (!isBlankChar ·)
  run {earlier later : List Token} {name : String} : tokens = earlier ++ .name name :: later →
    ∃ before after, text = before ++ (name.toList ++ after) ∧
      IsRun before name.toList after ∧ Spells before earlier ∧ Spells after later
  gap {earlier later : List Token} {first second : String} :
    tokens = earlier ++ .name first :: .name second :: later →
    ∃ before gap after,
      text = before ++ (first.toList ++ (gap ++ (second.toList ++ after))) ∧ gap ≠ [] ∧
        (∀ c ∈ gap, isBlankChar c = true) ∧ Spells before earlier ∧ Spells after later

/-- What a text consists of loses nothing of it. -/
theorem Spells.losesNothing {text : List Char} {tokens : List Token} (h : Spells text tokens) :
    LosesNothing text tokens where
  joined := h.toList_join
  run := by
    rintro earlier later name rfl
    exact h.exists_run
  gap := by
    rintro earlier later first second rfl
    exact h.exists_gap

/-- Names are cut out of a text between characters only. A text is refused exactly if one of its
characters is neither a symbol nor blank nor part of a name, for the first of these, and so is a
property with this text as its type. The tokens of any other text, one behind the other, are the
text without its blank characters; each name is a longest run of name characters, and names follow
each other only where blank characters separate them. So texts that differ only in blank characters
around symbols and at the ends have the same tokens and are read as the same type. -/
theorem scan_loses_no_text (text : String) :
    scanBytes text = some (scan text) ∧
    ((∃ problem, scan text = .error problem) ↔ ∃ c ∈ text.toList, ¬ IsTokenChar c) ∧
    (∀ problem, scan text = .error problem ↔
      ∃ c, FirstFailing IsTokenChar text.toList c ∧ problem.Blames c) ∧
    (∀ problem (entry : PropertyEntry) package, scan text = .error problem → entry.type = text →
      entry.toProperty package = .error (.typeSyntax text problem)) ∧
    (∀ tokens, scan text = .ok tokens → LosesNothing text.toList tokens) ∧
    ∀ other : String, SameButBlanks text.toList other.toList → scan other = scan text ∧
      ∀ package, PropertyType.parse package other = PropertyType.parse package text := by
  refine ⟨scanBytes_eq_scan text, exists_scan_eq_error_iff, fun _ => scanFrom_eq_error_iff, ?_,
    fun tokens htokens => (scan_eq_ok_iff.1 htokens).losesNothing, fun other hother => ?_⟩
  · rintro problem entry package hscan rfl
    have hparse : PropertyType.parse package entry.type = .error problem := by
      rw [PropertyType.parse, hscan]
      rfl
    rw [PropertyEntry.toProperty, hparse]
  · have hscan : scan other = scan text := hother.scanFrom_eq
    refine ⟨hscan, fun package => ?_⟩
    rw [PropertyType.parse, PropertyType.parse, hscan]

/-- Names of characters of more than one byte are cut out whole, a map is read with blank characters
around its symbols, and a text with two problems is refused for the first. -/
theorem scan_loses_no_text_accents :
    scanBytes " Größe é<\u2003ß>" =
        some (.ok [.name "Größe", .name "é", .opening, .name "ß", .closing]) ∧
      LosesNothing " Größe é<\u2003ß>".toList
        [.name "Größe", .name "é", .opening, .name "ß", .closing] ∧
      (∃ type, PropertyType.parse "com.example" "Map<é,ß>" = .ok type ∧
        PropertyType.parse "com.example" "Map <é,ß>" = .ok type) ∧
      (PropertyEntry.mk "sizes" "Größe[?" none []).toProperty "com.example" =
        .error (.typeSyntax "Größe[?" .array) := by
  have htokens : scan " Größe é<\u2003ß>" =
      .ok [.name "Größe", .name "é", .opening, .name "ß", .closing] :=
    toOption_eq_some.1 (by decide +kernel)
  have hsame : SameButBlanks "Map<é,ß>".toList "Map <é,ß>".toList := by
    have hloosens : Loosens (['M', 'a', 'p'] ++ ['<', 'é', ',', 'ß', '>'])
        (['M', 'a', 'p'] ++ ([' '] ++ ['<', 'é', ',', 'ß', '>'])) :=
      .intro (List.forall_mem_singleton.2 (by decide)) (.inr (by simp [IsSymbol]))
    refine .rel _ _ ?_
    simpa using hloosens
  obtain ⟨hbytes, -, -, -, hkept, -⟩ := scan_loses_no_text " Größe é<\u2003ß>"
  obtain ⟨-, -, -, -, -, hspaced⟩ := scan_loses_no_text "Map<é,ß>"
  obtain ⟨-, -, hblamed, hrefused, -, -⟩ := scan_loses_no_text "Größe[?"
  have hname : "Größe".toList.all isNameChar = true := by decide +kernel
  have hfirst : FirstFailing IsTokenChar "Größe[?".toList '[' :=
    ⟨"Größe".toList, ['?'], by decide +kernel,
      fun c hc => .inr (.inr (List.all_eq_true.1 hname c hc)), by decide +kernel⟩
  have hproblem : scan "Größe[?" = .error .array := (hblamed _).2 ⟨'[', hfirst, .openingBracket⟩
  have hread : (PropertyType.parse "com.example" "Map<é,ß>").toOption.isSome = true := by
    decide +kernel
  obtain ⟨type, htype⟩ := Option.isSome_iff_exists.1 hread
  have hparse := toOption_eq_some.1 htype
  refine ⟨?_, hkept _ htokens, ⟨type, hparse, ?_⟩, hrefused _ _ _ hproblem rfl⟩
  · rw [hbytes, htokens]
  · rw [(hspaced _ hsame).2 "com.example", hparse]

end Token

end ValueShadow
