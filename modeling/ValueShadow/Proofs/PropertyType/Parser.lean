import ValueShadow.Proofs.PropertyType.Token
import ValueShadow.Proofs.PropertyType.Name
import ValueShadow.Manifest.Basic

/-!
# The grammar of types

A type is a name, alone or with a list of types between `<` and `>`. `TypeTerm` is the tree of such
a derivation, `TypeTerm.tokens` what it derives, and `TypeTerm.Denotes` the type of a property that
it stands for. `read_sound` and `read_complete` say that `PropertyType.read` finds the trees at the
start of a list of tokens, and `PropertyType.parse_accepts_grammar` that a text is read exactly if
some tree derives the whole of it. The bound on the arguments of `PropertyType.readArguments` is
never reached, as every argument has a token.
-/

namespace ValueShadow

open Text

/-- A derivation of a type: a name with the derivations of its arguments. -/
inductive TypeTerm where
  | apply (name : String) (arguments : List TypeTerm)

namespace TypeTerm

/-! ## Trees and what they derive -/

mutual

/-- The tokens of a type: its name, alone or with its arguments between `<` and `>`. -/
def tokens : TypeTerm → List Token
  | .apply name [] => [.name name]
  | .apply name (first :: others) => .name name :: .opening :: (first.tokens ++ restTokens others)

/-- The tokens of the arguments after one, each behind a `,`, and of the `>` at their end. -/
def restTokens : List TypeTerm → List Token
  | [] => [.closing]
  | next :: others => .comma :: (next.tokens ++ restTokens others)

end

mutual

/-- How many lists of arguments stand inside one another at most. -/
def depth : TypeTerm → Nat
  | .apply _ [] => 0
  | .apply _ (first :: others) => max first.depth (depthAll others) + 1

/-- The depth of the deepest of the types. -/
def depthAll : List TypeTerm → Nat
  | [] => 0
  | term :: terms => max term.depth (depthAll terms)

end

/-- Every name in the type is dotted properly and has as many arguments as it takes. -/
inductive WellFormed : TypeTerm → Prop where
  | apply {name : String} {arguments : List TypeTerm} :
      IsDotted name → PropertyType.Takes name arguments.length →
      (∀ argument ∈ arguments, WellFormed argument) → WellFormed (.apply name arguments)

/-- The type of a property that a tree stands for in a package: what its name denotes with the types
of its arguments, in their order. -/
inductive Denotes (package : String) : TypeTerm → PropertyType → Prop where
  | apply {name : String} {arguments : List TypeTerm} {types : List PropertyType}
      {type : PropertyType} :
      List.Forall₂ (Denotes package) arguments types →
      PropertyType.NameDenotes package name types type →
      Denotes package (.apply name arguments) type

/-- The tree derives the whole text, and lists of arguments stand at most eight deep in it. -/
structure WrittenAs (term : TypeTerm) (text : String) : Prop where
  spells : Token.Spells text.toList term.tokens
  wellFormed : term.WellFormed
  depth_le : term.depth ≤ 8

/-- The depth of several types bounds that of each of them. -/
theorem depthAll_le_iff {terms : List TypeTerm} {d : Nat} :
    depthAll terms ≤ d ↔ ∀ term ∈ terms, term.depth ≤ d := by
  induction terms with
  | nil => simp [depthAll]
  | cons term terms ih => rw [depthAll, Nat.max_le, ih, List.forall_mem_cons]

/-- A list of arguments is one deeper than the deepest argument. -/
theorem depth_apply_cons_le_iff {name : String} {first : TypeTerm} {others : List TypeTerm}
    {d : Nat} :
    (apply name (first :: others)).depth ≤ d + 1 ↔ ∀ term ∈ first :: others, term.depth ≤ d := by
  rw [← depthAll_le_iff, depth, depthAll, Nat.add_le_add_iff_right]

/-- Lists that stand beside each other do not add up. -/
example : (apply "Map" [apply "List" [apply "A" []], apply "List" [apply "B" []]]).depth = 2 := by
  decide

/-- Well-formed types denote something in every package. -/
theorem WellFormed.exists_denotes {term : TypeTerm} (h : term.WellFormed) (package : String) :
    ∃ type, term.Denotes package type := by
  induction h with
  | @apply name arguments hname htakes _ ih =>
    have : Nonempty PropertyType := ⟨.primitive .string⟩
    choose! typeOf htypeOf using ih
    have htypes : List.Forall₂ (Denotes package) arguments (arguments.map typeOf) := by
      rw [List.forall₂_map_right_iff, List.forall₂_same]
      exact htypeOf
    rw [htypes.length_eq] at htakes
    obtain ⟨type, htype⟩ := PropertyType.takes_iff.1 htakes
    exact ⟨type, .apply htypes htype⟩

/-- Every argument has a token of its own. -/
theorem length_le_restTokens (terms : List TypeTerm) :
    terms.length ≤ (restTokens terms).length := by
  induction terms with
  | nil => exact Nat.zero_le _
  | cons term terms ih =>
    simp only [restTokens, List.length_cons, List.length_append]
    omega

/-- No list of arguments starts where an argument ends. -/
theorem head?_restTokens_ne_opening (terms : List TypeTerm) (rest : List Token) :
    (restTokens terms ++ rest).head? ≠ some .opening := by
  cases terms <;> simp [restTokens]

end TypeTerm

namespace PropertyType

open TypeTerm

/-! ## Reading a list of arguments -/

section
variable {item : List Token → Except TypeProblem (PropertyType × List Token)}
  {Reads : TypeTerm → PropertyType → Prop}

/-- If every item that is read is a tree, so are the arguments that are read, with the tokens
between and after them. -/
theorem readArguments_sound
    (hitem : ∀ {tokens type rest}, item tokens = .ok (type, rest) →
      ∃ term, tokens = term.tokens ++ rest ∧ Reads term type)
    {bound : Nat} {tokens rest : List Token} {types : List PropertyType}
    (h : readArguments item bound tokens = .ok (types, rest)) :
    ∃ first others, tokens = first.tokens ++ (restTokens others ++ rest) ∧
      List.Forall₂ Reads (first :: others) types := by
  induction bound generalizing tokens types with
  | zero => cases h
  | succ bound ih =>
    rw [readArguments] at h
    obtain ⟨⟨type, after⟩, htype, hafter⟩ := bind_eq_ok.1 h
    obtain ⟨first, rfl, hfirst⟩ := hitem htype
    dsimp only at hafter
    split at hafter
    case h_1 after =>
      obtain ⟨⟨types', rest'⟩, hread, hresult⟩ := bind_eq_ok.1 hafter
      cases hresult
      obtain ⟨next, others, rfl, hothers⟩ := ih hread
      exact ⟨first, next :: others, by simp [restTokens], .cons hfirst hothers⟩
    case h_2 after =>
      cases hafter
      exact ⟨first, [], rfl, .cons hfirst .nil⟩
    case h_3 => cases hafter
    case h_4 => cases hafter

/-- If every tree is read as an item, arguments are read up to the `>` that closes them. -/
theorem readArguments_complete
    (hitem : ∀ {term type rest}, Reads term type → rest.head? ≠ some .opening →
      item (term.tokens ++ rest) = .ok (type, rest))
    {bound : Nat} {first : TypeTerm} {others : List TypeTerm} {types : List PropertyType}
    (h : List.Forall₂ Reads (first :: others) types) (hbound : others.length < bound)
    (rest : List Token) :
    readArguments item bound (first.tokens ++ (restTokens others ++ rest)) = .ok (types, rest) := by
  induction others generalizing first bound types with
  -- What follows an argument is a `,` or the `>`, so it ends where its tree does.
  | nil =>
    obtain ⟨type, _, hfirst, hnil, rfl⟩ := List.forall₂_cons_left_iff.1 h
    obtain rfl := List.forall₂_nil_left_iff.1 hnil
    obtain ⟨bound, rfl⟩ := Nat.exists_eq_succ_of_ne_zero (Nat.ne_zero_of_lt hbound)
    have htype := hitem hfirst (head?_restTokens_ne_opening [] rest)
    rw [readArguments, htype]
    rfl
  | cons next others ih =>
    obtain ⟨type, types', hfirst, hothers, rfl⟩ := List.forall₂_cons_left_iff.1 h
    obtain ⟨bound, rfl⟩ := Nat.exists_eq_succ_of_ne_zero (Nat.ne_zero_of_lt hbound)
    have htype := hitem hfirst (head?_restTokens_ne_opening (next :: others) rest)
    have hrest := ih hothers (Nat.lt_of_succ_lt_succ hbound)
    rw [readArguments, bind_eq_ok]
    refine ⟨_, htype, ?_⟩
    simp only [restTokens, List.cons_append, List.append_assoc]
    exact bind_eq_ok.2 ⟨_, hrest, rfl⟩

end

/-! ## Reading a type -/

/-- What is read at the start of a list of tokens: a name alone, which no list of arguments follows,
or a name with a list of arguments, for which some depth is left. -/
theorem read_eq_ok_iff {package : String} {d : Nat} {tokens rest : List Token}
    {type : PropertyType} :
    read package d tokens = .ok (type, rest) ↔
      ∃ name, IsDotted name ∧
        ((tokens = .name name :: rest ∧ rest.head? ≠ some .opening ∧
            ofName package name [] = .ok type) ∨
          ∃ d' inner types, d = d' + 1 ∧ tokens = .name name :: .opening :: inner ∧
            readArguments (read package d') (inner.length + 1) inner = .ok (types, rest) ∧
            ofName package name types = .ok type) := by
  constructor
  · intro h
    unfold read at h
    split at h
    case h_1 => cases h
    case h_2 name after =>
      split_ifs at h with hmalformed
      have hname := isMalformed_eq_false_iff.1 (Bool.eq_false_iff.2 hmalformed)
      refine ⟨name, hname, ?_⟩
      split at h
      case h_1 => cases h
      case h_2 d' inner =>
        obtain ⟨⟨types, rest'⟩, htypes, htype⟩ := bind_eq_ok.1 h
        obtain ⟨type', hnamed, hresult⟩ := bind_eq_ok.1 htype
        cases hresult
        exact .inr ⟨d', inner, types, rfl, rfl, htypes, hnamed⟩
      case h_3 hzero hsucc =>
        obtain ⟨type', htype, hresult⟩ := bind_eq_ok.1 h
        cases hresult
        refine .inl ⟨rfl, ?_, htype⟩
        intro hopening
        obtain ⟨tail, rfl⟩ := List.head?_eq_some_iff.1 hopening
        cases d with
        | zero => exact hzero tail rfl rfl
        | succ d => exact hsucc d tail rfl rfl
    case h_3 => cases h
  · rintro ⟨name, hname, ⟨rfl, hopening, htype⟩ | ⟨d', inner, types, rfl, rfl, htypes, htype⟩⟩
    · unfold read
      rw [if_neg (Bool.eq_false_iff.1 (isMalformed_eq_false_iff.2 hname))]
      split
      case h_1 => exact absurd rfl hopening
      case h_2 => exact absurd rfl hopening
      case h_3 => exact bind_eq_ok.2 ⟨_, htype, rfl⟩
    · rw [read, if_neg (Bool.eq_false_iff.1 (isMalformed_eq_false_iff.2 hname))]
      exact bind_eq_ok.2 ⟨_, htypes, bind_eq_ok.2 ⟨_, htype, rfl⟩⟩

/-- What is read is a tree of a depth that fits, and the tokens after it are left. -/
theorem read_sound {package : String} {d : Nat} {tokens rest : List Token} {type : PropertyType}
    (h : read package d tokens = .ok (type, rest)) :
    ∃ term : TypeTerm, tokens = term.tokens ++ rest ∧
      term.WellFormed ∧ term.depth ≤ d ∧ term.Denotes package type := by
  -- The arguments are read with less depth left, and as a name alone needs none, so there is no
  -- separate case for no depth at all.
  induction d using Nat.strongRecOn generalizing tokens rest type with
  | ind d ih =>
    obtain ⟨name, hname, ⟨rfl, -, htype⟩ | ⟨d', inner, types, rfl, rfl, htypes, htype⟩⟩ :=
      read_eq_ok_iff.1 h
    · have hnamed := ofName_eq_ok_iff.1 htype
      have htakes : Takes name 0 := takes_iff.2 ⟨type, hnamed⟩
      exact ⟨.apply name [], rfl, .apply hname htakes (by simp), Nat.zero_le d, .apply .nil hnamed⟩
    · obtain ⟨first, others, rfl, harguments⟩ :=
        readArguments_sound (ih d' (Nat.lt_succ_self d')) htypes
      have hnamed := ofName_eq_ok_iff.1 htype
      have htakes : Takes name (first :: others).length := by
        rw [harguments.length_eq]
        exact takes_iff.2 ⟨type, hnamed⟩
      rw [List.forall₂_and_left, List.forall₂_and_left] at harguments
      obtain ⟨hwell, hdepth, hdenotes⟩ := harguments
      exact ⟨.apply name (first :: others), by simp [TypeTerm.tokens], .apply hname htakes hwell,
        depth_apply_cons_le_iff.2 hdepth, .apply hdenotes hnamed⟩

/-- A tree of a depth that fits is read, if no list of arguments follows it. -/
theorem read_complete {package : String} {d : Nat} {term : TypeTerm} {rest : List Token}
    {type : PropertyType} (hwell : term.WellFormed) (hdepth : term.depth ≤ d)
    (hdenotes : term.Denotes package type) (hrest : rest.head? ≠ some .opening) :
    read package d (term.tokens ++ rest) = .ok (type, rest) := by
  induction d using Nat.strongRecOn generalizing term rest type with
  | ind d ih =>
    obtain @⟨name, arguments, hname, -, hwell⟩ := hwell
    obtain @⟨_, _, types, _, htypes, hnamed⟩ := hdenotes
    cases arguments with
    | nil =>
      obtain rfl := List.forall₂_nil_left_iff.1 htypes
      exact read_eq_ok_iff.2 ⟨name, hname, .inl ⟨rfl, hrest, ofName_eq_ok_iff.2 hnamed⟩⟩
    | cons first others =>
      cases d with
      | zero => exact absurd hdepth (Nat.not_succ_le_zero _)
      | succ d' =>
        have harguments : List.Forall₂ (fun term type =>
            term.WellFormed ∧ term.depth ≤ d' ∧ term.Denotes package type)
            (first :: others) types := by
          rw [List.forall₂_and_left, List.forall₂_and_left]
          exact ⟨hwell, depth_apply_cons_le_iff.1 hdepth, htypes⟩
        -- Every argument has a token, so the bound on their number is not reached.
        have hbound : others.length < (first.tokens ++ (restTokens others ++ rest)).length + 1 := by
          have hlength := length_le_restTokens others
          simp only [List.length_append]
          omega
        have hread := readArguments_complete
          (fun h => ih d' (Nat.lt_succ_self d') h.1 h.2.1 h.2.2) harguments hbound rest
        exact read_eq_ok_iff.2 ⟨name, hname, .inr ⟨d', _, types, rfl, by simp [TypeTerm.tokens],
          hread, ofName_eq_ok_iff.2 hnamed⟩⟩

/-! ## Reading a text -/

/-- A text is read exactly if a whole list of tokens is. -/
theorem parse_eq_ok_iff {package text : String} {type : PropertyType} :
    parse package text = .ok type ↔
      ∃ tokens, Token.Spells text.toList tokens ∧
        read package maxDepth tokens = .ok (type, []) := by
  rw [parse, bind_eq_ok]
  constructor
  · rintro ⟨tokens, htokens, h⟩
    obtain ⟨⟨type', rest⟩, hread, h⟩ := bind_eq_ok.1 h
    cases rest with
    | nil =>
      cases h
      exact ⟨tokens, Token.scan_eq_ok_iff.1 htokens, hread⟩
    | cons found rest => cases h
  · rintro ⟨tokens, htokens, hread⟩
    exact ⟨tokens, Token.scan_eq_ok_iff.2 htokens, bind_eq_ok.2 ⟨_, hread, rfl⟩⟩

/-- A text is read as a type exactly if a tree that denotes the type derives it. -/
theorem parse_eq_ok_iff_writtenAs {package text : String} {type : PropertyType} :
    parse package text = .ok type ↔
      ∃ term : TypeTerm, term.WrittenAs text ∧ term.Denotes package type := by
  rw [parse_eq_ok_iff]
  constructor
  · rintro ⟨tokens, hspells, hread⟩
    obtain ⟨term, rfl, hwell, hdepth, hdenotes⟩ := read_sound hread
    rw [List.append_nil] at hspells
    exact ⟨term, ⟨hspells, hwell, hdepth⟩, hdenotes⟩
  · rintro ⟨term, ⟨hspells, hwell, hdepth⟩, hdenotes⟩
    have hread : read package maxDepth (term.tokens ++ []) = .ok (type, []) :=
      read_complete hwell hdepth hdenotes (by simp)
    rw [List.append_nil] at hread
    exact ⟨term.tokens, hspells, hread⟩

/-- A text is read as a type exactly if a tree that denotes the type derives it; some type is read
exactly if some tree derives the text; and the property of any other text is refused for its type,
with the whole text. -/
theorem parse_accepts_grammar (package text : String) :
    (∀ type, parse package text = .ok type ↔
      ∃ term : TypeTerm, term.WrittenAs text ∧ term.Denotes package type) ∧
    ((∃ type, parse package text = .ok type) ↔ ∃ term : TypeTerm, term.WrittenAs text) ∧
    ∀ entry : PropertyEntry, entry.type = text → (¬ ∃ term : TypeTerm, term.WrittenAs text) →
      ∃ problem, parse package text = .error problem ∧
        entry.toProperty package = .error (.typeSyntax text problem) := by
  have hread : (∃ type, parse package text = .ok type) ↔
      ∃ term : TypeTerm, term.WrittenAs text := by
    constructor
    · rintro ⟨type, htype⟩
      obtain ⟨term, hwritten, -⟩ := parse_eq_ok_iff_writtenAs.1 htype
      exact ⟨term, hwritten⟩
    · rintro ⟨term, hwritten⟩
      obtain ⟨type, hdenotes⟩ := hwritten.wellFormed.exists_denotes package
      exact ⟨type, parse_eq_ok_iff_writtenAs.2 ⟨term, hwritten, hdenotes⟩⟩
  refine ⟨fun type => parse_eq_ok_iff_writtenAs, hread, ?_⟩
  rintro entry rfl hnone
  cases hparse : parse package entry.type with
  | ok type => exact absurd (hread.1 ⟨type, hparse⟩) hnone
  | error problem => exact ⟨problem, rfl, by rw [PropertyEntry.toProperty, hparse]⟩

/-- A list of numbers is read with blank characters anywhere between its tokens; a list without an
argument is refused. -/
theorem parse_accepts_grammar_lists :
    parse "com.example" " List <\tint >" = .ok (.collection .list (.primitive (.unboxed .int))) ∧
      (¬ ∃ term : TypeTerm, term.WrittenAs "List<>") ∧
      ∃ problem, parse "com.example" "List<>" = .error problem ∧
        (PropertyEntry.mk "tags" "List<>" none []).toProperty "com.example" =
          .error (.typeSyntax "List<>" problem) := by
  have hspells : Token.Spells " List <\tint >".toList
      (apply "List" [apply "int" []]).tokens :=
    Token.scan_eq_ok_iff.1 (toOption_eq_some.1 (by decide +kernel))
  have hint : NameDenotes "com.example" "int" [] (.primitive (.unboxed .int)) :=
    .primitive (.keyword .int)
  have hlist : NameDenotes "com.example" "List" [.primitive (.unboxed .int)]
      (.collection .list (.primitive (.unboxed .int))) := .list .list
  have hwritten : (apply "List" [apply "int" []]).WrittenAs " List <\tint >" := by
    refine ⟨hspells, .apply ?_ (takes_iff.2 ⟨_, hlist⟩) ?_, by decide⟩
    · exact isMalformed_eq_false_iff.1 (by decide)
    · intro argument hargument
      obtain rfl := List.mem_singleton.1 hargument
      exact .apply (isMalformed_eq_false_iff.1 (by decide)) (takes_iff.2 ⟨_, hint⟩) (by simp)
  have hnone : ¬ ∃ term : TypeTerm, term.WrittenAs "List<>" := by
    intro hterm
    obtain ⟨type, htype⟩ := (parse_accepts_grammar "com.example" "List<>").2.1.2 hterm
    have hscan : Token.scan "List<>" = .ok [.name "List", .opening, .closing] :=
      toOption_eq_some.1 (by decide +kernel)
    rw [parse, hscan] at htype
    cases htype
  have hdenotes : (apply "List" [apply "int" []]).Denotes "com.example"
      (.collection .list (.primitive (.unboxed .int))) :=
    .apply (.cons (.apply .nil hint) .nil) hlist
  exact ⟨((parse_accepts_grammar _ _).1 _).2 ⟨_, hwritten, hdenotes⟩, hnone,
    (parse_accepts_grammar "com.example" "List<>").2.2 _ rfl hnone⟩

end PropertyType

end ValueShadow
