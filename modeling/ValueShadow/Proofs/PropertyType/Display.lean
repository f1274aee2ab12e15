import ValueShadow.Proofs.PropertyType.Lexemes
import ValueShadow.Proofs.QualifiedName

/-!
# Reading the display of a type

The display of a type writes every name in full. A type is read back from its display if at each of
its nodes the name in full denotes the node (`PropertyType.ReadsBack`, `ReadsBack.parse_eq_ok`). A
type that was read is such a type (`readsBack_of_denotes`): primitive-like types and containers are
written with their packages, and a class that was read without a package is written with the package
it was read in, which the lower-case rule separates from the class again (`NameDenotes.inFull`).
-/

namespace ValueShadow

open Text

namespace PropertyType

/-- A name is not empty, its dots stand between other characters, and all of these are name
characters. -/
structure IsName (name : String) : Prop where
  dotted : IsDotted name
  chars : ∀ c ∈ name.toList, Token.isNameChar c = true

/-- The package is empty, or its segments look like those of a package and could otherwise stand in
an identifier. -/
def IsPackage (package : String) : Prop :=
  package = "" ∨ ∀ segment ∈ segments '.' package,
    QualifiedName.isPackageSegment segment = true ∧
      ∀ c ∈ segment.toList, isIdentifierPart c = true

/-! ## The parts of a type -/

/-- The name that the display of a type starts with. -/
def head : PropertyType → String
  | .primitive simple => simple.display
  | .collection kind _ | .keyed kind _ _ => kind.className.display
  | .valueRef name => name.display
  | .parameterized raw _ => raw.display

/-- The types between the `<` and the `>` of the display. -/
def arguments : PropertyType → List PropertyType
  | .primitive _ | .valueRef _ => []
  | .collection _ element => [element]
  | .keyed _ key element => [key, element]
  | .parameterized _ arguments => arguments

mutual

/-- The tree that the display of a type is derived from. -/
def term : PropertyType → TypeTerm
  | .primitive simple => .apply simple.display []
  | .collection kind element => .apply kind.className.display [element.term]
  | .keyed kind key element => .apply kind.className.display [key.term, element.term]
  | .valueRef name => .apply name.display []
  | .parameterized raw arguments => .apply raw.display (terms arguments)

/-- The trees of the types of a list. -/
def terms : List PropertyType → List TypeTerm
  | [] => []
  | type :: types => type.term :: terms types

end

/-- The type is read back from its display: at each node, the name in full is a name and denotes the
node with its arguments. -/
inductive ReadsBack (package : String) : PropertyType → Prop where
  | node {type : PropertyType} :
      IsName type.head → NameDenotes package type.head type.arguments type →
      (∀ argument ∈ type.arguments, ReadsBack package argument) → ReadsBack package type

theorem terms_eq_map (types : List PropertyType) : terms types = types.map term := by
  induction types with
  | nil => rfl
  | cons type types ih => rw [terms, ih, List.map_cons]

theorem displayAll_eq_map (types : List PropertyType) : displayAll types = types.map display := by
  induction types with
  | nil => rfl
  | cons type types ih => rw [displayAll, ih, List.map_cons]

/-- The tree of a type is its name with the trees of its arguments. -/
theorem term_eq (type : PropertyType) : type.term = .apply type.head (type.arguments.map term) := by
  cases type with
  | primitive | collection | keyed | valueRef => simp [term, head, arguments]
  | parameterized => simp [term, head, arguments, terms_eq_map]

section
variable {package other name : String} {types : List PropertyType} {type : PropertyType}

/-- The arguments of a type are those that its name was given. -/
theorem NameDenotes.arguments_eq (h : NameDenotes package name types type) :
    type.arguments = types := by
  cases h <;> rfl

/-- A type without arguments is written by its name, and one with arguments by its name and the
arguments between `<` and `>`. -/
theorem NameDenotes.display_eq (h : NameDenotes package name types type) :
    type.display =
      if types = [] then type.head
      else type.head ++ "<" ++ ", ".intercalate (types.map display) ++ ">" := by
  cases h with
  | primitive | valueRef => simp [display, head]
  | list | map => simp [display, head, String.append_assoc]
  | parameterized _ _ hne => simp [display, head, displayAll_eq_map, hne]

/-! ## Names in full -/

/-- A name of a primitive-like type has no package, or its simple name alone denotes the type
too. -/
theorem primitive_named_relativeName {primitive : Primitive} (h : Primitive.Named name primitive) :
    (QualifiedName.ofDotted name).package = "" ∨
      Primitive.Named (QualifiedName.ofDotted name).relativeName primitive := by
  cases h with
  | keyword kind | boxed kind =>
    left
    cases kind <;> decide
  | qualifiedBoxed kind =>
    have hsimple : (QualifiedName.ofDotted ("java.lang." ++ kind.boxedName)).relativeName =
        kind.boxedName := by
      cases kind <;> decide
    rw [hsimple]
    exact .inr (.boxed kind)
  | string => exact .inl (by decide)
  | qualifiedString => exact .inr .string

/-- A name of a container has no package, or its simple name alone denotes the container too. -/
theorem container_named_relativeName {kind : CollectionKind} (h : CollectionKind.Named name kind) :
    (QualifiedName.ofDotted name).package = "" ∨
      CollectionKind.Named (QualifiedName.ofDotted name).relativeName kind := by
  cases h with
  | list | map => exact .inl (by decide)
  | qualifiedList => exact .inr .list
  | qualifiedMap => exact .inr .map

/-- A class with a package is written by a class name, if its simple name alone is one. -/
theorem IsClassName.of_relativeName (hpackage : (QualifiedName.ofDotted name).package ≠ "")
    (h : IsClassName (QualifiedName.ofDotted name).relativeName) : IsClassName name where
  not_primitive primitive hnamed :=
    (primitive_named_relativeName hnamed).elim hpackage (h.not_primitive primitive)
  not_container kind hnamed :=
    (container_named_relativeName hnamed).elim hpackage (h.not_container kind)

/-- A text that is read without a package is its simple names. -/
theorem relativeName_of_unqualified (h : (QualifiedName.ofDotted name).package = "") :
    (QualifiedName.ofDotted name).relativeName = name := by
  have hdisplay := QualifiedName.display_ofDotted name
  rwa [QualifiedName.display, if_pos (String.isEmpty_iff.2 h)] at hdisplay

/-- A text that is read without a package has no segments but the simple names. -/
theorem segments_of_unqualified (h : (QualifiedName.ofDotted name).package = "") :
    segments '.' name = (QualifiedName.ofDotted name).simpleNames ∧
      (QualifiedName.ofDotted name).StartsClass := by
  obtain ⟨before, hbefore, hsegments, hpackage, hstarts⟩ :=
    QualifiedName.ofDotted_eq_iff.1 (Eq.refl (QualifiedName.ofDotted name))
  rw [hpackage, joined_eq_empty_iff fun segment hsegment =>
    QualifiedName.ne_empty_of_isPackageSegment (hbefore segment hsegment)] at h
  rw [h, List.nil_append] at hsegments
  exact ⟨hsegments, hstarts⟩

/-- A name behind a package is read as the class of the package that it is read as alone. -/
theorem ofDotted_behind_package (hpackage : IsPackage package) (hne : package ≠ "")
    (h : (QualifiedName.ofDotted name).package = "") :
    QualifiedName.ofDotted (package ++ "." ++ name) =
      (QualifiedName.ofDotted name).inPackage package := by
  obtain ⟨hsegments, hstarts⟩ := segments_of_unqualified h
  refine QualifiedName.ofDotted_eq_iff.2 ⟨segments '.' package, ?_, ?_, ?_, hstarts⟩
  · exact fun segment hsegment => (hpackage.resolve_left hne segment hsegment).1
  · have happend : segments '.' (package ++ "." ++ name) = _ := segments_append package name
    rw [hsegments] at happend
    exact happend
  · exact (joined_segments '.' package).symm

/-- A name behind a package is a name. -/
theorem IsName.behind_package (hpackage : IsPackage package) (hne : package ≠ "")
    (h : IsName name) : IsName (package ++ "." ++ name) := by
  have hsegments := hpackage.resolve_left hne
  refine ⟨isMalformed_eq_false_iff.1 ?_, ?_⟩
  · have hname := isMalformed_eq_false_iff.2 h.dotted
    have happend : segments '.' (package ++ "." ++ name) = _ := segments_append package name
    rw [isMalformed, happend, List.any_append, Bool.or_eq_false_iff]
    refine ⟨List.any_eq_false.2 fun segment hsegment => ?_, hname⟩
    rw [String.isEmpty_iff]
    exact QualifiedName.ne_empty_of_isPackageSegment (hsegments segment hsegment).1
  · have hchars := forall_mem_segments_iff.1 fun segment hsegment => (hsegments segment hsegment).2
    intro c hc
    rw [String.toList_append, String.toList_append, List.append_assoc, List.mem_append,
      List.mem_append] at hc
    rcases hc with hpackage | hdot | hname
    · by_cases hdot : c = '.'
      · subst hdot
        decide
      · have hpart := hchars c hpackage hdot
        rw [Token.isNameChar, Bool.or_eq_true]
        exact .inl hpart
    · rw [List.mem_singleton.1 hdot]
      decide
    · exact h.chars c hname

/-- A class that a name denotes is denoted by its name in full, in its own package and, if it has
one, in every other. -/
theorem ClassNamed.inFull {referred : QualifiedName} (hpackage : IsPackage package)
    (hother : package = "" → other = "") (hname : IsName name) (hclass : IsClassName name)
    (h : ClassNamed package name referred) :
    IsName referred.display ∧ IsClassName referred.display ∧
      ClassNamed other referred.display referred := by
  cases h with
  | qualified hqualified =>
    rw [QualifiedName.display_ofDotted]
    exact ⟨hname, hclass, .qualified hqualified⟩
  | unqualified hunqualified =>
    have hrelative := relativeName_of_unqualified hunqualified
    by_cases hne : package = ""
    · have hself :
          (QualifiedName.ofDotted name).inPackage package = QualifiedName.ofDotted name := by
        rw [hne, ← hunqualified]
        rfl
      have hclassNamed : ClassNamed other name ((QualifiedName.ofDotted name).inPackage other) :=
        .unqualified hunqualified
      rw [hother hne, ← hne] at hclassNamed ⊢
      rw [hself] at hclassNamed ⊢
      rw [QualifiedName.display_ofDotted]
      exact ⟨hname, hclass, hclassNamed⟩
    · have hdisplay : ((QualifiedName.ofDotted name).inPackage package).display =
          package ++ "." ++ name := by
        have hfull : ¬ ((QualifiedName.ofDotted name).inPackage package).package.isEmpty = true :=
          mt String.isEmpty_iff.1 hne
        rw [QualifiedName.display, if_neg hfull]
        exact congrArg _ hrelative
      have hread := ofDotted_behind_package hpackage hne hunqualified
      rw [hdisplay]
      refine ⟨hname.behind_package hpackage hne, ?_, ?_⟩
      · refine .of_relativeName ?_ ?_
        · rwa [hread]
        · rw [hread]
          exact hrelative.symm ▸ hclass
      · rw [← hread]
        refine .qualified ?_
        rwa [hread]

/-- The display of a primitive-like type is a name. -/
theorem isName_primitive (primitive : Primitive) : IsName primitive.display := by
  have hname : isMalformed primitive.display = false ∧
      primitive.display.toList.all Token.isNameChar = true := by
    cases primitive with
    | unboxed kind | boxed kind => cases kind <;> decide +kernel
    | string => decide +kernel
  exact ⟨isMalformed_eq_false_iff.1 hname.1, List.all_eq_true.1 hname.2⟩

/-- The display of a primitive-like type denotes it. -/
theorem named_primitive (primitive : Primitive) : Primitive.Named primitive.display primitive := by
  rw [← Primitive.ofName?_eq_some_iff]
  cases primitive with
  | unboxed kind | boxed kind => cases kind <;> decide
  | string => decide

/-- The display of the interface of a container is a name. -/
theorem isName_container (kind : CollectionKind) : IsName kind.className.display := by
  have hname : isMalformed kind.className.display = false ∧
      kind.className.display.toList.all Token.isNameChar = true := by
    cases kind <;> decide +kernel
  exact ⟨isMalformed_eq_false_iff.1 hname.1, List.all_eq_true.1 hname.2⟩

/-- What a name denotes with its arguments is denoted by its name in full, in its own package and,
if it has one, in every other. -/
theorem NameDenotes.inFull (hpackage : IsPackage package) (hother : package = "" → other = "")
    (hname : IsName name) (h : NameDenotes package name types type) :
    IsName type.head ∧ NameDenotes other type.head types type := by
  cases h with
  | @primitive primitive _ =>
    exact ⟨isName_primitive primitive, .primitive (named_primitive primitive)⟩
  | list => exact ⟨isName_container .list, .list .qualifiedList⟩
  | map => exact ⟨isName_container .map, .map .qualifiedMap⟩
  | valueRef hclass hnamed =>
    obtain ⟨hfull, hclass, hnamed⟩ := hnamed.inFull hpackage hother hname hclass
    exact ⟨hfull, .valueRef hclass hnamed⟩
  | parameterized hclass hnamed hne =>
    obtain ⟨hfull, hclass, hnamed⟩ := hnamed.inFull hpackage hother hname hclass
    exact ⟨hfull, .parameterized hclass hnamed hne⟩

/-! ## Types that were read -/

/-- The names of a tree are among its tokens, and so are those of its arguments. -/
theorem name_mem_tokens_iff {arguments : List TypeTerm} {found : String} :
    .name found ∈ (TypeTerm.apply name arguments).tokens ↔
      found = name ∨ ∃ argument ∈ arguments, .name found ∈ argument.tokens := by
  have hrest : ∀ terms : List TypeTerm,
      .name found ∈ TypeTerm.restTokens terms ↔ ∃ term ∈ terms, .name found ∈ term.tokens := by
    intro terms
    induction terms with
    | nil => simp [TypeTerm.restTokens]
    | cons term terms ih => simp [TypeTerm.restTokens, ih]
  cases arguments with
  | nil => simp [TypeTerm.tokens]
  | cons first others => simp [TypeTerm.tokens, hrest]

/-- The type that a well-formed tree of proper names denotes is read back from its display, which is
as deep as the tree. -/
theorem readsBack_of_denotes (hpackage : IsPackage package) (hother : package = "" → other = "")
    {term : TypeTerm} (hwell : term.WellFormed)
    (hchars : ∀ name, .name name ∈ term.tokens → ∀ c ∈ name.toList, Token.isNameChar c = true)
    (hdenotes : term.Denotes package type) :
    type.ReadsBack other ∧ ∀ d, term.depth ≤ d → type.term.depth ≤ d := by
  induction hwell generalizing type with
  | @apply name arguments hname _ _ ih =>
    obtain @⟨_, _, types, _, htypes, hnamed⟩ := hdenotes
    have hname : IsName name := ⟨hname, hchars name (name_mem_tokens_iff.2 (.inl rfl))⟩
    have hargument : ∀ type ∈ types, ∃ argument ∈ arguments,
        type.ReadsBack other ∧ ∀ d, argument.depth ≤ d → type.term.depth ≤ d := by
      intro type htype
      obtain ⟨argument, hmem, hdenotes⟩ := exists_mem_of_forall₂ htypes htype
      refine ⟨argument, hmem, ih argument hmem (fun name hinner => ?_) hdenotes⟩
      exact hchars name (name_mem_tokens_iff.2 (.inr ⟨argument, hmem, hinner⟩))
    obtain ⟨hhead, hnamed'⟩ := hnamed.inFull hpackage hother hname
    constructor
    · rw [← hnamed.arguments_eq] at hnamed' hargument
      refine .node hhead hnamed' fun type htype => ?_
      obtain ⟨_, -, hread, -⟩ := hargument type htype
      exact hread
    · intro d hdepth
      rw [term_eq, hnamed.arguments_eq]
      cases types with
      | nil => exact Nat.zero_le d
      | cons type types =>
        obtain ⟨first, others, -, -, rfl⟩ := List.forall₂_cons_right_iff.1 htypes
        obtain ⟨d, rfl⟩ : ∃ d', d = d' + 1 := Nat.exists_eq_succ_of_ne_zero (by
          rintro rfl
          exact absurd hdepth (Nat.not_succ_le_zero _))
        have hdepths := TypeTerm.depth_apply_cons_le_iff.1 hdepth
        rw [List.map_cons, TypeTerm.depth_apply_cons_le_iff, ← List.map_cons, List.forall_mem_map]
        intro type htype
        obtain ⟨argument, hmem, -, hdepth⟩ := hargument type htype
        exact hdepth d (hdepths argument hmem)

/-! ## Reading back -/

section
variable {rest : List Char} {tokens : List Token}

/-- A name ends where a character that is no part of names follows. -/
theorem ends_name {c : Char} (hc : Token.isNameChar c = false) (rest : List Char) :
    ∀ found ∈ (c :: rest).head?, Token.isNameChar found = false := by
  simpa using hc

/-- Arguments with a comma and a blank between them and a `>` behind them are spelled, if each of
them is. -/
theorem spells_arguments {first : PropertyType} {others : List PropertyType}
    (h : ∀ type ∈ first :: others, ∀ {rest : List Char} {tokens : List Token},
      (∀ c ∈ rest.head?, Token.isNameChar c = false) → Token.Spells rest tokens →
      Token.Spells (type.display.toList ++ rest) (type.term.tokens ++ tokens))
    (hrest : Token.Spells rest tokens) :
    Token.Spells ((", ".intercalate ((first :: others).map display)).toList ++ '>' :: rest)
      (first.term.tokens ++ (TypeTerm.restTokens (others.map term) ++ tokens)) := by
  induction others generalizing first with
  | nil =>
    have hclosing := Token.Spells.closing hrest
    simpa [TypeTerm.restTokens] using h first (.head _) (ends_name (by decide) rest) hclosing
  | cons next others ih =>
    have hothers := ih fun type htype => h type (.tail _ htype)
    have hblank : Token.Spells (' ' :: _) _ := .blank (by decide) hothers
    have hcomma := Token.Spells.comma hblank
    have hfirst := h first (.head _) (ends_name (by decide) _) hcomma
    simpa [TypeTerm.restTokens, String.intercalate_cons_cons] using hfirst

/-- The display of a type that is read back consists of the tokens of its tree. -/
theorem ReadsBack.spells (h : type.ReadsBack package)
    (hend : ∀ c ∈ rest.head?, Token.isNameChar c = false) (hrest : Token.Spells rest tokens) :
    Token.Spells (type.display.toList ++ rest) (type.term.tokens ++ tokens) := by
  induction h generalizing rest tokens with
  | @node type hname hnamed _ ih =>
    have hhead : type.head.toList ≠ [] := hname.dotted.nonempty
    rw [hnamed.display_eq, term_eq]
    cases harguments : type.arguments with
    | nil =>
      have hspells := Token.Spells.name hhead hname.chars hend hrest
      simpa [TypeTerm.tokens] using hspells
    | cons first others =>
      rw [harguments] at ih
      have hinner := spells_arguments (fun type htype {_ _} => ih type htype) hrest
      have hopening := Token.Spells.opening hinner
      have hspells := Token.Spells.name hhead hname.chars (ends_name (by decide) _) hopening
      simpa [TypeTerm.tokens] using hspells

end

/-- The tree of a type that is read back is well-formed. -/
theorem ReadsBack.wellFormed (h : type.ReadsBack package) : type.term.WellFormed := by
  induction h with
  | @node type hname hnamed _ ih =>
    have htakes : Takes type.head type.arguments.length := takes_iff.2 ⟨type, hnamed⟩
    rw [term_eq]
    refine .apply hname.dotted ?_ (List.forall_mem_map.2 ih)
    rwa [List.length_map]

/-- The tree of a type that is read back denotes it. -/
theorem ReadsBack.denotes (h : type.ReadsBack package) : type.term.Denotes package type := by
  induction h with
  | @node type _ hnamed _ ih =>
    rw [term_eq]
    refine .apply ?_ hnamed
    rwa [List.forall₂_map_left_iff, List.forall₂_same]

/-- A type that is read back and has at most eight lists of arguments inside one another is what its
display is read as. -/
theorem ReadsBack.parse_eq_ok (h : type.ReadsBack package) (hdepth : type.term.depth ≤ 8) :
    parse package type.display = .ok type := by
  refine parse_eq_ok_iff_writtenAs.2 ⟨type.term, ⟨?_, h.wellFormed, hdepth⟩, h.denotes⟩
  have hspells := h.spells (by simp) Token.Spells.nil
  rwa [List.append_nil, List.append_nil] at hspells

/-- The names in the tokens of a text consist of name characters. -/
theorem isNameChar_of_spells {text : List Char} {tokens : List Token}
    (h : Token.Spells text tokens) {name : String} (hname : .name name ∈ tokens) :
    ∀ c ∈ name.toList, Token.isNameChar c = true := by
  obtain ⟨earlier, later, rfl⟩ := List.append_of_mem hname
  obtain ⟨_, _, -, hrun, -, -⟩ := h.exists_run
  exact hrun.chars

/-- The display of a type is read as the type, in the package that the type was read in and, if that
is not empty, in every other package. -/
theorem parse_display {text : String} (hpackage : IsPackage package)
    (h : parse package text = .ok type) :
    parse package type.display = .ok type ∧
      (package ≠ "" → ∀ other, parse other type.display = .ok type) := by
  obtain ⟨term, hwritten, hdenotes⟩ := parse_eq_ok_iff_writtenAs.1 h
  have hread : ∀ other, (package = "" → other = "") → parse other type.display = .ok type := by
    intro other hother
    obtain ⟨hreads, hdepth⟩ := readsBack_of_denotes hpackage hother hwritten.wellFormed
      (fun _ => isNameChar_of_spells hwritten.spells) hdenotes
    exact hreads.parse_eq_ok (hdepth 8 hwritten.depth_le)
  exact ⟨hread package id, fun hne other => hread other (absurd · hne)⟩

end

/-- A map from a class of the package to sets of another package's nested class is written in full
and read back, also elsewhere. -/
theorem parse_display_map :
    ∃ type, parse "com.example" " Map<Custom,\torg.acme.Set< Outer.Inner >>" = .ok type ∧
      type.display = "java.util.Map<com.example.Custom, org.acme.Set<com.example.Outer.Inner>>" ∧
      parse "com.example" type.display = .ok type ∧ parse "" type.display = .ok type := by
  have hwritten : (parse "com.example" " Map<Custom,\torg.acme.Set< Outer.Inner >>").toOption.map
      display =
        some "java.util.Map<com.example.Custom, org.acme.Set<com.example.Outer.Inner>>" := by
    decide +kernel
  obtain ⟨type, hparse, hdisplay⟩ := Option.map_eq_some_iff.1 hwritten
  have hsegments : ((segments '.' "com.example").all fun segment =>
      QualifiedName.isPackageSegment segment && segment.toList.all isIdentifierPart) = true := by
    decide +kernel
  have hpackage : IsPackage "com.example" :=
    .inr fun segment hsegment => by simpa using List.all_eq_true.1 hsegments segment hsegment
  have hparse := toOption_eq_some.1 hparse
  obtain ⟨hhere, helsewhere⟩ := parse_display hpackage hparse
  exact ⟨type, hparse, hdisplay, hhere, helsewhere (by decide) ""⟩

end PropertyType

end ValueShadow
