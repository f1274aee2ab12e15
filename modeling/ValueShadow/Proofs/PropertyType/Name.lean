import ValueShadow.PropertyType.Parser
import ValueShadow.Proofs.Result
import ValueShadow.Proofs.Text.Segments
import Mathlib.Tactic.SplitIfs

/-!
# Names in types

What a name in a type may look like (`IsDotted`) and what it denotes with its arguments
(`PropertyType.NameDenotes`): a primitive-like type, a list or a map, or a class, which belongs to
the package of the type if its name has none. `PropertyType.ofName` finds what a name denotes
(`PropertyType.ofName_eq_ok_iff`); there is something to find exactly if the number of arguments is
one that the name takes (`PropertyType.takes_iff`).
-/

namespace ValueShadow

open Text

/-! ## The form of a name -/

/-- The name is not empty, does not start or end with a dot and has no two dots side by side. -/
structure IsDotted (name : String) : Prop where
  nonempty : name.toList ≠ []
  head : name.toList.head? ≠ some '.'
  last : name.toList.getLast? ≠ some '.'
  apart : ¬ ['.', '.'] <:+: name.toList

/-- A name is malformed exactly if its dots do not stand between its other characters. -/
theorem PropertyType.isMalformed_eq_false_iff {name : String} :
    isMalformed name = false ↔ IsDotted name := by
  have hempty : isMalformed name = true ↔ [] ∈ splitAt '.' name.toList := by
    simp [isMalformed, segments]
  rw [← Bool.not_eq_true, hempty, nil_mem_splitAt_iff]
  constructor
  · intro h
    simp only [not_or] at h
    exact ⟨h.1, h.2.1, h.2.2.1, h.2.2.2⟩
  · rintro ⟨hne, hhead, hlast, hapart⟩ (h | h | h | h) <;> contradiction

/-! ## What a name denotes -/

/-- The name denotes the primitive-like type: the keyword of a kind, its boxing class, or the class
of texts. The classes may be named with their package. -/
inductive Primitive.Named : String → Primitive → Prop where
  | keyword (kind : PrimitiveKind) : Named kind.keyword (.unboxed kind)
  | boxed (kind : PrimitiveKind) : Named kind.boxedName (.boxed kind)
  | qualifiedBoxed (kind : PrimitiveKind) : Named ("java.lang." ++ kind.boxedName) (.boxed kind)
  | string : Named "String" .string
  | qualifiedString : Named "java.lang.String" .string

/-- The name denotes the container, with or without its package. -/
inductive CollectionKind.Named : String → CollectionKind → Prop where
  | list : Named "List" .list
  | qualifiedList : Named "java.util.List" .list
  | map : Named "Map" .map
  | qualifiedMap : Named "java.util.Map" .map

/-- The primitive-like type that is found for a name is the one that it denotes. -/
theorem Primitive.ofName?_eq_some_iff {name : String} {primitive : Primitive} :
    Primitive.ofName? name = some primitive ↔ Primitive.Named name primitive := by
  constructor
  · intro h
    unfold ofName? at h
    split_ifs at h with hstring
    · cases h
      rcases hstring with rfl | rfl
      · exact .string
      · exact .qualifiedString
    · obtain ⟨kind, -, hkind⟩ := List.exists_of_findSome?_eq_some h
      unfold ofNameFor? at hkind
      split_ifs at hkind with hkeyword hboxed
      all_goals cases hkind
      · exact hkeyword ▸ .keyword kind
      · rcases hboxed with rfl | rfl
        · exact .boxed kind
        · exact .qualifiedBoxed kind
  · rintro (kind | kind | kind | _ | _)
    · cases kind <;> decide
    · cases kind <;> decide
    · cases kind <;> decide
    · decide
    · decide

/-- The container that is found for a name is the one that it denotes. -/
theorem CollectionKind.ofName?_eq_some_iff {name : String} {kind : CollectionKind} :
    CollectionKind.ofName? name = some kind ↔ CollectionKind.Named name kind := by
  constructor
  · intro h
    unfold CollectionKind.ofName? at h
    split_ifs at h with hlist hmap
    all_goals cases h
    · rcases hlist with rfl | rfl
      · exact .list
      · exact .qualifiedList
    · rcases hmap with rfl | rfl
      · exact .map
      · exact .qualifiedMap
  · rintro (_ | _) <;> decide

/-- A name denotes one container at most. -/
theorem CollectionKind.Named.unique {name : String} {kind kind' : CollectionKind}
    (h : CollectionKind.Named name kind) (h' : CollectionKind.Named name kind') : kind = kind' := by
  have hsome := CollectionKind.ofName?_eq_some_iff.2 h
  rw [CollectionKind.ofName?_eq_some_iff.2 h'] at hsome
  exact (Option.some.inj hsome).symm

/-- No primitive-like type is found for the name of a container. -/
theorem CollectionKind.Named.primitive_eq_none {name : String} {kind : CollectionKind}
    (h : CollectionKind.Named name kind) : Primitive.ofName? name = none := by
  cases h <;> decide

/-- No container has the name of a primitive-like type. -/
theorem CollectionKind.Named.not_primitive {name : String} {kind : CollectionKind}
    (h : CollectionKind.Named name kind) (primitive : Primitive) :
    ¬ Primitive.Named name primitive := by
  rw [← Primitive.ofName?_eq_some_iff, h.primitive_eq_none]
  exact (Option.some_ne_none primitive).symm

namespace PropertyType

/-- The name denotes the class: with a package of its own it is read as it stands, without one it is
a class of the given package. -/
inductive ClassNamed (package name : String) : QualifiedName → Prop where
  | qualified : (QualifiedName.ofDotted name).package ≠ "" →
      ClassNamed package name (QualifiedName.ofDotted name)
  | unqualified : (QualifiedName.ofDotted name).package = "" →
      ClassNamed package name ((QualifiedName.ofDotted name).inPackage package)

/-- The name is neither that of a primitive-like type nor that of a container. -/
structure IsClassName (name : String) : Prop where
  not_primitive : ∀ primitive, ¬ Primitive.Named name primitive
  not_container : ∀ kind, ¬ CollectionKind.Named name kind

/-- The type that a name with arguments denotes in a package. -/
inductive NameDenotes (package name : String) : List PropertyType → PropertyType → Prop where
  | primitive {primitive : Primitive} :
      Primitive.Named name primitive → NameDenotes package name [] (.primitive primitive)
  | list {element : PropertyType} :
      CollectionKind.Named name .list →
      NameDenotes package name [element] (.collection .list element)
  | map {key element : PropertyType} :
      CollectionKind.Named name .map →
      NameDenotes package name [key, element] (.keyed .map key element)
  | valueRef {referred : QualifiedName} :
      IsClassName name → ClassNamed package name referred →
      NameDenotes package name [] (.valueRef referred)
  | parameterized {raw : QualifiedName} {arguments : List PropertyType} :
      IsClassName name → ClassNamed package name raw → arguments ≠ [] →
      NameDenotes package name arguments (.parameterized raw arguments)

/-- How many arguments a name may have: none for a primitive-like type, one for a list, two for a
map, any number for a class. -/
structure Takes (name : String) (count : Nat) : Prop where
  primitive : ∀ primitive, Primitive.Named name primitive → count = 0
  list : CollectionKind.Named name .list → count = 1
  map : CollectionKind.Named name .map → count = 2

/-- The name of a class takes any number of arguments. -/
theorem IsClassName.takes {name : String} (h : IsClassName name) (count : Nat) :
    Takes name count where
  primitive p hp := absurd hp (h.not_primitive p)
  list hlist := absurd hlist (h.not_container _)
  map hmap := absurd hmap (h.not_container _)

/-- The class that is found for a name is the one that it denotes. -/
theorem resolveClass_eq_iff {package name : String} {referred : QualifiedName} :
    resolveClass package name = referred ↔ ClassNamed package name referred := by
  unfold resolveClass
  constructor
  · intro h
    dsimp only at h
    split_ifs at h with hempty
    · exact h ▸ .unqualified (String.isEmpty_iff.1 hempty)
    · exact h ▸ .qualified (mt String.isEmpty_iff.2 hempty)
  · rintro (hne | hempty)
    · exact if_neg (mt String.isEmpty_iff.1 hne)
    · exact if_pos (String.isEmpty_iff.2 hempty)

/-- Every name denotes some class if it is read as the name of one. -/
theorem classNamed_resolveClass (package name : String) :
    ClassNamed package name (resolveClass package name) :=
  resolveClass_eq_iff.1 rfl

/-- Nothing is found for a name exactly if it is that of a class. -/
theorem isClassName_iff {name : String} :
    IsClassName name ↔ Primitive.ofName? name = none ∧ CollectionKind.ofName? name = none := by
  simp only [Option.eq_none_iff_forall_ne_some]
  constructor
  · intro h
    constructor
    · intro primitive hfound
      exact h.not_primitive primitive (Primitive.ofName?_eq_some_iff.1 hfound)
    · intro kind hfound
      exact h.not_container kind (CollectionKind.ofName?_eq_some_iff.1 hfound)
  · rintro ⟨hprimitive, hcontainer⟩
    constructor
    · intro primitive hnamed
      exact hprimitive primitive (Primitive.ofName?_eq_some_iff.2 hnamed)
    · intro kind hnamed
      exact hcontainer kind (CollectionKind.ofName?_eq_some_iff.2 hnamed)

/-- The type that is found for a name with arguments is the one that they denote. -/
theorem ofName_eq_ok_iff {package name : String} {arguments : List PropertyType}
    {type : PropertyType} :
    ofName package name arguments = .ok type ↔ NameDenotes package name arguments type := by
  constructor
  · intro h
    unfold ofName at h
    split at h
    case h_1 simple _ hsimple =>
      cases h
      exact .primitive (Primitive.ofName?_eq_some_iff.1 hsimple)
    case h_2 => cases h
    case h_3 element hsimple hkind =>
      cases h
      exact .list (CollectionKind.ofName?_eq_some_iff.1 hkind)
    case h_4 key element hsimple hkind =>
      cases h
      exact .map (CollectionKind.ofName?_eq_some_iff.1 hkind)
    case h_5 => cases h
    case h_6 hsimple hkind =>
      cases h
      exact .valueRef (isClassName_iff.2 ⟨hsimple, hkind⟩) (classNamed_resolveClass package name)
    case h_7 first others hsimple hkind =>
      cases h
      exact .parameterized (isClassName_iff.2 ⟨hsimple, hkind⟩)
        (classNamed_resolveClass package name) (List.cons_ne_nil first others)
  · intro h
    unfold ofName
    cases h with
    | primitive hnamed => rw [Primitive.ofName?_eq_some_iff.2 hnamed]
    | list hnamed | map hnamed =>
      rw [hnamed.primitive_eq_none, CollectionKind.ofName?_eq_some_iff.2 hnamed]
    | valueRef hclass hnamed =>
      obtain ⟨hsimple, hkind⟩ := isClassName_iff.1 hclass
      rw [hsimple, hkind, resolveClass_eq_iff.2 hnamed]
    | parameterized hclass hnamed hne =>
      obtain ⟨hsimple, hkind⟩ := isClassName_iff.1 hclass
      obtain ⟨first, others, rfl⟩ := List.exists_cons_of_ne_nil hne
      rw [hsimple, hkind, resolveClass_eq_iff.2 hnamed]

/-- A name with arguments denotes a type exactly if it takes that many. -/
theorem takes_iff {package name : String} {arguments : List PropertyType} :
    Takes name arguments.length ↔ ∃ type, NameDenotes package name arguments type := by
  constructor
  · rintro ⟨hprimitive, hlist, hmap⟩
    by_cases hclass : IsClassName name
    · have hnamed := classNamed_resolveClass package name
      cases arguments with
      | nil => exact ⟨_, .valueRef hclass hnamed⟩
      | cons first others => exact ⟨_, .parameterized hclass hnamed (List.cons_ne_nil first others)⟩
    · by_cases hsimple : ∃ primitive, Primitive.Named name primitive
      · obtain ⟨primitive, hnamed⟩ := hsimple
        obtain rfl := List.length_eq_zero_iff.1 (hprimitive primitive hnamed)
        exact ⟨_, .primitive hnamed⟩
      · have hcontainer : ∃ kind, CollectionKind.Named name kind := by
          by_contra hnone
          exact hclass ⟨not_exists.1 hsimple, not_exists.1 hnone⟩
        obtain ⟨kind, hnamed⟩ := hcontainer
        cases kind with
        | list =>
          obtain ⟨element, rfl⟩ := List.length_eq_one_iff.1 (hlist hnamed)
          exact ⟨_, .list hnamed⟩
        | map =>
          obtain ⟨key, element, rfl⟩ := List.length_eq_two.1 (hmap hnamed)
          exact ⟨_, .map hnamed⟩
  · rintro ⟨type, hprimitive | hlist | hmap | ⟨hclass, -⟩ | ⟨hclass, -, -⟩⟩
    · exact ⟨fun _ _ => rfl, fun hlist => absurd hprimitive (hlist.not_primitive _),
        fun hmap => absurd hprimitive (hmap.not_primitive _)⟩
    · refine ⟨fun p hp => absurd hp (hlist.not_primitive p), fun _ => rfl, fun hmap => ?_⟩
      cases hlist.unique hmap
    · refine ⟨fun p hp => absurd hp (hmap.not_primitive p), fun hlist => ?_, fun _ => rfl⟩
      cases hmap.unique hlist
    · exact hclass.takes 0
    · exact hclass.takes arguments.length

end PropertyType

end ValueShadow
