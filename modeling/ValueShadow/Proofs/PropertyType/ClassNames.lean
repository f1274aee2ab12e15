import ValueShadow.Proofs.PropertyType.Parser
import ValueShadow.Proofs.QualifiedName
import ValueShadow.Proofs.Shape

/-!
# Class names in a type

The value classes and the other parameterised classes of a type are the names that its text chooses
freely (`PropertyType.classNames`). All of them are read back from their displays if the type was
read from a text in a package that reads as one (`PropertyType.classNames_readBack_of_parse`): a
name that has a package is read as it stands, and one that has none is put into the package of the
type (`PropertyType.ClassNamed.readsBack`).
-/

namespace ValueShadow

/-- All the names are read back. -/
def AllReadBack (names : List QualifiedName) : Prop :=
  ∀ name ∈ names, name.ReadsBack

instance (names : List QualifiedName) : Decidable (AllReadBack names) :=
  inferInstanceAs (Decidable (∀ name ∈ names, name.ReadsBack))

@[simp]
theorem allReadBack_nil : AllReadBack [] := by
  simp [AllReadBack]

@[simp]
theorem allReadBack_cons {name : QualifiedName} {names : List QualifiedName} :
    AllReadBack (name :: names) ↔ name.ReadsBack ∧ AllReadBack names :=
  List.forall_mem_cons

@[simp]
theorem allReadBack_append {names others : List QualifiedName} :
    AllReadBack (names ++ others) ↔ AllReadBack names ∧ AllReadBack others :=
  List.forall_mem_append

namespace PropertyType

mutual

/-- The names of the value classes and of the other parameterised classes in a type, at any
depth. -/
def classNames : PropertyType → List QualifiedName
  | .primitive _ => []
  | .collection _ element => element.classNames
  | .keyed _ key element => key.classNames ++ element.classNames
  | .valueRef name => [name]
  | .parameterized raw arguments => raw :: classNamesOfAll arguments

/-- The names of classes in several types. -/
def classNamesOfAll : List PropertyType → List QualifiedName
  | [] => []
  | type :: types => type.classNames ++ classNamesOfAll types

end

/-- A class name in several types is one in one of them. -/
theorem mem_classNamesOfAll {types : List PropertyType} {name : QualifiedName} :
    name ∈ classNamesOfAll types ↔ ∃ type ∈ types, name ∈ type.classNames := by
  induction types with
  | nil => simp [classNamesOfAll]
  | cons type types ih => simp [classNamesOfAll, ih]

/-- The value class that a type holds is one of its class names. -/
theorem mem_classNames_of_heldValueClass? {type : PropertyType} {reference : QualifiedName}
    (h : type.heldValueClass? = some reference) : reference ∈ type.classNames := by
  unfold heldValueClass? at h
  split at h
  case h_1 | h_2 | h_3 =>
    cases h
    simp [classNames]
  case h_4 => cases h

section
variable {package : String}

/-- The class that a name denotes is read back. -/
theorem ClassNamed.readsBack {name : String} {referred : QualifiedName}
    (h : ClassNamed package name referred) (hpackage : QualifiedName.ReadsAsPackage package) :
    referred.ReadsBack := by
  cases h with
  | qualified => exact QualifiedName.readsBack_ofDotted name
  | unqualified => exact (QualifiedName.readsBack_ofDotted name).inPackage hpackage

/-- All class names of what a name denotes are read back if those of the arguments are. -/
theorem NameDenotes.classNames_readBack {name : String} {types : List PropertyType}
    {type : PropertyType} (h : NameDenotes package name types type)
    (hpackage : QualifiedName.ReadsAsPackage package)
    (htypes : ∀ argument ∈ types, AllReadBack argument.classNames) :
    AllReadBack type.classNames := by
  cases h with
  | primitive => exact allReadBack_nil
  | @list element => exact htypes element (by simp)
  | @map key element =>
    exact allReadBack_append.2 ⟨htypes key (by simp), htypes element (by simp)⟩
  | valueRef _ hclass => exact allReadBack_cons.2 ⟨hclass.readsBack hpackage, allReadBack_nil⟩
  | parameterized _ hclass _ =>
    refine allReadBack_cons.2 ⟨hclass.readsBack hpackage, fun name hname => ?_⟩
    obtain ⟨type, htype, hname⟩ := mem_classNamesOfAll.1 hname
    exact htypes type htype name hname

/-- All class names of the type that a tree denotes are read back. -/
theorem classNames_readBack_of_denotes (hpackage : QualifiedName.ReadsAsPackage package)
    {term : TypeTerm} (hwell : term.WellFormed) {type : PropertyType}
    (h : term.Denotes package type) : AllReadBack type.classNames := by
  induction hwell generalizing type with
  | apply _ _ _ ih =>
    obtain ⟨hdenoted, hname⟩ := h
    refine hname.classNames_readBack hpackage fun type htype => ?_
    obtain ⟨argument, hargument, hdenotes⟩ := exists_mem_of_forall₂ hdenoted htype
    exact ih argument hargument hdenotes

/-- All class names of a type that is read from a text are read back. -/
theorem classNames_readBack_of_parse {text : String} {type : PropertyType}
    (hpackage : QualifiedName.ReadsAsPackage package) (h : parse package text = .ok type) :
    AllReadBack type.classNames := by
  obtain ⟨term, hwritten, hdenotes⟩ := parse_eq_ok_iff_writtenAs.1 h
  exact classNames_readBack_of_denotes hpackage hwritten.wellFormed hdenotes

end

end PropertyType

end ValueShadow
