import ValueShadow.Proofs.Naming

/-!
# Stages of a generated class

A value class may ask for a name of its own for the class being generated. It gets an identifier
that is the derived name behind any number of chain markers, and nothing else; where the derived
name starts with a marker itself, it gets none (`accepts_iff`). Each generator of a chain generates
the class that the next one extends, so it is asked for the name of the next stage with one more
marker in front. This name is accepted again (`Accepts.next`), and all stages of a chain have one
canonical class, which is the one that references spell (`Accepts.of_isChain`).
-/

namespace ValueShadow

/-! ## Leading markers -/

/-- The text behind this many markers. -/
def behindMarkers (marker : Char) (count : Nat) (text : String) : String :=
  String.ofList (List.replicate count marker) ++ text

theorem toList_behindMarkers (marker : Char) (count : Nat) (text : String) :
    (behindMarkers marker count text).toList = List.replicate count marker ++ text.toList := by
  simp [behindMarkers]

/-- One more marker in front. -/
theorem singleton_append_behindMarkers (marker : Char) (count : Nat) (text : String) :
    String.singleton marker ++ behindMarkers marker count text =
      behindMarkers marker (count + 1) text := by
  rw [← String.toList_inj, String.toList_append, toList_behindMarkers, toList_behindMarkers,
    String.toList_singleton, List.replicate_succ]
  rfl

/-- How many markers the text starts with. -/
def markerCount (marker : Char) (text : String) : Nat :=
  (text.toList.takeWhile (· == marker)).length

/-- A text is what is left without the leading markers, behind them. -/
theorem eq_behindMarkers_stripMarkers (marker : Char) (text : String) :
    text = behindMarkers marker (markerCount marker text) (stripMarkers marker text) := by
  have hmarkers : text.toList.takeWhile (· == marker) =
      List.replicate (markerCount marker text) marker :=
    List.eq_replicate_iff.2 ⟨rfl, fun c hc => by simpa using List.mem_takeWhile_imp hc⟩
  rw [← String.toList_inj, toList_behindMarkers, ← hmarkers, stripMarkers, String.toList_ofList,
    List.takeWhile_append_dropWhile]

/-- What is left after the leading markers is the one text that starts with no marker and has the
whole text behind some markers. -/
theorem stripMarkers_eq_iff {marker : Char} {text rest : String} :
    stripMarkers marker text = rest ↔
      rest.toList.head? ≠ some marker ∧ ∃ count, text = behindMarkers marker count rest := by
  constructor
  · rintro rfl
    refine ⟨stripMarkers_eq_self_iff.1 (stripMarkers_stripMarkers marker text), ?_⟩
    exact ⟨_, eq_behindMarkers_stripMarkers marker text⟩
  · rintro ⟨hhead, count, rfl⟩
    have hrest := stripMarkers_eq_self_iff.2 hhead
    rw [← String.toList_inj, stripMarkers, String.toList_ofList] at hrest ⊢
    rw [toList_behindMarkers, List.dropWhile_append_of_pos (by simp), hrest]

/-! ## Chains of generators -/

/-- The value class, asked for a class of this simple name. -/
def ValueClass.asking (value : ValueClass) (simpleName : String) : ValueClass :=
  { value with generatedName := some simpleName }

namespace Naming

/-- The class is generated under the name that it is asked for. -/
def Accepts (naming : Naming) (value : ValueClass) (simpleName : String) : Prop :=
  ∃ name, naming.classBeingGenerated (value.asking simpleName) = .ok name

/-- The class that is generated under the name `stage` extends one that can be called `earlier`, so
the generator before it is asked for this name. -/
def Extends (naming : Naming) (value : ValueClass) (stage earlier : String) : Prop :=
  naming.superclass (value.asking stage) = .ok earlier ∧ isIdentifier earlier = true

section
variable {naming : Naming} {value : ValueClass}

/-- A class beside one whose name passes its check passes it with any identifier. -/
theorem check_ofClass_eq_ok {name : QualifiedName} (hcheck : name.check = .ok ())
    {simpleName : String} :
    (QualifiedName.ofClass name.package simpleName).check = .ok () ↔
      isIdentifier simpleName = true := by
  rw [QualifiedName.check_eq_ok]
  constructor
  · rintro ⟨-, hsimple⟩
    exact hsimple simpleName (.head _)
  · intro hsimple
    refine ⟨(QualifiedName.check_eq_ok.1 hcheck).1, ?_⟩
    simpa [QualifiedName.ofClass] using hsimple

/-- The class is generated under the name that it is asked for, an identifier that is the derived
name without its leading markers. -/
theorem classBeingGenerated_asking (hcheck : value.name.check = .ok ()) {simpleName : String}
    {name : QualifiedName} :
    naming.classBeingGenerated (value.asking simpleName) = .ok name ↔
      name = .ofClass value.name.package simpleName ∧ isIdentifier simpleName = true ∧
        stripMarkers naming.chainMarker simpleName = naming.generatedSimpleName value.name := by
  rw [classBeingGenerated_eq_ok]
  simp only [ValueClass.asking, hcheck, reduceCtorEq, false_and, false_or, true_and,
    Option.some.injEq, exists_eq_left']
  constructor
  · rintro ⟨rfl, hname, hcanonical⟩
    rw [canonical_ofClass, QualifiedName.ofClass_inj] at hcanonical
    exact ⟨rfl, (check_ofClass_eq_ok hcheck).1 hname, hcanonical.2⟩
  · rintro ⟨rfl, hidentifier, hstrip⟩
    exact ⟨rfl, (check_ofClass_eq_ok hcheck).2 hidentifier, by rw [canonical_ofClass, hstrip]⟩

/-- The accepted names are the identifiers that are the derived name behind chain markers. There are
none if the derived name starts with a marker. -/
theorem accepts_iff (hcheck : value.name.check = .ok ()) {simpleName : String} :
    naming.Accepts value simpleName ↔
      isIdentifier simpleName = true ∧
        (naming.generatedSimpleName value.name).toList.head? ≠ some naming.chainMarker ∧
        ∃ count, simpleName =
          behindMarkers naming.chainMarker count (naming.generatedSimpleName value.name) := by
  simp only [Accepts, classBeingGenerated_asking hcheck, exists_eq_left, stripMarkers_eq_iff]

/-- The class that is generated under an accepted name extends, by default, the one with one more
marker in front. -/
theorem Accepts.superclass_eq {simpleName : String} (h : naming.Accepts value simpleName)
    (hcheck : value.name.check = .ok ()) (hdefault : value.superclassName = none) :
    naming.superclass (value.asking simpleName) =
      .ok (String.singleton naming.chainMarker ++ simpleName) := by
  obtain ⟨name, hname⟩ := h
  obtain ⟨rfl, -⟩ := (classBeingGenerated_asking hcheck).1 hname
  simp only [superclass, ValueClass.asking, hdefault]
  exact bind_eq_ok.2 ⟨_, hname, rfl⟩

/-- One more marker makes another accepted name, if it makes an identifier. -/
theorem Accepts.next {simpleName : String} (h : naming.Accepts value simpleName)
    (hcheck : value.name.check = .ok ())
    (hidentifier : isIdentifier (String.singleton naming.chainMarker ++ simpleName) = true) :
    naming.Accepts value (String.singleton naming.chainMarker ++ simpleName) := by
  obtain ⟨-, hhead, count, rfl⟩ := (accepts_iff hcheck).1 h
  rw [singleton_append_behindMarkers] at hidentifier ⊢
  exact (accepts_iff hcheck).2 ⟨hidentifier, hhead, count + 1, rfl⟩

/-- All stages of a chain are accepted if the first one is. -/
theorem Accepts.of_isChain (hcheck : value.name.check = .ok ())
    (hdefault : value.superclassName = none) {first : String} {stages : List String}
    (h : naming.Accepts value first) (hchain : (first :: stages).IsChain (naming.Extends value)) :
    ∀ stage ∈ first :: stages, naming.Accepts value stage := by
  induction stages generalizing first with
  | nil => simpa using h
  | cons stage stages ih =>
    obtain ⟨⟨hsuper, hidentifier⟩, hchain⟩ := List.isChain_cons_cons.1 hchain
    obtain rfl := Except.ok.inj (hsuper.symm.trans (h.superclass_eq hcheck hdefault))
    exact List.forall_mem_cons.2 ⟨h, ih (h.next hcheck hidentifier) hchain⟩

end

/-- Of all names that a value class can be asked for, exactly the identifiers that are the derived
name behind chain markers are accepted, and only where the derived name does not start with a marker
itself. The class of an accepted name is in the package of the value class and has the derived class
as its canonical class. It extends the class with one more marker in front, by default, and so all
classes of a chain of generators have one canonical class. -/
theorem accepted_names_are_stages (naming : Naming) (value : ValueClass)
    (hcheck : value.name.check = .ok ()) :
    (∀ simpleName, naming.Accepts value simpleName ↔
      isIdentifier simpleName = true ∧
        (naming.generatedSimpleName value.name).toList.head? ≠ some naming.chainMarker ∧
        ∃ count, simpleName =
          behindMarkers naming.chainMarker count (naming.generatedSimpleName value.name)) ∧
    (∀ simpleName name, naming.classBeingGenerated (value.asking simpleName) = .ok name →
      name = .ofClass value.name.package simpleName ∧
        naming.generatedClass value.name = .ok (naming.canonical name)) ∧
    (value.superclassName = none →
      (∀ simpleName earlier, naming.Accepts value simpleName →
        earlier = String.singleton naming.chainMarker ++ simpleName →
        isIdentifier earlier = true →
        naming.superclass (value.asking simpleName) = .ok earlier ∧ naming.Accepts value earlier) ∧
      ∀ first stages, naming.Accepts value first →
        (first :: stages).IsChain (naming.Extends value) →
        ∀ stage ∈ first :: stages, ∃ name,
          naming.classBeingGenerated (value.asking stage) = .ok name ∧
            naming.generatedClass value.name = .ok (naming.canonical name)) := by
  have hfinal : ∀ simpleName name, naming.classBeingGenerated (value.asking simpleName) = .ok name →
      name = .ofClass value.name.package simpleName ∧
        naming.generatedClass value.name = .ok (naming.canonical name) := by
    intro simpleName name hname
    obtain ⟨rfl, -, hstrip⟩ := (classBeingGenerated_asking hcheck).1 hname
    exact ⟨rfl, generatedClass_eq_ok.2 ⟨hcheck, by rw [canonical_ofClass, hstrip]⟩⟩
  refine ⟨fun _ => accepts_iff hcheck, hfinal, fun hdefault => ⟨?_, ?_⟩⟩
  · rintro simpleName _ haccepts rfl hidentifier
    exact ⟨haccepts.superclass_eq hcheck hdefault, haccepts.next hcheck hidentifier⟩
  · intro first stages haccepts hchain stage hstage
    obtain ⟨name, hname⟩ := haccepts.of_isChain hcheck hdefault hchain stage hstage
    exact ⟨name, hname, (hfinal stage name hname).2⟩

/-- An item without properties and without wishes. -/
def unnamedItem : ValueClass where
  name := .ofClass "com.example" "Item"
  schema := .empty

/-- Three generators make a chain for the item, and each of them ends in the same class. A name that
only goes on like the derived one is not accepted. -/
theorem accepted_names_are_stages_item :
    unnamedItem.name.check = .ok () ∧ unnamedItem.superclassName = none ∧
      ["AutoValue_Item", "$AutoValue_Item", "$$AutoValue_Item"].IsChain
        (Naming.Extends {} unnamedItem) ∧
      (∀ stage ∈ ["AutoValue_Item", "$AutoValue_Item", "$$AutoValue_Item"], ∃ name,
        Naming.classBeingGenerated {} (unnamedItem.asking stage) = .ok name ∧
          Naming.generatedClass {} unnamedItem.name = .ok (Naming.canonical {} name)) ∧
      ¬ Naming.Accepts {} unnamedItem "AutoValue_Item_" := by
  have hcheck : unnamedItem.name.check = .ok () := by
    rw [QualifiedName.check_eq_ok]
    decide +kernel
  obtain ⟨haccepts, -, hstages⟩ := accepted_names_are_stages {} unnamedItem hcheck
  obtain ⟨hnext, hchain⟩ := hstages rfl
  have hfirst : Naming.Accepts {} unnamedItem "AutoValue_Item" :=
    (haccepts _).2 ⟨by decide +kernel, by decide, 0, by decide⟩
  obtain ⟨hsuper, hsecond⟩ := hnext _ "$AutoValue_Item" hfirst (by decide) (by decide +kernel)
  obtain ⟨hsuper', -⟩ := hnext _ "$$AutoValue_Item" hsecond (by decide) (by decide +kernel)
  have hstages : ["AutoValue_Item", "$AutoValue_Item", "$$AutoValue_Item"].IsChain
      (Naming.Extends {} unnamedItem) := by
    simp only [List.isChain_cons_cons, List.IsChain.singleton, and_true]
    exact ⟨⟨hsuper, by decide +kernel⟩, hsuper', by decide +kernel⟩
  refine ⟨hcheck, rfl, hstages, hchain _ _ hfirst hstages, fun h => ?_⟩
  obtain ⟨-, -, count, hname⟩ := (haccepts _).1 h
  have hlast := congrArg (·.toList.getLast?) hname
  simp [toList_behindMarkers, generatedSimpleName, unnamedItem, QualifiedName.ofClass,
    Text.joined] at hlast

end Naming

end ValueShadow
