import ValueShadow.Java.Source
import ValueShadow.Proofs.Java.Scope
import ValueShadow.Proofs.ShadowClass.Assembly

/-!
# Names that the shadow class captures

Inside a generated class the simple name of the shadow class denotes the shadow class, whatever the
scope of the file says. A spelled name that starts with this identifier is captured. The scope does
not know the shadow class, so it gives the simple name to one of the classes that the file mentions
if any of them has it: nothing is captured exactly if none of them has it, unless it belongs to the
generated class, and no class that is written in full lies in a package that starts with it
(`uncaptured_iff`).
-/

namespace ValueShadow.Java

/-- A text has identifiers, even if they are empty. -/
theorem identifiers_ne_nil (text : String) : Text.segments '.' text ≠ [] :=
  Text.segments_ne_nil '.' text

/-- What stands before the first dot. -/
def firstIdentifier (text : String) : String :=
  (Text.segments '.' text).head (identifiers_ne_nil text)

/-- What stands behind a dot does not matter. -/
theorem firstIdentifier_append_dot (first second : String) :
    firstIdentifier (first ++ "." ++ second) = firstIdentifier first := by
  have hsegments : Text.segments '.' (first ++ "." ++ second) =
      Text.segments '.' first ++ Text.segments '.' second :=
    Text.segments_append first second
  simp only [firstIdentifier, hsegments]
  exact List.head_append_of_ne_nil (identifiers_ne_nil first)

/-- A relative name starts like the simple name of the outermost class. -/
theorem firstIdentifier_relativeName (name : QualifiedName) :
    firstIdentifier name.relativeName = firstIdentifier name.topLevel.simpleName := by
  have hjoined : ∀ {parts : List String} (h : parts ≠ []),
      firstIdentifier (Text.joined '.' parts) = firstIdentifier (parts.head h) := by
    intro parts h
    match parts with
    | [only] => simp [Text.joined]
    | first :: next :: others =>
      have happend : Text.joined '.' (first :: next :: others) =
          Text.joined '.' [first] ++ "." ++ Text.joined '.' (next :: others) :=
        Text.joined_append (List.cons_ne_nil first []) (List.cons_ne_nil next others)
      rw [happend, firstIdentifier_append_dot]
      simp [Text.joined]
  exact hjoined name.nonempty

section
variable {naming : Naming} {value : ValueClass} {generated : GeneratedClass}

/-- The wrapper of a generated class is its own outermost class. -/
theorem topLevel_wrapper_name {converted : List ConvertedProperty}
    (h : generated.Assembled naming value converted) :
    generated.wrapper.name.topLevel = generated.wrapper.name := by
  obtain ⟨-, simpleName, hname, -⟩ := Naming.classBeingGenerated_cases h.wrapperName
  rw [hname]
  rfl

/-- If no spelled name starts with an identifier, the identifier does not start the simple name of a
mentioned class, unless that simple name is the wrapper's and the class another one. -/
theorem simpleName_of_uncaptured {identifier : String}
    (huncaptured : ∀ name ∈ mentions generated,
      firstIdentifier ((scopeOf generated).spell name) ≠ identifier)
    {name : QualifiedName} (hname : name ∈ mentions generated)
    (hfirst : firstIdentifier name.topLevel.simpleName = identifier) :
    name.topLevel.simpleName = generated.wrapper.name.topLevel.simpleName ∧
      name.topLevel ≠ generated.wrapper.name.topLevel := by
  -- A mentioned class whose outermost class is an owner is spelled by its relative name.
  have hnot : ∀ other ∈ mentions generated,
      other.topLevel.simpleName = name.topLevel.simpleName →
      ¬ Owns generated.wrapper.name.package generated.wrapper.name (mentions generated)
        other.topLevel := by
    intro other hother hsame howns
    refine huncaptured other hother ?_
    rw [scopeOf, Scope.spell_of_owns howns, firstIdentifier_relativeName, hsame, hfirst]
  have hsome : ((scopeOf generated).owner? name.topLevel.simpleName).isSome = true :=
    Scope.owner?_isSome_iff.2 (.inr ⟨_, ⟨name, hname, rfl⟩, rfl⟩)
  obtain ⟨owner, howner⟩ := Option.isSome_iff_exists.1 hsome
  obtain ⟨howns, hsame⟩ := Scope.owner?_eq_some_iff.1 howner
  cases howns with
  | declared =>
    refine ⟨hsame.symm, fun heq => hnot name hname rfl ?_⟩
    rw [heq]
    exact .declared
  | implicit hne hleast =>
    obtain ⟨⟨⟨other, hother, rfl⟩, -⟩, -⟩ := id hleast
    exact absurd (.implicit hne hleast) (hnot other hother hsame)
  | explicit hne hnone hleast =>
    obtain ⟨⟨⟨other, hother, rfl⟩, -⟩, -⟩ := id hleast
    exact absurd (.explicit hne hnone hleast) (hnot other hother hsame)

/-- No name that the file mentions is spelled with the simple name of the shadow class in front
exactly if no outermost class has that simple name, except for another class that is named like the
wrapper, and no name that is written in full starts with it. -/
theorem uncaptured_iff (h : GeneratedClass.ofValue naming value = .ok generated) :
    generated.shadow.name.simpleName = naming.shadowSuffix ∧
    ((∀ name ∈ mentions generated,
        firstIdentifier ((scopeOf generated).spell name) ≠ naming.shadowSuffix) ↔
      (∀ name ∈ mentions generated,
        firstIdentifier name.topLevel.simpleName = naming.shadowSuffix →
        name.topLevel.simpleName = generated.wrapper.name.simpleName ∧
          name.topLevel ≠ generated.wrapper.name) ∧
      ∀ name ∈ mentions generated,
        (scopeOf generated).owner? name.topLevel.simpleName ≠ some name.topLevel →
        firstIdentifier name.display ≠ naming.shadowSuffix) := by
  obtain ⟨converted, hassembled⟩ := GeneratedClass.exists_assembled h
  have hwrapper := topLevel_wrapper_name hassembled
  refine ⟨?_, fun huncaptured => ⟨fun name hname hfirst => ?_, fun name hname hlost => ?_⟩, ?_⟩
  · rw [hassembled.shadowName]
    simp [QualifiedName.nested, QualifiedName.simpleName]
  · have hsimple := simpleName_of_uncaptured huncaptured hname hfirst
    rwa [hwrapper] at hsimple
  · have hspell := huncaptured name hname
    rwa [Scope.spell, if_neg hlost] at hspell
  · rintro ⟨hsimple, hfull⟩ name hname hfirst
    by_cases howner : (scopeOf generated).owner? name.topLevel.simpleName = some name.topLevel
    · rw [Scope.spell, if_pos howner, firstIdentifier_relativeName] at hfirst
      obtain ⟨hsame, hne⟩ := hsimple name hname hfirst
      have howns := (Scope.owner?_eq_some_iff.1 howner).1
      refine hne ((howns.unique .declared ?_).trans hwrapper)
      rw [hwrapper, hsame]
    · rw [Scope.spell, if_neg howner] at hfirst
      exact hfull name hname howner hfirst

end

/-- An order that belongs to a value class of its package. -/
def ownedOrder (owner : String) : ValueClass where
  name := .ofClass "com.example" "Order"
  schema :=
    { properties := [⟨"owner", .valueRef (.ofClass "com.example" owner), none, []⟩]
      spellable := by
        have hname : isIdentifier "owner" = true ∧ getterName "owner" ≠ "getClass" := by
          decide +kernel
        simp [Property.problem?, hname]
      distinct := by simp }

/-- No name in the file of an order of a user is captured. -/
theorem uncaptured_iff_user :
    ∃ generated, GeneratedClass.ofValue {} (ownedOrder "User") = .ok generated ∧
      generated.shadow.name.simpleName = "FirebaseValue" ∧
      ∀ name ∈ mentions generated,
        firstIdentifier ((scopeOf generated).spell name) ≠ "FirebaseValue" := by
  have hgenerated : (GeneratedClass.ofValue {} (ownedOrder "User")).toOption.map (fun generated =>
      decide ((∀ name ∈ mentions generated,
          firstIdentifier name.topLevel.simpleName ≠ "FirebaseValue") ∧
        ∀ name ∈ mentions generated, firstIdentifier name.display ≠ "FirebaseValue")) =
      some true := by
    decide +kernel
  obtain ⟨generated, hgenerated, hnames⟩ := Option.map_eq_some_iff.1 hgenerated
  obtain ⟨hsimple, hfull⟩ := of_decide_eq_true hnames
  have hvalue := toOption_eq_some.1 hgenerated
  obtain ⟨hshadow, huncaptured⟩ := uncaptured_iff hvalue
  refine ⟨generated, hvalue, hshadow, huncaptured.2 ⟨fun name hname hfirst => ?_, ?_⟩⟩
  · exact absurd hfirst (hsimple name hname)
  · exact fun name hname _ => hfull name hname

/-- A value class with the simple name of the shadow class is captured. -/
theorem not_uncaptured_shadowSuffix :
    ∃ generated, GeneratedClass.ofValue {} (ownedOrder "FirebaseValue") = .ok generated ∧
      generated.shadow.name.simpleName = "FirebaseValue" ∧
      .ofClass "com.example" "FirebaseValue" ∈ mentions generated ∧
      (scopeOf generated).spell (.ofClass "com.example" "FirebaseValue") = "FirebaseValue" ∧
      ¬ ∀ name ∈ mentions generated,
        firstIdentifier ((scopeOf generated).spell name) ≠ generated.shadow.name.simpleName := by
  have hgenerated :
      (GeneratedClass.ofValue {} (ownedOrder "FirebaseValue")).toOption.map (fun generated =>
        decide (generated.shadow.name.simpleName = "FirebaseValue" ∧
          QualifiedName.ofClass "com.example" "FirebaseValue" ∈ mentions generated ∧
          (scopeOf generated).spell (.ofClass "com.example" "FirebaseValue") = "FirebaseValue")) =
      some true := by
    decide +kernel
  obtain ⟨generated, hgenerated, hnames⟩ := Option.map_eq_some_iff.1 hgenerated
  obtain ⟨hshadow, hmentioned, hspell⟩ := of_decide_eq_true hnames
  refine ⟨generated, toOption_eq_some.1 hgenerated, hshadow, hmentioned, hspell, fun hall => ?_⟩
  refine hall _ hmentioned ?_
  rw [hspell, hshadow]
  decide +kernel

end ValueShadow.Java
