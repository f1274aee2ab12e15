import ValueShadow.Proofs.LocalNames
import ValueShadow.Proofs.ShadowClass.Assembly

/-!
# Local variables of a shadow class

The forward constructor has one parameter, and lists and maps are converted in loops with one
variable each, in both directions. The three names are handed out one after the other while the
names of the properties are in use (`ShadowClass.exists_locals`), so they are identifiers that
differ from each other and from all properties, however the properties and the value class are
called. No statement declares a variable whose name is in scope where it stands (`locals_apart`).
-/

namespace ValueShadow

/-- The loop variable of the conversion is `item` for a list and `entry` for a map. -/
def Conversion.LoopsWith (item entry : String) : Conversion → Prop
  | .copy | .nested .. => True
  | .nestedList _ _ loop => loop = item
  | .nestedMap _ _ _ loop => loop = entry

/-- The loop variable that a statement with this conversion declares. -/
def Conversion.loopVariable? : Conversion → Option String
  | .copy | .nested .. => none
  | .nestedList _ _ loop | .nestedMap _ _ _ loop => some loop

namespace ShadowClass

/-- What is in scope inside a statement of the forward constructor: the fields, the parameter and
the loop variable. -/
def forwardScope (shadow : ShadowClass) (assignment : FieldAssignment) : List String :=
  shadow.fields.map (·.name) ++
    shadow.forwardConstructor.parameter.name :: assignment.conversion.loopVariable?.toList

/-- What is declared around or inside a statement of the reverse conversion: the local variables,
which have the names of the fields, and the loop variable. -/
def reverseScope (shadow : ShadowClass) (binding : ReverseBinding) : List String :=
  shadow.reverseConversion.bindings.map (·.target.name) ++ binding.conversion.loopVariable?.toList

end ShadowClass

section
variable {naming : Naming} {value : ValueClass} {item entry : String}

/-- The conversion made for a shape has the loop variables that are given for it. -/
theorem Shape.loopsWith_conversion {shape : Shape} {conversion : Conversion}
    (h : shape.conversion naming item entry = .ok conversion) :
    conversion.LoopsWith item entry := by
  cases shape with
  | verbatim =>
    cases h
    trivial
  | nested value =>
    obtain ⟨_, -, h⟩ := bind_eq_ok.1 h
    cases h
    trivial
  | nestedList value | nestedMap key value =>
    obtain ⟨_, -, h⟩ := bind_eq_ok.1 h
    cases h
    rfl

/-- The parameter and the loop variables of a shadow class are handed out one after the other, with
the names of the properties in use. -/
theorem ShadowClass.exists_locals {shaped : List ShapedProperty} {shadow : ShadowClass}
    (hshaped : value.schema.shaped = .ok shaped)
    (h : ShadowClass.ofShaped naming value shaped = .ok shadow) :
    ∃ (item entry : String) (converted : List ConvertedProperty),
      [shadow.forwardConstructor.parameter.name, item, entry] =
        LocalNames.allocateAll ⟨value.schema.names⟩
          [decapitalize value.name.simpleName, "item", "entry"] ∧
      (∀ c ∈ converted, c.conversion.LoopsWith item entry) ∧
      converted.map (·.property.name) = value.schema.names ∧
      shadow.fields = converted.map (·.field) ∧
      shadow.forwardConstructor.assignments = converted.map (·.assignment) ∧
      shadow.reverseConversion.bindings = converted.map (·.binding) := by
  have hnames : shaped.map (·.property.name) = value.schema.names := by
    rw [Schema.names, ← Schema.map_property_of_shaped hshaped, List.map_map]
    rfl
  obtain ⟨name, -, h⟩ := bind_eq_ok.1 h
  obtain ⟨converted, hconverted, h⟩ := bind_eq_ok.1 h
  obtain ⟨hproperties, -⟩ := ConvertedProperty.property_and_crosses hshaped hconverted
  cases h
  refine ⟨_, _, converted, by rw [← hnames]; rfl, fun c hc => ?_, ?_, rfl, rfl, rfl⟩
  · obtain ⟨s, -, hs⟩ := exists_mem_of_forall₂ (mapM_eq_ok.1 hconverted) hc
    exact Shape.loopsWith_conversion (ConvertedProperty.ofShaped_eq_ok hs).2
  · rw [Schema.names, ← hproperties, List.map_map]
    rfl

/-- Where two names differ from each other and from the names in scope, a statement with the loop
variables declares nothing that is in scope. -/
theorem Conversion.LoopsWith.nodup_append {conversion : Conversion} {scope : List String}
    (h : conversion.LoopsWith item entry) (hdistinct : (scope ++ [item, entry]).Nodup) :
    (scope ++ conversion.loopVariable?.toList).Nodup := by
  refine hdistinct.sublist ((List.Sublist.refl scope).append ?_)
  cases conversion with
  | copy | nested => exact List.nil_sublist _
  | nestedList _ _ loop =>
    obtain rfl : loop = item := h
    exact List.sublist_append_left [loop] [entry]
  | nestedMap _ _ _ loop =>
    obtain rfl : loop = entry := h
    exact List.sublist_append_right [item] [loop]

/-- The parameter of the forward constructor and the loop variables of all conversions are
identifiers that differ from each other and from all properties. So a statement of either direction
declares nothing that is in scope. -/
theorem locals_apart {shaped : List ShapedProperty} {shadow : ShadowClass}
    (hshaped : value.schema.shaped = .ok shaped)
    (h : ShadowClass.ofShaped naming value shaped = .ok shadow) :
    ∃ item entry,
      (∀ conversion ∈ shadow.conversions, conversion.LoopsWith item entry) ∧
      (∀ name ∈ [shadow.forwardConstructor.parameter.name, item, entry],
        isIdentifier name = true) ∧
      ([shadow.forwardConstructor.parameter.name, item, entry] ++ value.schema.names).Nodup ∧
      (∀ assignment ∈ shadow.forwardConstructor.assignments,
        (shadow.forwardScope assignment).Nodup) ∧
      ∀ binding ∈ shadow.reverseConversion.bindings, (shadow.reverseScope binding).Nodup := by
  obtain ⟨item, entry, converted, hlocals, hloops, hnames, hfields, hassignments, hbindings⟩ :=
    ShadowClass.exists_locals hshaped h
  have hdistinct := LocalNames.nodup_allocateAll_append ⟨value.schema.names⟩
    [decapitalize value.name.simpleName, "item", "entry"] value.schema.distinct
  rw [← hlocals] at hdistinct
  have hscope : (value.schema.names ++ [shadow.forwardConstructor.parameter.name] ++
      [item, entry]).Nodup := by
    rw [List.append_assoc]
    exact List.perm_append_comm.nodup_iff.1 hdistinct
  refine ⟨item, entry, fun conversion hconversion => ?_, fun name hname => ?_, hdistinct, ?_, ?_⟩
  · rw [ShadowClass.conversions, hassignments, hbindings, List.map_map, List.map_map,
      List.mem_append, List.mem_map, List.mem_map] at hconversion
    rcases hconversion with ⟨c, hc, rfl⟩ | ⟨c, hc, rfl⟩ <;> exact hloops c hc
  · rw [hlocals] at hname
    exact (LocalNames.isFree_iff.1 (LocalNames.isFree_of_mem_allocateAll hname)).2
  · rw [hassignments, List.forall_mem_map]
    intro c hc
    have hfieldNames : shadow.fields.map (·.name) = value.schema.names := by
      rw [hfields, List.map_map, ← hnames]
      rfl
    rw [ShadowClass.forwardScope, hfieldNames, List.append_cons]
    exact (hloops c hc).nodup_append hscope
  · rw [hbindings, List.forall_mem_map]
    intro c hc
    have htargets : shadow.reverseConversion.bindings.map (·.target.name) = value.schema.names := by
      rw [hbindings, List.map_map, ← hnames]
      rfl
    rw [ShadowClass.reverseScope, htargets]
    refine (hloops c hc).nodup_append (hscope.sublist ?_)
    exact (List.sublist_append_left _ _).append (List.Sublist.refl _)

end

/-- An item whose properties have the names that its local variables would have. -/
def crowdedItem : ValueClass where
  name := .ofClass "com.example" "Item"
  schema :=
    { properties := [
        ⟨"item", .collection .list (.valueRef (.ofClass "com.example" "Tag")), none, []⟩,
        ⟨"item_", .primitive (.unboxed .int), none, []⟩,
        ⟨"entry", .keyed .map (.primitive .string) (.valueRef (.ofClass "com.example" "Tag")),
          none, []⟩]
      spellable := by decide +kernel
      distinct := by decide }

/-- The local variables of the item have names of their own. -/
theorem locals_apart_crowdedItem :
    ∃ shaped shadow, crowdedItem.schema.shaped = .ok shaped ∧
      ShadowClass.ofShaped {} crowdedItem shaped = .ok shadow ∧
      shadow.forwardConstructor.parameter.name = "item__" ∧
      shadow.conversions.filterMap (·.loopVariable?) = ["item___", "entry_", "item___", "entry_"] ∧
      (∀ assignment ∈ shadow.forwardConstructor.assignments,
        (shadow.forwardScope assignment).Nodup) ∧
      ∀ binding ∈ shadow.reverseConversion.bindings, (shadow.reverseScope binding).Nodup := by
  have hfacts : (GeneratedClass.ofValue {} crowdedItem).toOption.map (fun generated =>
      (generated.shadow.forwardConstructor.parameter.name,
        generated.shadow.conversions.filterMap (·.loopVariable?))) =
      some ("item__", ["item___", "entry_", "item___", "entry_"]) := by
    decide +kernel
  obtain ⟨generated, hgenerated, hfacts⟩ := map_toOption_eq_some.1 hfacts
  obtain ⟨shaped, shadow, _, hshaped, hshadow, -, rfl⟩ := GeneratedClass.ofValue_eq_ok.1 hgenerated
  obtain ⟨hparameter, hloops⟩ := Prod.mk.inj hfacts
  obtain ⟨_, _, -, -, -, hforward, hreverse⟩ := locals_apart hshaped hshadow
  exact ⟨shaped, shadow, hshaped, hshadow, hparameter, hloops, hforward, hreverse⟩

end ValueShadow
