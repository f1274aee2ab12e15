import ValueShadow.Proofs.Session.Ownership

/-!
# The order of a catalog

The order of a catalog decides the order of the turns, and with it which of two value classes that
claim one class gets it. In a run without failures there are no two such classes, and then the order
decides nothing but the order of the units: over the same entries in another order a run visits the
same names (`Reordered.names_subset`), so it generates the same units, and as these claim different
classes, no attempt finds its class taken (`Reordered.failures_eq_nil`).
-/

namespace ValueShadow.Session

/-- The other session has the settings of this one and its entries in another order. Their names are
distinct. -/
structure Reordered (session other : Session) : Prop where
  settings : other.settings = session.settings
  catalog : session.catalog.Perm other.catalog
  distinct : (session.catalog.map ValueClass.name).Nodup

namespace Reordered

variable {session other : Session}

/-- This session has the entries of the other one in another order. -/
theorem symm (h : session.Reordered other) : other.Reordered session where
  settings := h.settings.symm
  catalog := h.catalog.symm
  distinct := (h.catalog.map ValueClass.name).nodup_iff.1 h.distinct

/-- What is generated for an entry does not depend on the order. -/
theorem generate_eq (h : session.Reordered other) (value : ValueClass) :
    other.generate value = session.generate value := by
  rw [generate, generate, h.settings]

/-- What a unit claims does not depend on the order. -/
theorem claimed_eq (h : session.Reordered other) (unit : GeneratedClass) :
    other.claimed unit = session.claimed unit := by
  rw [claimed, claimed, h.settings]

/-- A name is found in one order if it is found in the other. -/
theorem find?_isSome_iff (h : session.Reordered other) {name : QualifiedName} :
    (other.find? name).isSome ↔ (session.find? name).isSome := by
  rw [find?_isSome, find?_isSome]
  exact (h.catalog.map ValueClass.name).mem_iff.symm

/-- The marked entries are the same. -/
theorem mem_marked (h : session.Reordered other) {value : ValueClass}
    (hmarked : value ∈ other.marked) : value ∈ session.marked := by
  obtain ⟨hmem, hmark⟩ := List.mem_filter.1 hmarked
  rw [h.settings] at hmark
  exact List.mem_filter.2 ⟨h.catalog.mem_iff.2 hmem, hmark⟩

/-- An entry of a name that a run without failures visits is generated, and the run has the unit. -/
theorem exists_unit (h : session.Reordered other) (hsuccess : session.run.failures = [])
    {value : ValueClass} (hmem : value ∈ session.catalog)
    (hname : value.name ∈ session.run.names) :
    ∃ unit ∈ session.run.units, session.generate value = .ok unit := by
  rw [Report.names, hsuccess, List.map_nil, List.append_nil] at hname
  obtain ⟨unit, hunit, hvalue⟩ := List.mem_map.1 hname
  obtain ⟨entry, hentry, hname', hgenerate⟩ := session.sound_final.units unit hunit
  obtain rfl := List.inj_on_of_nodup_map h.distinct hentry hmem (hname'.trans hvalue)
  exact ⟨unit, hunit, hgenerate⟩

/-- A unit of the other run is one of this run, if this run visits its value class. -/
theorem unit_mem (h : session.Reordered other) (hsuccess : session.run.failures = [])
    {unit : GeneratedClass} (hunit : unit ∈ other.run.units)
    (hname : unit.valueClass ∈ session.run.names) : unit ∈ session.run.units := by
  obtain ⟨value, hmem, hvalue, hgenerate⟩ := other.sound_final.units unit hunit
  rw [← hvalue] at hname
  obtain ⟨unit', hunit', hgenerate'⟩ :=
    h.exists_unit hsuccess (h.catalog.mem_iff.2 hmem) hname
  rw [h.generate_eq, hgenerate'] at hgenerate
  cases hgenerate
  exact hunit'

/-- The other run visits no name that this run does not visit, if this run has no failures. -/
theorem names_subset (h : session.Reordered other) (hsuccess : session.run.failures = []) :
    other.run.names ⊆ session.run.names := by
  intro name hname
  change name ∈ {name | name ∈ session.run.names}
  refine mem_of_mem_names ?_ ?_ hname
  · exact fun value hvalue => mem_names_iff.2 (.inl (List.mem_map_of_mem (h.mem_marked hvalue)))
  · rintro _ reference ⟨unit, hunit, rfl, hreference, hfind⟩ hvisited
    have hunit' := h.unit_mem hsuccess hunit hvisited
    exact mem_names_of_reference hunit' hreference (h.find?_isSome_iff.1 hfind)

/-- The units of the other run are among those of this run, if this run has no failures. -/
theorem units_subset (h : session.Reordered other) (hsuccess : session.run.failures = []) :
    other.run.units ⊆ session.run.units := by
  intro unit hunit
  have hname : unit.valueClass ∈ other.run.names :=
    List.mem_append_left _ (List.mem_map_of_mem hunit)
  exact h.unit_mem hsuccess hunit (h.names_subset hsuccess hname)

/-- The other run has no failures if this one has none. -/
theorem failures_eq_nil (h : session.Reordered other) (hsuccess : session.run.failures = []) :
    other.run.failures = [] := by
  refine List.eq_nil_iff_forall_not_mem.2 fun failure hfailure => ?_
  obtain ⟨value, before, hturn, hname, hattempt⟩ := exists_hasTurn_of_failure hfailure
  have hvisited : value.name ∈ session.run.names := by
    rw [hname]
    exact h.names_subset hsuccess (List.mem_append_right _ (List.mem_map_of_mem hfailure))
  obtain ⟨unit, hunit, hgenerate⟩ :=
    h.exists_unit hsuccess (h.catalog.mem_iff.2 hturn.mem_catalog) hvisited
  rw [← h.generate_eq] at hgenerate
  -- The entry can be generated, so a unit before it claimed its class. Both are units of this run.
  obtain ⟨owner, howner, hother, hclaimed⟩ :=
    (hturn.failure_iff hgenerate).1 ⟨failure, hfailure, hname.symm⟩
  have howner' := h.units_subset hsuccess (hturn.extends_final.units.subset howner)
  rw [h.claimed_eq, h.claimed_eq] at hclaimed
  rw [eq_of_claimed_eq howner' hunit hclaimed] at hother
  exact hother (valueClass_of_generate hgenerate)

end Reordered

/-- The units of a run are distinct. -/
theorem nodup_units (session : Session) : session.run.units.Nodup :=
  .of_map _ (List.nodup_append.1 session.nodup_names).1

/-- The order of the catalog does not decide what is generated. If a run over entries of distinct
names has no failures, a run over them in any other order has none either, and it has the same
units, possibly in another order. -/
theorem run_perm {session : Session} {catalog : List ValueClass}
    (hperm : session.catalog.Perm catalog)
    (hdistinct : (session.catalog.map ValueClass.name).Nodup)
    (hsuccess : session.run.failures = []) :
    ({ session with catalog } : Session).run.failures = [] ∧
      session.run.units.Perm ({ session with catalog } : Session).run.units := by
  have hreordered : session.Reordered { session with catalog } := ⟨rfl, hperm, hdistinct⟩
  have hsuccess' := hreordered.failures_eq_nil hsuccess
  refine ⟨hsuccess', ?_⟩
  rw [List.perm_ext_iff_of_nodup session.nodup_units (nodup_units _)]
  intro unit
  constructor
  · intro hunit
    exact hreordered.symm.units_subset hsuccess' hunit
  · intro hunit
    exact hreordered.units_subset hsuccess hunit

/-- The name of an order. -/
def orderName : QualifiedName :=
  .ofClass "com.example" "Order"

/-- The name of a line of an order. -/
def lineName : QualifiedName :=
  .ofClass "com.example" "Line"

/-- An order, which has lines. -/
def order : ValueClass :=
  markedClass orderName
    { properties := [⟨"lines", .collection .list (.valueRef lineName), none, []⟩]
      spellable := by decide +kernel
      distinct := by decide }

/-- A line, which is part of an order. -/
def line : ValueClass :=
  markedClass lineName
    { properties := [⟨"order", .valueRef orderName, none, []⟩]
      spellable := by decide +kernel
      distinct := by decide }

/-- The order and the line are generated in the order in which the catalog has them. -/
theorem run_perm_order_line :
    (Session.mk {} [order, line]).run.failures = [] ∧
      (Session.mk {} [line, order]).run.failures = [] ∧
      (Session.mk {} [order, line]).run.units.Perm (Session.mk {} [line, order]).run.units ∧
      (Session.mk {} [order, line]).run.units.map (·.valueClass) = [orderName, lineName] ∧
      (Session.mk {} [line, order]).run.units.map (·.valueClass) = [lineName, orderName] := by
  have hsuccess : (Session.mk {} [order, line]).run.failures = [] := by
    rw [← List.isEmpty_iff]
    decide +kernel
  obtain ⟨hsuccess', hunits⟩ := run_perm (List.Perm.swap line order []) (by decide) hsuccess
  exact ⟨hsuccess, hsuccess', hunits, by decide +kernel, by decide +kernel⟩

end ValueShadow.Session
