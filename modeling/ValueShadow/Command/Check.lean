import ValueShadow.Manifest.Basic

/-!
# Checking a manifest

A check tries every value class of a manifest, marked or not, and writes nothing.
-/

namespace ValueShadow

/-- What a check found. -/
structure CheckSummary where
  /-- The number of entries. -/
  checked : Nat
  /-- The number of value classes that carry the marker. -/
  marked : Nat
  /-- The entries that are no value classes, then the value classes that fail. -/
  failures : List EntryFailure
  events : List Event

/-- Tries every value class of the manifest. -/
def Manifest.check (manifest : Manifest) : CheckSummary :=
  let catalog := manifest.catalog
  let session := manifest.session
  let (failures, events) := session.checkAll
  { checked := manifest.values.length
    marked := session.marked.length
    failures := catalog.failures ++ failures.map .ofFailure
    events := catalog.events ++ events }

end ValueShadow
