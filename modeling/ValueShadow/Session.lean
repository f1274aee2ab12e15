import ValueShadow.Session.Event
import ValueShadow.ShadowClass.Assembly

/-!
# Sessions

A session generates classes for a catalog of value classes. A run starts from the entries that carry
the marker, in catalog order, and follows the references of every class it generates, breadth first.
Each value class has its turn once. A value class that fails is reported and its references are not
followed. Two value classes may not have one generated class: the later one fails.
-/

namespace ValueShadow

/-- How a session names classes and which of them it generates. -/
structure Settings where
  naming : Naming := {}
  /-- The annotation that asks for generation. -/
  marker : String := "me.mattlogan.auto.value.firebase.annotation.FirebaseValue"
  deriving DecidableEq

/-- A value class for which nothing was generated. -/
structure Failure where
  valueClass : QualifiedName
  error : ShadowError

/-- The generated classes claimed so far, each with the value class that it belongs to. -/
abbrev Owners := List (QualifiedName × QualifiedName)

/-- The owners after `generated` claims its class, unless that belongs to another value class. -/
def Owners.claim (owners : Owners) (naming : Naming) (generated : GeneratedClass) :
    Result Owners :=
  let claimed := naming.canonical generated.wrapper.name
  match owners.lookup claimed with
  | some owner =>
    if owner = generated.valueClass then .ok owners
    else .error (.ambiguousName claimed (.claimed owner))
  | none => .ok ((claimed, generated.valueClass) :: owners)

/-- What a run has produced so far. -/
structure Report where
  /-- The generated classes, in the order of their turns. -/
  units : List GeneratedClass := []
  /-- The value classes that failed, in the order of their turns. -/
  failures : List Failure := []
  events : List Event := []

namespace Report

/-- Whether no value class failed. -/
def isSuccess (report : Report) : Bool :=
  report.failures.isEmpty

/-- What was generated for a value class. -/
def unit? (report : Report) (valueClass : QualifiedName) : Option GeneratedClass :=
  report.units.find? (·.valueClass == valueClass)

end Report

/-- A catalog of value classes with the settings for generating them. -/
structure Session where
  settings : Settings
  catalog : List ValueClass

namespace Session

/-- The entry of that name. -/
def find? (session : Session) (name : QualifiedName) : Option ValueClass :=
  session.catalog.find? (·.name == name)

/-- The entries that carry the marker. -/
def marked (session : Session) : List ValueClass :=
  session.catalog.filter (·.isMarked session.settings.marker)

/-- What is generated for a value class on its own. -/
def generate (session : Session) (value : ValueClass) : Result GeneratedClass :=
  GeneratedClass.ofValue session.settings.naming value

/-- The state of a run between two turns. -/
structure Progress where
  /-- The value classes that had their turn. -/
  visited : List QualifiedName := []
  /-- The references outside the catalog that were reported. -/
  missing : List QualifiedName := []
  owners : Owners := []
  report : Report := {}

namespace Progress

/-- The progress after these events. -/
def record (progress : Progress) (events : List Event) : Progress :=
  { progress with report := { progress.report with events := progress.report.events ++ events } }

/-- Reports the references of a value class that are outside the catalog and were not reported. -/
def recordMissing (progress : Progress) (value : QualifiedName) : List QualifiedName → Progress
  | [] => progress
  | reference :: references =>
    if reference ∈ progress.missing then
      progress.recordMissing value references
    else
      let progress := progress.record [.missing reference value]
      { progress with missing := reference :: progress.missing }.recordMissing value references

/-- The progress after a value class failed. -/
def fail (progress : Progress) (value : QualifiedName) (error : ShadowError) : Progress :=
  let progress := progress.record [.failed value error]
  { progress with
    report := { progress.report with failures := progress.report.failures ++ [⟨value, error⟩] } }

/-- The progress after a class was generated and claimed its name. -/
def succeed (progress : Progress) (session : Session) (generated : GeneratedClass) : Progress :=
  let absent := generated.references.filter fun reference => (session.find? reference).isNone
  let progress := progress.recordMissing generated.valueClass absent
  let progress := progress.record
    (generated.crossPackageReferences.map (.crossPackage generated.valueClass) ++
      [.generated generated.shadow.name])
  { progress with report := { progress.report with units := progress.report.units ++ [generated] } }

end Progress

/-- The turn of one value class: the progress after it, and the entries to visit later. -/
def visit (session : Session) (progress : Progress) (value : ValueClass) :
    Progress × List ValueClass :=
  let progress := { progress with visited := value.name :: progress.visited }
  match session.generate value with
  | .error error => (progress.fail value.name error, [])
  | .ok generated =>
    let progress :=
      progress.record [.built generated.shadow.name generated.shadow.fields.length]
    match progress.owners.claim session.settings.naming generated with
    | .error error => (progress.fail value.name error, [])
    | .ok owners =>
      ({ progress with owners }.succeed session generated,
        generated.references.filterMap session.find?)

/-- Gives every value class of the queue and all that they lead to a turn, at most `turns` of them.
As many turns as the catalog has entries suffice, since each one visits a new entry. -/
def explore (session : Session) : Nat → List ValueClass → Progress → Progress
  | 0, _, progress => progress
  | turns + 1, queue, progress =>
    match queue.dropWhile fun value => progress.visited.contains value.name with
    | [] => progress
    | value :: rest =>
      let (progress, found) := session.visit progress value
      session.explore turns (rest ++ found) progress

/-- The progress after every marked value class and everything that it leads to had its turn. -/
def final (session : Session) : Progress :=
  session.explore session.catalog.length session.marked {}

/-- Generates every marked value class and everything that it leads to. -/
def run (session : Session) : Report :=
  session.final.report

/-- The failures and events of generating every entry of a catalog, marked or not. -/
def checkFrom (session : Session) (owners : Owners) : List ValueClass → List Failure × List Event
  | [] => ([], [])
  | value :: values =>
    match session.generate value with
    | .error error =>
      let (failures, events) := session.checkFrom owners values
      (⟨value.name, error⟩ :: failures, events)
    | .ok generated =>
      let built := Event.built generated.shadow.name generated.shadow.fields.length
      match owners.claim session.settings.naming generated with
      | .error error =>
        let (failures, events) := session.checkFrom owners values
        (⟨value.name, error⟩ :: failures, built :: events)
      | .ok owners =>
        let (failures, events) := session.checkFrom owners values
        (failures, built :: events)

/-- Tries to generate every entry of the catalog. All share one set of claims. -/
def checkAll (session : Session) : List Failure × List Event :=
  session.checkFrom [] session.catalog

end Session

end ValueShadow
