import ValueShadow.Error

/-!
# Events of a run

What a run reports while it goes on: each event has a level and a text. A run of a session returns
its events with its result, so that what is reported can be reasoned about like the result itself.
-/

namespace ValueShadow

/-- How much an event matters, the most important level first. -/
inductive Level where
  | error
  | warn
  | info
  | debug
  | trace
  deriving DecidableEq, Repr

namespace Level

/-- The place of the level, from the most important. -/
def rank : Level → Nat
  | .error => 1
  | .warn => 2
  | .info => 3
  | .debug => 4
  | .trace => 5

/-- The word in front of an event of the level. -/
def label : Level → String
  | .error => "ERROR"
  | .warn => "WARN"
  | .info => "INFO"
  | .debug => "DEBUG"
  | .trace => "TRACE"

end Level

/-- Something that happened during a run. -/
inductive Event where
  /-- A shadow class was assembled. -/
  | built (shadow : QualifiedName) (fields : Nat)
  /-- A referenced value class is not in the catalog. -/
  | missing (reference value : QualifiedName)
  /-- A value class refers to one of another package. -/
  | crossPackage (value reference : QualifiedName)
  /-- A shadow class was added to the report. -/
  | generated (shadow : QualifiedName)
  /-- Nothing was generated for a value class. -/
  | failed (value : QualifiedName) (error : ShadowError)
  /-- An entry of a manifest is not a value class. -/
  | skipped (name : String) (error : ShadowError)
  /-- A file was written. -/
  | wrote (path : String)

namespace Event

/-- The level of the event. -/
def level : Event → Level
  | .missing .. | .crossPackage .. => .warn
  | .wrote .. => .info
  | .built .. | .generated .. | .failed .. | .skipped .. => .debug

/-- The text of the event. -/
def message : Event → String
  | .built shadow fields =>
    "Built shadow class " ++ shadow.display ++ " with " ++ toString fields ++ " fields"
  | .missing reference value =>
    "Value class " ++ reference.display ++ " referenced by " ++ value.display ++
      " is not in the catalog; its shadow class must come from another run"
  | .crossPackage value reference =>
    value.display ++ " references " ++ reference.display ++
      " from another package; its package-private shadow class is not accessible there"
  | .generated shadow => "Generated " ++ shadow.display
  | .failed value error => "Generation failed for " ++ value.display ++ ": " ++ error.message
  | .skipped name error => "Skipping " ++ name ++ ": " ++ error.message
  | .wrote path => "Wrote " ++ path

end Event

end ValueShadow
