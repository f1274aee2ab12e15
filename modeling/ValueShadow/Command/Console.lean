import ValueShadow.Session.Event
import ValueShadow.Text.Quoted

/-!
# What a command writes

A command writes its results to one stream and its log and errors to another, and ends with an exit
code. An event goes to the log if its level is at least as important as the `LogFilter` asks for;
when the filter shows details, the events of a session say which session they belong to.
-/

namespace ValueShadow

/-- The least important level that is logged; none if nothing is. -/
abbrev LogFilter := Option Level

namespace LogFilter

/-- The level that is logged when more reports were asked for this often. -/
def ofVerbosity : Nat → Level
  | 0 => .warn
  | 1 => .info
  | 2 => .debug
  | _ => .trace

/-- The filter that a word names, in capital or small letters. -/
def ofWord? (word : String) : Option LogFilter :=
  match word.toLower with
  | "off" => some none
  | "error" => some (some .error)
  | "warn" => some (some .warn)
  | "info" => some (some .info)
  | "debug" => some (some .debug)
  | "trace" => some (some .trace)
  | _ => none

/-- Whether events of the level are logged. -/
def shows : LogFilter → Level → Bool
  | none, _ => false
  | some least, level => level.rank ≤ least.rank

end LogFilter

/-- What a command wrote, and its exit code. -/
structure Outcome where
  exitCode : Nat := 0
  output : String := ""
  errors : String := ""
  deriving DecidableEq, Repr

/-- A line of the log for the event. -/
def Event.logLine (origin : String) (event : Event) : String :=
  event.level.label ++ " " ++ origin ++ Text.logged event.message ++ "\n"

/-- The log of the events. -/
def logOf (filter : LogFilter) (origin : String) (events : List Event) : String :=
  String.join ((events.filter fun event => filter.shows event.level).map (·.logLine origin))

/-- The session that events come from, if the filter shows details. -/
def sessionOrigin (filter : LogFilter) (catalogSize : Nat) : String :=
  if filter.shows .debug then
    "generation_session\x7bcatalog=" ++ toString catalogSize ++ "\x7d: "
  else
    ""

end ValueShadow
