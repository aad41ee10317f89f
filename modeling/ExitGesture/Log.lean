import ExitGesture.Config.Error
import ExitGesture.Duration
import ExitGesture.Gesture
import ExitGesture.Tracker.Stage

/-!
# The log

Everything that can be logged is one case of `LogEntry`.  Its level, its message and its named
values are functions of the entry, so an entry can be reasoned about without reading text.
-/

namespace ExitGesture

/-- How loud an entry is. -/
inductive LogLevel
  | trace
  | debug
  | info
  | warn
  deriving DecidableEq, Repr

def LogLevel.name : LogLevel → String
  | .trace => "TRACE"
  | .debug => "DEBUG"
  | .info => "INFO"
  | .warn => "WARN"

/-- Something worth telling. -/
inductive LogEntry
  | ready (gesture : Gesture)
  | tooManyPointers (onSurface : Nat)
  | latePartner (gap : Nat)
  | abandoned (reason : AbandonReason)
  | triggered (gesture : Gesture)
  | stageChanged (before after : Stage) (now : Nat)
  | reloadRefused (stage : Stage)
  | reloadFailed (error : ConfigError)
  | reloaded (gesture : Gesture)
  | pulse (held : Nat)
  | replayed (events triggers : Nat)
  deriving DecidableEq

namespace LogEntry

def level : LogEntry → LogLevel
  | .pulse _ => .trace
  | .triggered _ => .info
  | .reloadRefused _ | .reloadFailed _ => .warn
  | .ready _ | .tooManyPointers _ | .latePartner _ | .abandoned _ | .stageChanged _ _ _
  | .reloaded _ | .replayed _ _ => .debug

def message : LogEntry → String
  | .ready _ => "exit gesture recognizer ready"
  | .tooManyPointers _ => "too many pointers for exit gesture"
  | .latePartner _ => "second pointer outside pairing window"
  | .abandoned _ => "gesture reset"
  | .triggered _ => "exit gesture triggered"
  | .stageChanged _ _ _ => "gesture state changed"
  | .reloadRefused _ => "configuration reload refused"
  | .reloadFailed _ => "configuration reload failed"
  | .reloaded _ => "configuration reloaded"
  | .pulse _ => "hold feedback"
  | .replayed _ _ => "replayed script"

def values : LogEntry → List (String × String)
  | .ready gesture | .triggered gesture | .reloaded gesture => [("variant", gesture.name)]
  | .tooManyPointers onSurface => [("on_surface", onSurface.repr)]
  | .latePartner gap => [("gap_ms", gap.repr)]
  | .abandoned reason => [("reason", reason.name)]
  | .stageChanged before after now =>
      [("from", before.name), ("to", after.name), ("now_ms", now.repr)]
  | .reloadRefused stage => [("state", stage.name)]
  | .reloadFailed error => [("err", error.message)]
  | .pulse held => [("held", (Duration.ofMillis held).text)]
  | .replayed events triggers => [("events", events.repr), ("triggers", triggers.repr)]

/-- All that an entry says, the message first. -/
def fields (e : LogEntry) : List (String × String) :=
  ("message", e.message) :: e.values

end LogEntry

end ExitGesture
