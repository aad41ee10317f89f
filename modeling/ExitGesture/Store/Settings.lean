import ExitGesture.Config.Settings
import ExitGesture.Store.Basic

/-!
# Settings in a store

Stored settings have seven fields.  A field that is missing takes its standard value, so that
settings of an older host still read.
-/

namespace ExitGesture
namespace Settings

/-- A stored field. -/
inductive Field
  | gestureCode
  | holdMillis
  | cornerDp
  | driftDp
  | pairTimeoutMillis
  | tapTimeoutMillis
  | requirePin
  deriving DecidableEq, Repr

namespace Field

/-- The fields in stored order. -/
def all : List Field :=
  [.gestureCode, .holdMillis, .cornerDp, .driftDp, .pairTimeoutMillis, .tapTimeoutMillis,
    .requirePin]

def name : Field → String
  | .gestureCode => "exit_gesture_type"
  | .holdMillis => "exit_gesture_hold_ms"
  | .cornerDp => "exit_gesture_corner_dp"
  | .driftDp => "exit_gesture_drift_dp"
  | .pairTimeoutMillis => "exit_gesture_pointer_timeout_ms"
  | .tapTimeoutMillis => "exit_gesture_tap_timeout_ms"
  | .requirePin => "exit_gesture_require_pin"

def kind : Field → Kind
  | .gestureCode => .code
  | .holdMillis => .word
  | .cornerDp => .number
  | .driftDp => .number
  | .pairTimeoutMillis => .word
  | .tapTimeoutMillis => .word
  | .requirePin => .flag

theorem mem_all (f : Field) : f ∈ all := by
  cases f <;> decide

theorem name_inj {f g : Field} (same : f.name = g.name) : f = g := by
  revert same
  cases f <;> cases g <;> decide

end Field

abbrev layout : Layout where
  Field := Field
  fields := Field.all
  name := Field.name
  kind := Field.kind
  mem_fields := Field.mem_all
  nodup_fields := by decide
  name_inj := Field.name_inj

def record (s : Settings) : layout.Record
  | .gestureCode => s.gestureCode
  | .holdMillis => s.holdMillis
  | .cornerDp => s.cornerDp
  | .driftDp => s.driftDp
  | .pairTimeoutMillis => s.pairTimeoutMillis
  | .tapTimeoutMillis => s.tapTimeoutMillis
  | .requirePin => s.requirePin

def ofRecord (r : layout.Record) : Settings where
  gestureCode := r .gestureCode
  holdMillis := r .holdMillis
  cornerDp := r .cornerDp
  driftDp := r .driftDp
  pairTimeoutMillis := r .pairTimeoutMillis
  tapTimeoutMillis := r .tapTimeoutMillis
  requirePin := r .requirePin

/-- What a store keeps of settings. -/
def encode (S : Store) (s : Settings) : S.Value := S.encode layout s.record

/-- Settings from what a store has kept, a missing field taking its standard value. -/
def decode (S : Store) (v : S.Value) : Option Settings :=
  (S.decode layout (some standard.record) v).map ofRecord

end Settings
end ExitGesture
