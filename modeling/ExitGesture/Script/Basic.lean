import ExitGesture.Script.Fingers
import ExitGesture.Script.Jitter
import ExitGesture.Script.Timing

/-!
# Touch scripts

A script is a clock, the touches emitted so far, and the fingers that are down.  The kinds of the
touches follow from the fingers: the first to land is a down, the last to lift an up.

**Clock.**  An operation that would pass the last millisecond of the clock fails, and a failed
operation emits nothing.
-/

namespace ExitGesture

/-- A touch stream in the making. -/
structure Script where
  now : Time
  touches : List Touch
  fingers : Fingers
  deriving DecidableEq

namespace Script

/-- A script that begins at some time. -/
def startingAt (now : Time) : Script := ⟨now, [], []⟩

def empty : Script := startingAt 0

/-- Emit a touch at the present time. -/
def emit (s : Script) (kind : Touch.Kind) (id : PointerId) (p : Point) : Script :=
  { s with touches := s.touches ++ [⟨kind, id, p, s.now⟩] }

def advance (s : Script) (amount : Nat) : Except Overflow Script :=
  (Clock.add s.now amount).map fun now => { s with now }

def down (s : Script) (id : PointerId) (p : Point) : Script :=
  let kind : Touch.Kind := if s.fingers = [] then .down else .pointerDown
  { s with fingers := s.fingers.place id p }.emit kind id p

/-- A finger moves.  A finger that is not down moves too, but is not remembered. -/
def moveTo (s : Script) (id : PointerId) (p : Point) : Script :=
  { s with fingers := s.fingers.move id p }.emit .move id p

/-- A finger lifts.  The last one to lift ends the stream. -/
def up (s : Script) (id : PointerId) : Script :=
  let p := (s.fingers.position? id).getD .origin
  let fingers := s.fingers.lift id
  let kind : Touch.Kind := if fingers = [] then .up else .pointerUp
  { s with fingers }.emit kind id p

/-- Every finger lifts, by ascending identifier. -/
def releaseAll (s : Script) : Script :=
  (s.fingers.map Prod.fst).foldl up s

def cancel (s : Script) : Script :=
  let first := s.fingers.head?.getD (0, .origin)
  { s with fingers := [] }.emit .cancel first.1 first.2

def tap (s : Script) (id : PointerId) (p : Point) (press : Nat) : Except Overflow Script :=
  ((s.down id p).advance press).map fun s => s.up id

/-- A part of the way from one number to another. -/
def between (a b fraction : Float32) : Float32 := a + (b - a) * fraction

/-- Where a drag has come to after the `k`-th of `steps` moves. -/
def waypoint (origin target : Point) (steps k : Nat) : Point :=
  let fraction := Float32.ofNat k / Float32.ofNat steps
  ⟨between origin.x target.x fraction, between origin.y target.y fraction⟩

/-- The moves of a drag. -/
def dragMoves (id : PointerId) (origin target : Point) (start duration steps : Nat) : List Touch :=
  (List.range' 1 steps).map fun k =>
    ⟨.move, id, waypoint origin target steps k, moveTime start duration steps k⟩

/-- A finger is dragged in a straight line, in at least one move.  Its moves are worked out at once;
`drag_eq_foldlM` has them one after another. -/
def drag (s : Script) (id : PointerId) (target : Point) (duration steps : Nat) :
    Except Overflow Script :=
  let origin := (s.fingers.position? id).getD .origin
  let steps := max steps 1
  match dragFailure? s.now duration steps with
  | some e => .error e
  | none => .ok {
      now := moveTime s.now duration steps steps
      touches := s.touches ++ dragMoves id origin target s.now duration steps
      fingers := s.fingers.move id (waypoint origin target steps steps) }

/-- The moves of a hold: at each time every finger, by ascending identifier, each a bit off. -/
def reports (fingers : Fingers) (offset : Nat → Point) (times : List Time) : List Touch :=
  (times.flatMap fun t => fingers.map fun f => (t, f)).zipIdx.map fun ((t, id, anchor), i) =>
    let d := offset i
    ⟨.move, id, ⟨anchor.x + d.x, anchor.y + d.y⟩, t⟩

/-- Every finger is held where it is and reported now and then.  The reports are worked out at once;
`holdWith_eq_holdRounds` has them round by round.  With no finger down the times go unlisted, for
there may be very many of them. -/
def holdWith (s : Script) (offset : Nat → Point) (duration interval : Nat) :
    Except Overflow Script :=
  let interval := max interval 1
  let stop := s.now + duration
  (Clock.add s.now (wholeIntervals duration interval)).map fun _ =>
    let times := if s.fingers = [] then [] else reportTimes interval stop s.now
    { s with now := stop, touches := s.touches ++ reports s.fingers offset times }

/-- Every finger is held still. -/
def hold (s : Script) (duration interval : Nat) : Except Overflow Script :=
  s.holdWith (fun _ => ⟨0, 0⟩) duration interval

/-- Every finger is held and trembles. -/
def holdJittered (s : Script) (duration interval : Nat) (amplitude : Float32) (seed : UInt64) :
    Except Overflow Script :=
  s.holdWith (Jitter.ofSeed amplitude seed).offset duration interval

/-- Something that a script can do next. -/
inductive Op
  | advance (amount : Nat)
  | down (id : PointerId) (p : Point)
  | moveTo (id : PointerId) (p : Point)
  | drag (id : PointerId) (target : Point) (duration steps : Nat)
  | hold (duration interval : Nat)
  | holdJittered (duration interval : Nat) (amplitude : Float32) (seed : UInt64)
  | up (id : PointerId)
  | releaseAll
  | cancel
  | tap (id : PointerId) (p : Point) (press : Nat)

/-- Do one thing. -/
def perform (s : Script) : Op → Except Overflow Script
  | .advance amount => s.advance amount
  | .down id p => .ok (s.down id p)
  | .moveTo id p => .ok (s.moveTo id p)
  | .drag id target duration steps => s.drag id target duration steps
  | .hold duration interval => s.hold duration interval
  | .holdJittered duration interval amplitude seed =>
      s.holdJittered duration interval amplitude seed
  | .up id => .ok (s.up id)
  | .releaseAll => .ok s.releaseAll
  | .cancel => .ok s.cancel
  | .tap id p press => s.tap id p press

/-- The scripts after each of some operations, up to the first that fails, and the failure. -/
def history (s : Script) : List Op → List Script × Option Overflow
  | [] => ([], none)
  | op :: rest =>
      match s.perform op with
      | .error e => ([], some e)
      | .ok s => let (later, failure?) := history s rest; (s :: later, failure?)

/-- Do one thing after another. -/
def run (s : Script) (ops : List Op) : Except Overflow Script :=
  ops.foldlM perform s

theorem reports_of_no_fingers (offset : Nat → Point) (times : List Time) :
    reports [] offset times = [] := by
  simp [reports]

end Script
end ExitGesture
