import ExitGesture.Replay.Standard

/-!
# Test benches

A bench replays streams through a session and, if it was given a registry, checks every trace.  A
trace that breaks an invariant is a failure, but the session keeps what it has seen.
-/

namespace ExitGesture

/-- A session whose traces are checked. -/
structure Bench where
  session : Session
  registry : Option Registry

namespace Bench

/-- A bench whose listener records everything. -/
def start (provider : Provider) (registry : Option Registry) :
    Except ConfigError (Outcome Bench Unit) :=
  (Session.start provider false .recorder).map fun o => ⟨(), ⟨o.state, registry⟩, o.signals⟩

/-- The complaint about a trace, if it is checked. -/
def complaint? (b : Bench) (t : Trace) : Option String :=
  b.registry.bind fun r => r.complaint? t "after replay"

/-- Replay a stream and check its trace; a failure is the complaint. -/
def run (b : Bench) (touches : List Touch) : Outcome Bench (Except String Trace) :=
  let o := b.session.replay touches
  { answer :=
      match b.complaint? o.answer with
      | some complaint => .error complaint
      | none => .ok o.answer
    state := { b with session := o.state }
    signals := o.signals ++ [.log (.replayed touches.length o.answer.triggers)] }

end Bench
end ExitGesture
