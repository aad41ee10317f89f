import ExitGesture.Proofs.Operation

/-!
# Stimuli

A tracker perceives the motion of a contact or the time of a tick.  Putting both under one type lets
an attempt be followed stimulus by stimulus.  What a stimulus leaves alone, and where it finds a
pointer, is said here without a tracker.
-/

namespace ExitGesture

/-- What a tracker can perceive. -/
inductive Stimulus
  | motion (motion : Touch.Motion) (contact : Contact)
  | tick (now : Time)

namespace Stimulus

/-- The time that a stimulus tells. -/
def time : Stimulus → Time
  | .motion _ c => c.time
  | .tick now => now

@[simp] theorem time_motion (k : Touch.Motion) (c : Contact) :
    (Stimulus.motion k c).time = c.time := rfl

@[simp] theorem time_tick (now : Time) : (Stimulus.tick now).time = now := rfl

def Lands (p : PointerId) : Stimulus → Prop
  | .motion .land c => c.pointer = p
  | .motion .move _ | .motion .lift _ | .tick _ => False

def LandsNone : Stimulus → Prop
  | .motion .land _ => False
  | .motion .move _ | .motion .lift _ | .tick _ => True

def LeavesDown (p : PointerId) : Stimulus → Prop
  | .motion .lift b => b.pointer ≠ p
  | .motion .land _ | .motion .move _ | .tick _ => True

/-- If a pointer moves, its move is as `P` says. -/
def OnMove (p : PointerId) (P : Contact → Prop) : Stimulus → Prop
  | .motion .move b => b.pointer = p → P b
  | .motion .land _ | .motion .lift _ | .tick _ => True

/-- If the clock ticks, its time is as `P` says. -/
def OnTick (P : Time → Prop) : Stimulus → Prop
  | .tick now => P now
  | .motion _ _ => True

/-- Time passes, or a pointer moves as `P` says. -/
def Steady (P : Contact → Prop) : Stimulus → Prop
  | .tick _ => True
  | .motion .move b => P b
  | .motion .land _ | .motion .lift _ => False

instance {P : Contact → Prop} [DecidablePred P] : DecidablePred (Steady P)
  | .tick _ => isTrue trivial
  | .motion .move b => inferInstanceAs (Decidable (P b))
  | .motion .land _ | .motion .lift _ => isFalse id

/-- The stimulus leaves an anchored contact alone: it neither lifts it nor moves it beyond the
tolerance. -/
structure Spares (tolerance : Float32) (a : Contact) (s : Stimulus) : Prop where
  down : s.LeavesDown a.pointer
  near : s.OnMove a.pointer fun b => ¬ tolerance < a.drift b

/-- Where the stimulus reports a pointer to be. -/
def place? (p : PointerId) : Stimulus → Option Point
  | .motion _ c => if c.pointer = p then some c.position else none
  | .tick _ => none

/-- The stimulus finds a pointer at a place: a move tells it, and a tick finds the pointer where it
was reported last. -/
def Finds (p : PointerId) (last place : Point) : Stimulus → Prop
  | .motion .move b => b.pointer = p ∧ b.position = place
  | .tick _ => last = place
  | .motion .land _ | .motion .lift _ => False

/-- Neither a move nor a tick lifts anything. -/
theorem Finds.leavesDown {s : Stimulus} {p : PointerId} {last place : Point}
    (finds : s.Finds p last place) : s.LeavesDown p := by
  cases s with
  | tick now => trivial
  | motion k c =>
      cases k with
      | land => exact finds.elim
      | move => trivial
      | lift => exact finds.elim

/-- What is steady is a tick or a move. -/
theorem Steady.tick_or_move {s : Stimulus} {P : Contact → Prop} (steady : s.Steady P) :
    (∃ now, s = .tick now) ∨ ∃ b, s = .motion .move b ∧ P b := by
  cases s with
  | tick now => exact Or.inl ⟨now, rfl⟩
  | motion k b =>
      cases k with
      | land => exact steady.elim
      | move => exact Or.inr ⟨b, rfl, steady⟩
      | lift => exact steady.elim

theorem Steady.landsNone {s : Stimulus} {P : Contact → Prop} (steady : s.Steady P) :
    s.LandsNone := by
  obtain ⟨now, rfl⟩ | ⟨b, rfl, _⟩ := steady.tick_or_move
  · trivial
  · trivial

theorem Finds.steady {s : Stimulus} {p : PointerId} {last place : Point}
    (finds : s.Finds p last place) : s.Steady fun b => b.pointer = p := by
  cases s with
  | tick now => trivial
  | motion k b =>
      cases k with
      | land => exact finds.elim
      | move => exact finds.1
      | lift => exact finds.elim

theorem landsNone_motion_iff {k : Touch.Motion} {c : Contact} :
    (Stimulus.motion k c).LandsNone ↔ k ≠ .land := by
  cases k <;> simp [LandsNone]

/-- What one pointer does lifts no other. -/
theorem leavesDown_of_apart {k : Touch.Motion} {c : Contact} {p : PointerId}
    (apart : c.pointer ≠ p) : (Stimulus.motion k c).LeavesDown p := by
  cases k with
  | land | move => trivial
  | lift => exact apart

/-- What one pointer does moves no other. -/
theorem onMove_of_apart {k : Touch.Motion} {c : Contact} {p : PointerId} {P : Contact → Prop}
    (apart : c.pointer ≠ p) : (Stimulus.motion k c).OnMove p P := by
  cases k with
  | land | lift => trivial
  | move => exact fun same => absurd same apart

theorem spares_of_apart {tolerance : Float32} {k : Touch.Motion} {a c : Contact}
    (apart : c.pointer ≠ a.pointer) : (Stimulus.motion k c).Spares tolerance a :=
  ⟨leavesDown_of_apart apart, onMove_of_apart apart⟩

theorem spares_tick (tolerance : Float32) (a : Contact) (now : Time) :
    (Stimulus.tick now).Spares tolerance a :=
  ⟨trivial, trivial⟩

theorem spares_lift_iff {tolerance : Float32} {a b : Contact} :
    (Stimulus.motion .lift b).Spares tolerance a ↔ b.pointer ≠ a.pointer :=
  ⟨Spares.down, fun other => ⟨other, trivial⟩⟩

theorem spares_move_iff {tolerance : Float32} {a b : Contact} :
    (Stimulus.motion .move b).Spares tolerance a ↔
      (b.pointer = a.pointer → ¬ tolerance < a.drift b) :=
  ⟨Spares.near, fun near => ⟨trivial, near⟩⟩

end Stimulus

/-- How far a stage is from idle. -/
def Stage.rank : Stage → Nat
  | .idle => 0
  | .pending => 1
  | .active => 2

theorem Stage.rank_pos_iff {g : Stage} : 0 < g.rank ↔ g ≠ .idle := by
  cases g <;> decide

namespace Tracker

/-- The tracker perceives a stimulus. -/
def react (v : View) (τ : Tracker) : Stimulus → Tracker × Verdict
  | .motion k c => τ.step v k c
  | .tick now => τ.tick v now

end Tracker

theorem View.not_strays_iff {v : View} {d : Float32} :
    v.strays d = false ↔ ¬ v.config.driftTolerance < d := by
  simp [View.strays]

end ExitGesture
