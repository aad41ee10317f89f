import ExitGesture.Plane.Point
import ExitGesture.Script.Keystream

/-!
# Jitter

A finger that holds still does not.  Jitter shifts each reported position by up to an amplitude on
both axes.  An offset is a number between zero and one from the keystream, stretched to the width of
the range and moved to its low end; the stretch is taken just small enough that rounding cannot push
the largest draw over the high end.
-/

namespace ExitGesture

/-- Offsets in `[-amplitude, amplitude]`, drawn from the stream of a key. -/
structure Jitter where
  amplitude : Float32
  scale : Float32
  key : Keystream.Key

namespace Jitter

/-- The largest number that a draw gives: one less than one in the last of 23 places. -/
def largestDraw : Float32 := Float32.ofBits 0x3f7ffffe

/-- Whether the largest draw, stretched, stays in the range. -/
def fits (amplitude scale : Float32) : Bool :=
  !(amplitude < scale * largestDraw + -amplitude)

/-- The bits of the next scale at or below some bits that fits. -/
def fit (amplitude : Float32) : Nat → Nat
  | 0 => 0
  | bits + 1 =>
      if fits amplitude (Float32.ofBits (UInt32.ofNat (bits + 1))) then bits + 1
      else fit amplitude bits

/-- Jitter of an amplitude, from a seed. -/
def ofSeed (amplitude : Float32) (seed : UInt64) : Jitter :=
  let a := amplitude.abs
  let widest := (a - -a) / largestDraw
  { amplitude := a
    scale := Float32.ofBits (UInt32.ofNat (fit a widest.toBits.toNat))
    key := Keystream.keyOf seed }

/-- Whether there is a range to draw from: stretched to the largest draw, its width is a number.
Without one nothing is drawn at all.  That is refused where the draws come from, before any touch,
and a script says nothing of it. -/
def Usable (amplitude : Float32) : Prop :=
  ((amplitude.abs - -amplitude.abs) / largestDraw).isFinite = true

instance (amplitude : Float32) : Decidable (Usable amplitude) :=
  inferInstanceAs (Decidable (_ = true))

/-- A word as a number between zero and one: its high bits are the fraction of a number between one
and two. -/
def unit (word : UInt32) : Float32 :=
  Float32.ofBits ((word >>> 9) ||| 0x3f800000) - 1

/-- One offset. -/
def draw (j : Jitter) (position : Nat) : Float32 :=
  unit (Keystream.word j.key position) * j.scale + -j.amplitude

/-- The offsets of one report, first across and then down. -/
def offset (j : Jitter) (report : Nat) : Point :=
  ⟨j.draw (2 * report), j.draw (2 * report + 1)⟩

end Jitter
end ExitGesture
