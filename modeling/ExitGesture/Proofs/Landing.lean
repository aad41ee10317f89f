import ExitGesture.Proofs.One
import ExitGesture.Proofs.Overrun

/-!
# Where a drag lands

A drag should end on its target.  It ends where its last waypoint is, which is worked out like every
other: from the origin, plus the whole way to the target.  The way is a difference and its end is a
sum, and each is rounded, so that the end is near the target and not always on it.

**Units.**  On one axis both steps are sums of whole numbers that are rounded (`rounded`).  A drag
misses if the way is rounded and the rounding of its end does not undo it, or if the way is too long
to be finite.
-/

namespace ExitGesture

open Rounding

/-! ### One axis -/

section Axis

variable {a b p : Float32}

/-- The way from one number of units to another, rounded. -/
def wayTo (a b : Int) : Int := rounded (b - a)

/-- Where the rounded way leads. -/
def landing (a b : Int) : Int := rounded (a + wayTo a b)

/-- The way is finite and leads to its target. -/
def Lands (a b : Int) : Prop := (wayTo a b).natAbs < ceiling ∧ landing a b = b

instance (a b : Int) : Decidable (Lands a b) := inferInstanceAs (Decidable (_ ∧ _))

/-- Places on a common grid that are fewer than `2 ^ 24` steps apart are reached from each other. -/
theorem lands_of_grain {i j : Int} {k : Nat} (near : (j - i).natAbs < 2 ^ 24) (fine : k ≤ 253)
    (kept : rounded (j * (2 ^ k : Nat)) = j * (2 ^ k : Nat)) :
    Lands (i * (2 ^ k : Nat)) (j * (2 ^ k : Nat)) := by
  have way : wayTo (i * (2 ^ k : Nat)) (j * (2 ^ k : Nat)) = (j - i) * (2 ^ k : Nat) := by
    rw [wayTo, ← Int.sub_mul, rounded_of_grain k (Nat.le_of_lt near)]
  constructor
  · rw [way, Int.natAbs_mul, Int.natAbs_natCast]
    calc (j - i).natAbs * 2 ^ k < 2 ^ 24 * 2 ^ k :=
          Nat.mul_lt_mul_of_pos_right near (Nat.two_pow_pos k)
      _ ≤ ceiling := Nat.mul_le_mul_left _ (Nat.pow_le_pow_right (by decide) fine)
  · rw [landing, way, ← Int.add_mul, add_sub_cancel, kept]

/-- Whole pixels are reached from whole pixels. -/
theorem lands_of_whole {m n : Nat} (small : m < 2 ^ 24) (small' : n < 2 ^ 24) :
    Lands (unitsOf (Float32.ofNat m)) (unitsOf (Float32.ofNat n)) := by
  have exact_units {l : Nat} (small : l < 2 ^ 24) :
      rounded (l * (2 ^ 149 : Nat)) = l * (2 ^ 149 : Nat) := by
    apply rounded_of_grain
    omega
  rw [(unitsOf_ofNat (by omega)).2, (unitsOf_ofNat (by omega)).2, exact_units small,
    exact_units small']
  exact lands_of_grain (by omega) (by decide) (exact_units small')

/-- The end of a drag from `a` to `b`: it is the target exactly if the way lands, and if it is
finite it is off by half of each spacing at most. -/
structure Arrival (a b p : Float32) : Prop where
  sum : p = a + (b - a)
  exact_iff : (p == b) = true ↔ Lands (unitsOf a) (unitsOf b)
  near : p.isFinite = true →
    2 * (unitsOf p - unitsOf b).natAbs ≤
      spacing (unitsOf b - unitsOf a) + spacing (unitsOf a + wayTo (unitsOf a) (unitsOf b))

theorem arrival (at_a : a.isFinite = true) (at_b : b.isFinite = true) :
    Arrival a b (a + (b - a)) := by
  have way : Yields (b - a) (wayTo (unitsOf a) (unitsOf b)) := yields_sub at_b at_a
  have end_of (at_way : (b - a).isFinite = true) :
      Yields (a + (b - a)) (landing (unitsOf a) (unitsOf b)) := by
    have sum := yields_add at_a at_way
    rw [way.units at_way] at sum
    exact sum
  refine ⟨rfl, ⟨?_, ?_⟩, ?_⟩
  · intro equal
    have finite := isFinite_of_beq equal at_b
    have at_way := isFinite_of_isFinite_add finite
    refine ⟨way.isFinite_iff.1 at_way, ?_⟩
    rw [← (end_of at_way).units finite]
    exact (beq_iff_unitsOf finite at_b).1 equal
  · rintro ⟨short, lands⟩
    have at_way := way.isFinite_iff.2 short
    have finite : (a + (b - a)).isFinite = true := by
      rw [(end_of at_way).isFinite_iff, lands]
      exact (kept_of_isFinite at_b).2
    rw [beq_iff_unitsOf finite at_b, (end_of at_way).units finite, lands]
  · intro finite
    have at_way := isFinite_of_isFinite_add finite
    have first := rounded_near (unitsOf b - unitsOf a)
    have second := rounded_near (unitsOf a + wayTo (unitsOf a) (unitsOf b))
    rw [(end_of at_way).units finite]
    simp only [landing, wayTo] at first second ⊢
    omega

end Axis

/-! ### Drags -/

/-- Both coordinates are numbers, and none is infinite. -/
def Point.Finite (p : Point) : Prop := p.x.isFinite = true ∧ p.y.isFinite = true

instance (p : Point) : Decidable p.Finite := inferInstanceAs (Decidable (_ ∧ _))

theorem Fingers.position?_move_self {id : PointerId} {q : Point} (p : Point) {fingers : Fingers}
    (down : fingers.position? id = some q) : (fingers.move id p).position? id = some p := by
  induction fingers with
  | nil => cases down
  | cons f rest ih =>
      obtain ⟨other, at_other⟩ := f
      simp only [position?, move, List.map_cons, List.lookup_cons] at down ih ⊢
      by_cases same : id = other
      · simp [same]
      · have apart : (id == other) = false := by simpa using same
        rw [apart] at down ⊢
        exact ih down

namespace Script

variable {s s' : Script} {id : PointerId} {origin target : Point} {duration steps : Nat}

/-- The last waypoint is worked out like every other. -/
theorem waypoint_last (origin target : Point) (pos : 0 < steps) (fits : steps < 2 ^ 32) :
    waypoint origin target steps steps =
      ⟨origin.x + (target.x - origin.x), origin.y + (target.y - origin.y)⟩ := by
  rw [waypoint, ofNat_div_self pos fits]
  simp only [between, mul_one]

/-- The moves of a drag come one after another, and the last of them is its last waypoint. -/
theorem dragMoves_timed (id : PointerId) (origin target : Point) (start duration k : Nat) :
    let moves := dragMoves id origin target start duration (k + 1)
    moves.length = k + 1 ∧
      (∀ t ∈ moves, t.kind = .move ∧ t.pointer = id) ∧
      (moves.Pairwise fun a b => a.time ≤ b.time) ∧
      (moves.head?.map fun t => t.time) = some (start + duration / (k + 1)) ∧
      moves.getLast? =
        some ⟨.move, id, waypoint origin target (k + 1) (k + 1), start + duration⟩ := by
  intro moves
  refine ⟨?_, ?_, ?_, ?_, ?_⟩
  · simp [moves, dragMoves]
  · intro t mem
    obtain ⟨_, _, rfl⟩ := List.mem_map.1 mem
    exact ⟨rfl, rfl⟩
  · have rounds : (List.range' 1 (k + 1)).Pairwise (· < ·) := List.pairwise_lt_range'
    refine List.pairwise_map.2 (rounds.imp fun earlier => ?_)
    exact moveTime_mono start duration (k + 1) (Nat.le_of_lt earlier)
  · simp only [moves, dragMoves, List.range'_succ, List.map_cons, List.head?_cons, Option.map_some,
      moveTime, Nat.mul_one]
    rfl
  · rw [← moveTime_last start duration (Nat.succ_pos k)]
    simp only [moves, dragMoves, List.range'_1_concat, List.map_append, Nat.add_comm 1 k]
    exact List.getLast?_concat ..

/-- A drag of a finger that is down comes to its end round by round, with every move in time.  It
leaves the finger where its last move is: on each axis at the rounded end of the rounded way to its
target. -/
theorem drag_arrives (down : s.fingers.position? id = some origin) (at_origin : origin.Finite)
    (at_target : target.Finite) (fits : steps < 2 ^ 32)
    (done : s.drag id target duration steps = .ok s') :
    ∃ moves last,
      (List.range' 1 (max steps 1)).foldlM
        (dragRound id origin target s.now duration (max steps 1)) s = .ok s' ∧
      s'.touches = s.touches ++ moves ∧ moves.length = max steps 1 ∧
      (∀ t ∈ moves, t.kind = .move ∧ t.pointer = id) ∧
      (moves.Pairwise fun a b => a.time ≤ b.time) ∧
      (moves.head?.map fun t => t.time) = some (s.now + duration / max steps 1) ∧
      moves.getLast? = some last ∧ last.time = s.now + duration ∧ s'.now = s.now + duration ∧
      s'.fingers.position? id = some last.position ∧
      Arrival origin.x target.x last.position.x ∧ Arrival origin.y target.y last.position.y := by
  have within : s.now ≤ clockMax := within_of_drag done
  obtain ⟨fits_end, product⟩ := room_of_drag within done
  have rounds := drag_eq_foldlM within id target duration steps
  have ended := done.symm.trans (drag_of_le id target fits_end product)
  rw [down, Option.getD_some] at rounds ended
  obtain rfl := Except.ok.inj ended
  obtain ⟨k, eq⟩ : ∃ k, max steps 1 = k + 1 := ⟨max steps 1 - 1, by omega⟩
  have at_last := waypoint_last origin target (Nat.succ_pos k) (by omega)
  obtain ⟨length, moved, ordered, first, last⟩ :=
    dragMoves_timed id origin target s.now duration k
  refine ⟨_, ⟨.move, id, waypoint origin target (max steps 1) (max steps 1), s.now + duration⟩,
    rounds.symm.trans done, rfl, ?_⟩
  rw [eq]
  rw [at_last] at last ⊢
  exact ⟨length, moved, ordered, first, last, rfl, rfl, Fingers.position?_move_self _ down,
    arrival at_origin.1 at_target.1, arrival at_origin.2 at_target.2⟩

/-- A drag in four moves along a row of whole pixels lands on its target. -/
theorem drag_arrives_whole_pixels :
    let s := empty.down 0 ⟨100, 500⟩
    ∃ s' last, s.drag 0 ⟨0, 500⟩ 400 4 = .ok s' ∧ s'.touches.getLast? = some last ∧
      s'.fingers.position? 0 = some last.position ∧ last.time = 400 ∧
      (last.position.x == 0) = true ∧ (last.position.y == 500) = true := by
  intro s
  obtain ⟨s', done⟩ : ∃ s', s.drag 0 ⟨0, 500⟩ 400 4 = .ok s' := ⟨_, rfl⟩
  have down : s.fingers.position? 0 = some ⟨100, 500⟩ := by decide +kernel
  obtain ⟨moves, last, -, touches, -, -, -, -, at_end, on_time, -, stored, across, along⟩ :=
    drag_arrives down (by decide +kernel) (by decide +kernel) (by decide) done
  refine ⟨s', last, done, ?_, stored, on_time, ?_, ?_⟩
  · rw [touches, List.getLast?_append, at_end]
    rfl
  · exact across.exact_iff.2 (lands_of_whole (by decide) (by decide))
  · exact along.exact_iff.2 (lands_of_whole (by decide) (by decide))

/-- A drag in one move from the right edge of a screen to a tenth of a pixel misses. -/
theorem drag_misses :
    let s := empty.down 0 ⟨1080, 500⟩
    let missed : Point := ⟨Float32.ofBits 0x3dccc000, 500⟩
    s.drag 0 ⟨0.1, 500⟩ 400 1 =
        .ok ⟨400, s.touches ++ [⟨.move, 0, missed, 400⟩], [(0, missed)]⟩ ∧
      (missed.x == 0.1) = false := by
  decide +kernel

end Script
end ExitGesture
