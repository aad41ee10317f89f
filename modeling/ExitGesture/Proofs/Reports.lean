import ExitGesture.Proofs.Protocol
import ExitGesture.Proofs.Rounds

/-!
# What a hold reports

A hold reports every finger once for each interval that is begun: at the end of the interval, or at
the end of the hold if that comes first.  Where a finger trembles the places differ, and nothing
else does.
-/

namespace ExitGesture

namespace Script

variable {s s' : Script} {fingers : Fingers} {now duration interval : Nat}

/-- The offset of a finger that does not tremble. -/
def still : Nat → Point := fun _ => ⟨0, 0⟩

/-- The moves of a hold without jitter: at the end of each interval that is begun every finger, with
zero added to where it is. -/
def stillMoves (fingers : Fingers) (now duration interval : Nat) : List Touch :=
  (List.range' 1 (duration ⌈/⌉ interval)).flatMap fun k =>
    fingers.map fun (id, p) =>
      ⟨.move, id, ⟨p.x + 0, p.y + 0⟩, min (now + k * interval) (now + duration)⟩

/-- What there is to a touch but its place. -/
def sight (t : Touch) : Touch.Kind × PointerId × Time := (t.kind, t.pointer, t.time)

/-! ### Order -/

/-- Until a hold is over, its reports come later and later. -/
theorem report_time_lt {k k' : Nat} (h : 0 < interval) (earlier : k < k')
    (due : k' ≤ duration ⌈/⌉ interval) :
    min (now + k * interval) (now + duration) < min (now + k' * interval) (now + duration) := by
  have begun : k * interval < duration := by
    by_contra ended
    have rounds : duration ⌈/⌉ interval ≤ k := by
      rw [ceilDiv_le_iff_le_mul h, Nat.mul_comm]
      exact Nat.not_lt.1 ended
    omega
  have next : k * interval < k' * interval := Nat.mul_lt_mul_of_pos_right earlier h
  omega

/-- The moves come by ascending time and, at one time, by ascending finger. -/
theorem stillMoves_ordered (sorted : (fingers.map Prod.fst).Pairwise (· < ·)) (h : 0 < interval) :
    (stillMoves fingers now duration interval).Pairwise fun a b =>
      a.time < b.time ∨ a.time = b.time ∧ a.pointer < b.pointer := by
  refine List.pairwise_flatMap.2 ⟨?_, ?_⟩
  · intro k _
    refine List.pairwise_map.2 ((List.pairwise_map.1 sorted).imp ?_)
    exact fun less => Or.inr ⟨rfl, less⟩
  · have rounds : (List.range' 1 (duration ⌈/⌉ interval)).Pairwise (· < ·) :=
      List.pairwise_lt_range'
    refine rounds.imp_of_mem ?_
    intro k k' _ mem earlier a at_k b at_k'
    obtain ⟨_, _, rfl⟩ := List.mem_map.1 at_k
    obtain ⟨_, _, rfl⟩ := List.mem_map.1 at_k'
    have bounds := List.mem_range'_1.1 mem
    exact Or.inl (report_time_lt h earlier (by omega))

/-! ### Offsets -/

/-- Offsets change places only. -/
theorem map_sight_report (offset : Nat → Point) (seen : List (Time × PointerId × Point)) :
    (seen.zipIdx.map (report offset)).map sight = seen.map fun (t, id, _) => (.move, id, t) := by
  have reads : sight ∘ report offset =
      (fun x : Time × PointerId × Point => (Touch.Kind.move, x.2.1, x.1)) ∘ Prod.fst := rfl
  rw [List.map_map, reads, ← List.map_map, List.zipIdx_map_fst]

theorem map_report_still (seen : List (Time × PointerId × Point)) :
    seen.zipIdx.map (report still) =
      seen.map fun (t, id, p) => ⟨.move, id, ⟨p.x + 0, p.y + 0⟩, t⟩ := by
  have reads : report still =
      (fun x : Time × PointerId × Point =>
        (⟨.move, x.2.1, ⟨x.2.2.x + 0, x.2.2.y + 0⟩, x.1⟩ : Touch)) ∘ Prod.fst := rfl
  rw [reads, ← List.map_map, List.zipIdx_map_fst]

theorem stillMoves_eq (h : 0 < interval) :
    (sightings fingers (reportTimes interval (now + duration) now)).zipIdx.map (report still) =
      stillMoves fingers now duration interval := by
  rw [map_report_still, reportTimes_eq_map h, sightings, List.flatMap_map, List.map_flatMap,
    stillMoves]
  simp only [List.map_map]
  rfl

/-! ### Holds -/

/-- A hold comes to its end, with one report of every finger for each interval that is begun.  If
its fingers tremble it reports the same fingers at the same times, and leaves them where they
were. -/
theorem hold_eq (sorted : s.Sorted) (done : s.hold duration interval = .ok s') :
    let step := max interval 1
    let moves := stillMoves s.fingers s.now duration step
    holdRounds still step (s.now + duration) 0 s = .ok s' ∧
      s' = { s with now := s.now + duration, touches := s.touches ++ moves } ∧
      (moves.Pairwise fun a b => a.time < b.time ∨ a.time = b.time ∧ a.pointer < b.pointer) ∧
      ∀ amplitude seed, Jitter.Usable amplitude → ∃ trembling,
        s.holdJittered duration interval amplitude seed =
          .ok { s with now := s.now + duration, touches := s.touches ++ trembling } ∧
        holdRounds (Jitter.ofSeed amplitude seed).offset step (s.now + duration) 0 s =
          .ok { s with now := s.now + duration, touches := s.touches ++ trembling } ∧
        trembling.map sight = moves.map sight := by
  intro step moves
  have pos : 0 < step := Nat.le_max_right ..
  have room := room_of_holdWith done
  have fits : s.now + duration ≤ clockMax :=
    Nat.le_trans (Nat.add_le_add_left (le_wholeIntervals duration pos) s.now) room
  have within : s.now ≤ clockMax := Nat.le_trans (Nat.le_add_right ..) fits
  have rounds (offset : Nat → Point) :
      holdRounds offset step (s.now + duration) 0 s = s.holdWith offset duration interval := by
    rw [holdWith_eq_holdRounds within, Clock.add_of_le fits]
    rfl
  refine ⟨(rounds still).trans done, ?_, stillMoves_ordered sorted pos, ?_⟩
  · have ended := done.symm.trans (holdWith_of_le still room)
    rw [stillMoves_eq pos] at ended
    exact Except.ok.inj ended
  · intro amplitude seed _
    have ended := holdWith_of_le (Jitter.ofSeed amplitude seed).offset room
    refine ⟨_, ended, (rounds _).trans ended, ?_⟩
    rw [map_sight_report, show moves = _ from (stillMoves_eq pos).symm, map_sight_report]

/-- Two fingers that are held through two whole intervals and half of a third. -/
theorem hold_eq_of_two_fingers :
    let s := ((startingAt 7).down 1 ⟨10, 10⟩).down 0 ⟨20, 20⟩
    let moves := stillMoves s.fingers s.now 250 100
    s.Sorted ∧ s.hold 250 100 = .ok { s with now := 257, touches := s.touches ++ moves } ∧
      moves.map sight =
        [(.move, 0, 107), (.move, 1, 107), (.move, 0, 207), (.move, 1, 207), (.move, 0, 257),
          (.move, 1, 257)] ∧
      Jitter.Usable 5 ∧ ∃ trembling,
        s.holdJittered 250 100 5 42 =
          .ok { s with now := 257, touches := s.touches ++ trembling } ∧
        trembling.map sight = moves.map sight := by
  intro s moves
  have sorted : s.Sorted :=
    (by decide +kernel : (s.fingers.map Prod.fst).Pairwise (· < ·))
  have held : s.hold 250 100 =
      .ok { s with
        now := 257
        touches := s.touches ++
          (sightings s.fingers (reportTimes 100 257 7)).zipIdx.map (report still) } :=
    holdWith_of_le still (by decide)
  have usable : Jitter.Usable 5 := by decide +kernel
  obtain ⟨_, moved, _, trembles⟩ := hold_eq sorted held
  obtain ⟨trembling, trembled, _, sights⟩ := trembles 5 42 usable
  exact ⟨sorted, held.trans (congrArg Except.ok moved), by decide +kernel, usable, trembling,
    trembled, sights⟩

end Script
end ExitGesture
