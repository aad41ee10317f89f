import ExitGesture.Script.Basic
import Mathlib.Algebra.Order.Floor.Div

/-!
# Drags and holds, round by round

Whether the clock has room for a drag or a hold, and at what times it emits, is worked out at once.
This module has both as loops: each round works out its own time, every operation of the clock
checked, and then emits.  The loops and the operations are the same, failures included.

**Rounds.**  A round of a drag multiplies, divides, adds and moves its finger.  A round of a hold
adds a whole interval, cuts back to the end, and reports every finger with the next offsets.

**Results.**
* `drag_eq_foldlM`: a drag is its rounds, one after another.
* `holdWith_eq_holdRounds`: a hold is its rounds.
-/

namespace ExitGesture

/-! ### The clock -/

namespace Clock

variable {now amount factor later : Nat}

/-- A multiple of an amount of time. -/
def multiply (amount factor : Nat) : Except Overflow Nat :=
  if amount * factor ≤ clockMax then .ok (amount * factor) else .error .multiplication

theorem add_of_le (fits : now + amount ≤ clockMax) : add now amount = .ok (now + amount) :=
  if_pos fits

theorem add_of_lt (late : clockMax < now + amount) : add now amount = .error .addition :=
  if_neg (Nat.not_le.2 late)

theorem add_of_lt_of_le {more : Nat} (late : clockMax < now + amount) (le : amount ≤ more) :
    add now more = .error .addition :=
  add_of_lt (Nat.lt_of_lt_of_le late (Nat.add_le_add_left le now))

theorem eq_of_add (added : add now amount = .ok later) :
    later = now + amount ∧ now + amount ≤ clockMax := by
  unfold add at added
  by_cases fits : now + amount ≤ clockMax
  · rw [if_pos fits] at added
    exact ⟨(Except.ok.inj added).symm, fits⟩
  · rw [if_neg fits] at added
    cases added

end Clock

theorem Fingers.move_move (id : PointerId) (p q : Point) (fingers : Fingers) :
    (fingers.move id p).move id q = fingers.move id q := by
  simp only [move, List.map_map, Function.comp_def]
  congr 1
  funext f
  by_cases same : f.1 = id <;> simp [same]

namespace Script

variable {s s' : Script}

/-! ### Drags -/

/-- One round of a drag: the clock is set, and the finger moves. -/
def dragRound (id : PointerId) (origin target : Point) (start duration steps : Nat) (s : Script)
    (k : Nat) : Except Overflow Script := do
  let product ← Clock.multiply duration k
  let now ← Clock.add start (product / steps)
  return { s with now }.moveTo id (waypoint origin target steps k)

/-- What a round of a drag does, if the clock has room for it. -/
def dragMove (id : PointerId) (origin target : Point) (start duration steps : Nat) (s : Script)
    (k : Nat) : Script :=
  { s with now := moveTime start duration steps k }.moveTo id (waypoint origin target steps k)

/-- A round fails as its move does, if the move cannot be timed. -/
theorem dragRound_eq (id : PointerId) (origin target : Point) (start duration steps : Nat)
    (s : Script) (k : Nat) :
    dragRound id origin target start duration steps s k =
      (moveFailure? start duration steps k).elim
        (.ok (dragMove id origin target start duration steps s k)) .error := by
  by_cases large : clockMax < duration * k
  · have product : Clock.multiply duration k = .error .multiplication :=
      if_neg (Nat.not_le.2 large)
    rw [dragRound, product, moveFailure?, if_pos large]
    rfl
  · have product : Clock.multiply duration k = .ok (duration * k) := if_pos (Nat.not_lt.1 large)
    rw [dragRound, product, moveFailure?, if_neg large]
    show (Clock.add start (duration * k / steps) >>= fun now =>
      .ok ({ s with now }.moveTo id (waypoint origin target steps k))) = _
    by_cases late : clockMax < moveTime start duration steps k
    · rw [Clock.add_of_lt late, if_pos late]
      rfl
    · rw [Clock.add_of_le (Nat.not_lt.1 late), if_neg late]
      rfl

theorem eq_of_dragRound {id : PointerId} {origin target : Point} {start duration steps k : Nat}
    (made : dragRound id origin target start duration steps s k = .ok s') :
    s' = dragMove id origin target start duration steps s k := by
  rw [dragRound_eq] at made
  cases failure : moveFailure? start duration steps k with
  | none =>
      rw [failure] at made
      exact (Except.ok.inj made).symm
  | some e =>
      rw [failure] at made
      cases made

/-- No move of a drag fails if the last does not: its product and its time are the largest. -/
theorem findSome?_moveFailure?_eq_none_iff (start duration : Nat) {steps : Nat} (h : 0 < steps) :
    (List.range' 1 steps).findSome? (moveFailure? start duration steps) = none ↔
      start + duration ≤ clockMax ∧ duration * steps ≤ clockMax := by
  have ends := moveTime_last start duration h
  rw [List.findSome?_eq_none_iff]
  constructor
  · intro timed
    have last := timed steps (List.mem_range'_1.2 (by omega))
    unfold moveFailure? at last
    split at last
    · cases last
    next product =>
      split at last
      · cases last
      next timely =>
        rw [ends] at timely
        exact ⟨Nat.not_lt.1 timely, Nat.not_lt.1 product⟩
  · rintro ⟨fits, product⟩ k mem
    have within : k ≤ steps := by
      have bounds := List.mem_range'_1.1 mem
      omega
    have smaller : duration * k ≤ clockMax :=
      Nat.le_trans (Nat.mul_le_mul_left duration within) product
    have earlier : moveTime start duration steps k ≤ clockMax :=
      Nat.le_trans (moveTime_mono start duration steps within) (ends ▸ fits)
    rw [moveFailure?, if_neg (Nat.not_lt.2 smaller), if_neg (Nat.not_lt.2 earlier)]

/-- Rounds that may fail end with the first failure, or all of them are made. -/
theorem foldlM_eq_findSome? {α σ ε : Type} {round : σ → α → Except ε σ} {fails : α → Option ε}
    {f : σ → α → σ} (rounds : ∀ a x, round a x = (fails x).elim (.ok (f a x)) .error)
    (xs : List α) (a : σ) :
    xs.foldlM round a = (xs.findSome? fails).elim (.ok (xs.foldl f a)) .error := by
  induction xs generalizing a with
  | nil => rfl
  | cons x rest ih =>
      have first := rounds a x
      cases failed : fails x with
      | some e =>
          rw [failed] at first
          rw [List.foldlM_cons, List.findSome?_cons, failed, first]
          rfl
      | none =>
          rw [failed] at first
          rw [List.foldlM_cons, List.findSome?_cons, failed, first]
          exact ih (f a x)

/-- The moves of a drag, made one after another. -/
theorem foldl_dragMove (s : Script) (id : PointerId) (origin target : Point)
    (start duration steps k : Nat) :
    (List.range' 1 (k + 1)).foldl (dragMove id origin target start duration steps) s =
      { now := moveTime start duration steps (k + 1)
        touches := s.touches ++ (List.range' 1 (k + 1)).map fun k =>
          ⟨.move, id, waypoint origin target steps k, moveTime start duration steps k⟩
        fingers := s.fingers.move id (waypoint origin target steps (k + 1)) } := by
  induction k with
  | zero => rfl
  | succ k ih =>
      rw [List.range'_1_concat, Nat.add_comm 1 (k + 1), List.foldl_append, ih, List.map_append,
        ← List.append_assoc]
      simp [dragMove, moveTo, emit, Fingers.move_move]

/-- A drag is its rounds, one after another. -/
theorem drag_eq_foldlM (within : s.now ≤ clockMax) (id : PointerId) (target : Point)
    (duration steps : Nat) :
    s.drag id target duration steps =
      (List.range' 1 (max steps 1)).foldlM
        (dragRound id ((s.fingers.position? id).getD .origin) target s.now duration (max steps 1))
        s := by
  simp only [drag]
  generalize (s.fingers.position? id).getD .origin = origin
  obtain ⟨k, eq⟩ : ∃ k, max steps 1 = k + 1 := ⟨max steps 1 - 1, by omega⟩
  rw [eq, foldlM_eq_findSome? (dragRound_eq id origin target s.now duration (k + 1)),
    ← dragFailure?_eq_findSome? within, foldl_dragMove]
  cases dragFailure? s.now duration (k + 1) <;> rfl

/-- What a drag for which there is room comes to. -/
theorem drag_of_le (id : PointerId) (target : Point) {duration steps : Nat}
    (fits : s.now + duration ≤ clockMax) (product : duration * max steps 1 ≤ clockMax) :
    let origin := (s.fingers.position? id).getD .origin
    s.drag id target duration steps =
      .ok {
        now := s.now + duration
        touches := s.touches ++ dragMoves id origin target s.now duration (max steps 1)
        fingers := s.fingers.move id (waypoint origin target (max steps 1) (max steps 1)) } := by
  intro origin
  have within : s.now ≤ clockMax := Nat.le_trans (Nat.le_add_right ..) fits
  have none := (findSome?_moveFailure?_eq_none_iff s.now duration (Nat.le_max_right steps 1)).2
    ⟨fits, product⟩
  rw [drag_eq_foldlM within, foldlM_eq_findSome? (dragRound_eq id origin target _ _ _), none]
  obtain ⟨k, eq⟩ : ∃ k, max steps 1 = k + 1 := ⟨max steps 1 - 1, by omega⟩
  rw [eq, foldl_dragMove, moveTime_last _ _ (Nat.succ_pos k)]
  rfl

/-- A drag that is made has room for its end and its last product. -/
theorem room_of_drag {id : PointerId} {target : Point} {duration steps : Nat}
    (within : s.now ≤ clockMax) (done : s.drag id target duration steps = .ok s') :
    s.now + duration ≤ clockMax ∧ duration * max steps 1 ≤ clockMax := by
  rw [← findSome?_moveFailure?_eq_none_iff s.now duration (Nat.le_max_right steps 1)]
  rw [drag_eq_foldlM within, foldlM_eq_findSome? (dragRound_eq id _ target _ _ _)] at done
  cases failure : (List.range' 1 (max steps 1)).findSome?
      (moveFailure? s.now duration (max steps 1)) with
  | none => rfl
  | some e =>
      rw [failure] at done
      cases done

/-- A drag is made from a time that is in range. -/
theorem within_of_drag {id : PointerId} {target : Point} {duration steps : Nat}
    (done : s.drag id target duration steps = .ok s') : s.now ≤ clockMax := by
  by_contra late
  have failure : dragFailure? s.now duration (max steps 1) = some .addition := by
    refine if_pos (Nat.lt_of_lt_of_le (Nat.not_le.1 late) ?_)
    exact Nat.le_add_right ..
  simp only [drag, failure] at done
  cases done

/-! ### Holds -/

/-- The report of a finger, a bit off. -/
def report (offset : Nat → Point) : (Time × PointerId × Point) × Nat → Touch
  | ((t, id, anchor), i) => ⟨.move, id, ⟨anchor.x + (offset i).x, anchor.y + (offset i).y⟩, t⟩

/-- The sightings of some fingers at some times, in the order of their reports. -/
def sightings (fingers : Fingers) (times : List Time) : List (Time × PointerId × Point) :=
  times.flatMap fun t => fingers.map fun f => (t, f)

theorem sightings_cons (fingers : Fingers) (t : Time) (times : List Time) :
    sightings fingers (t :: times) = (fingers.map fun f => (t, f)) ++ sightings fingers times := rfl

theorem sightings_of_no_fingers (times : List Time) : sightings [] times = [] :=
  List.flatMap_eq_nil_iff.2 fun _ _ => rfl

theorem reports_eq (fingers : Fingers) (offset : Nat → Point) (times : List Time) :
    reports fingers offset times = (sightings fingers times).zipIdx.map (report offset) := rfl

/-- Every finger is reported at the present time, each with the next offset. -/
def reportAll (offset : Nat → Point) (drawn : Nat) (s : Script) : Fingers → Script
  | [] => s
  | (id, anchor) :: rest =>
      reportAll offset (drawn + 1)
        (s.emit .move id ⟨anchor.x + (offset drawn).x, anchor.y + (offset drawn).y⟩) rest

theorem reportAll_eq (offset : Nat → Point) (drawn : Nat) (s : Script) (fingers : Fingers) :
    reportAll offset drawn s fingers =
      { s with touches := s.touches ++
          ((fingers.map fun f => (s.now, f)).zipIdx drawn).map (report offset) } := by
  induction fingers generalizing drawn s with
  | nil => simp [reportAll]
  | cons f rest ih =>
      obtain ⟨id, anchor⟩ := f
      simp [reportAll, ih, emit, report]

theorem remaining_lt {now stop interval : Nat} (more : now < stop) (h : 0 < interval) :
    stop - min (now + interval) stop < stop - now := by
  omega

/-- The rounds of a hold, until its end has come. -/
def holdRounds (offset : Nat → Point) (interval stop : Nat) (drawn : Nat) (s : Script) :
    Except Overflow Script :=
  if _more : s.now < stop ∧ 0 < interval then
    match _room : Clock.add s.now interval with
    | .error e => .error e
    | .ok later =>
        holdRounds offset interval stop (drawn + s.fingers.length)
          (reportAll offset drawn { s with now := min later stop } s.fingers)
  else .ok s
termination_by stop - s.now
decreasing_by
  obtain ⟨more, pos⟩ := _more
  obtain ⟨rfl, _⟩ := Clock.eq_of_add _room
  rw [reportAll_eq]
  exact remaining_lt more pos

/-- One round less remains. -/
theorem holdRounds_of_lt {offset : Nat → Point} {interval stop drawn : Nat} (more : s.now < stop)
    (h : 0 < interval) :
    holdRounds offset interval stop drawn s =
      (Clock.add s.now interval).bind fun later =>
        holdRounds offset interval stop (drawn + s.fingers.length)
          { s with
            now := min later stop
            touches := s.touches ++
              ((s.fingers.map fun f => (min later stop, f)).zipIdx drawn).map
                (report offset) } := by
  rw [holdRounds, dif_pos ⟨more, h⟩]
  split
  next e failed => rw [failed]; rfl
  next later added => rw [added, reportAll_eq]; rfl

theorem holdRounds_of_le (offset : Nat → Point) (interval drawn : Nat) {stop : Nat}
    (ended : stop ≤ s.now) : holdRounds offset interval stop drawn s = .ok s := by
  rw [holdRounds, dif_neg fun more => Nat.not_lt.2 ended more.1]

theorem ceilDiv_eq_one {duration interval : Nat} (pos : 0 < duration)
    (short : duration ≤ interval) :
    duration ⌈/⌉ interval = 1 := by
  rw [Nat.ceilDiv_eq_add_pred_div]
  exact Nat.div_eq_of_lt_le (by omega) (by omega)

theorem ceilDiv_of_lt {duration interval : Nat} (h : 0 < interval) (long : interval < duration) :
    duration ⌈/⌉ interval = (duration - interval) ⌈/⌉ interval + 1 := by
  have one_less : duration + interval - 1 = (duration - interval + interval - 1) + interval := by
    omega
  rw [Nat.ceilDiv_eq_add_pred_div, Nat.ceilDiv_eq_add_pred_div, one_less, Nat.add_div_right _ h]

theorem wholeIntervals_eq (duration interval : Nat) :
    wholeIntervals duration interval = duration ⌈/⌉ interval * interval := rfl

theorem wholeIntervals_zero (interval : Nat) : wholeIntervals 0 interval = 0 := by
  rw [wholeIntervals_eq, zero_ceilDiv, Nat.zero_mul]

/-- The first of the whole intervals. -/
theorem wholeIntervals_of_pos {duration interval : Nat} (pos : 0 < duration) (h : 0 < interval) :
    wholeIntervals duration interval =
      interval + wholeIntervals (duration - interval) interval := by
  by_cases short : duration ≤ interval
  · rw [Nat.sub_eq_zero_of_le short, wholeIntervals_zero, wholeIntervals_eq,
      ceilDiv_eq_one pos short, Nat.one_mul, Nat.add_zero]
  · rw [wholeIntervals_eq, ceilDiv_of_lt h (Nat.not_le.1 short), Nat.succ_mul, Nat.add_comm,
      wholeIntervals_eq]

/-- After a round for which there is room, the clock has as much room for the rest as it had for
all. -/
theorem room_after {α : Type} {now stop interval : Nat}
    (fits : now + interval ≤ clockMax) (a : α) :
    ((Clock.add (min (now + interval) stop)
        (wholeIntervals (stop - min (now + interval) stop) interval)).map fun _ => a) =
      (Clock.add now (interval + wholeIntervals (stop - now - interval) interval)).map
        fun _ => a := by
  by_cases last : stop ≤ now + interval
  · have none_left : stop - now - interval = 0 := by omega
    rw [Nat.min_eq_right last, Nat.sub_self, none_left, wholeIntervals_zero, Nat.add_zero,
      Clock.add_of_le fits, Clock.add_of_le (Nat.le_trans last fits)]
    rfl
  · rw [Nat.min_eq_left (Nat.le_of_not_le last), Nat.sub_sub, Clock.add, Clock.add, Nat.add_assoc]

/-- A hold that has come some way goes on to its end, or finds that the clock has no room. -/
theorem holdRounds_eq (s : Script) (offset : Nat → Point) {interval stop : Nat} (drawn : Nat)
    (h : 0 < interval) (ahead : s.now ≤ stop) (within : s.now ≤ clockMax) :
    holdRounds offset interval stop drawn s =
      (Clock.add s.now (wholeIntervals (stop - s.now) interval)).map fun _ =>
        { s with
          now := stop
          touches := s.touches ++
            ((sightings s.fingers (reportTimes interval stop s.now)).zipIdx drawn).map
              (report offset) } := by
  by_cases more : s.now < stop
  · have left := wholeIntervals_of_pos (Nat.sub_pos_of_lt more) h
    rw [holdRounds_of_lt more h, left, reportTimes_of_lt more h, sightings_cons]
    rw [List.zipIdx_append, List.map_append, List.length_map, ← List.append_assoc]
    by_cases fits : s.now + interval ≤ clockMax
    · rw [Clock.add_of_le fits, ← room_after fits]
      exact holdRounds_eq _ offset (drawn + s.fingers.length) h (Nat.min_le_right ..)
        (Nat.le_trans (Nat.min_le_left ..) fits)
    · rw [Clock.add_of_lt (Nat.not_le.1 fits),
        Clock.add_of_lt_of_le (Nat.not_le.1 fits) (Nat.le_add_right ..)]
      rfl
  · have ended : s.now = stop := Nat.le_antisymm ahead (Nat.not_lt.1 more)
    rw [holdRounds_of_le offset interval drawn (Nat.le_of_eq ended.symm),
      reportTimes_of_le interval (Nat.le_of_eq ended.symm), ended, Nat.sub_self,
      wholeIntervals_zero, Clock.add_of_le (ended ▸ within)]
    simp [sightings, Except.map, ← ended]
termination_by stop - s.now
decreasing_by exact remaining_lt more h

/-- A hold makes all its reports, or finds that the clock has no room. -/
theorem holdWith_eq (s : Script) (offset : Nat → Point) (duration interval : Nat) :
    s.holdWith offset duration interval =
      (Clock.add s.now (wholeIntervals duration (max interval 1))).map fun _ =>
        { s with
          now := s.now + duration
          touches := s.touches ++
            ((sightings s.fingers
              (reportTimes (max interval 1) (s.now + duration) s.now)).zipIdx.map
                (report offset)) } := by
  by_cases none : s.fingers = []
  · simp [holdWith, none, reports_of_no_fingers, sightings_of_no_fingers]
  · simp only [holdWith, if_neg none, reports_eq]

theorem holdWith_of_le (offset : Nat → Point) {duration interval : Nat}
    (room : s.now + wholeIntervals duration (max interval 1) ≤ clockMax) :
    s.holdWith offset duration interval =
      .ok { s with
        now := s.now + duration
        touches := s.touches ++
          ((sightings s.fingers
            (reportTimes (max interval 1) (s.now + duration) s.now)).zipIdx.map
              (report offset)) } := by
  rw [holdWith_eq, Clock.add_of_le room]
  rfl

theorem holdWith_of_lt (offset : Nat → Point) {duration interval : Nat}
    (none : clockMax < s.now + wholeIntervals duration (max interval 1)) :
    s.holdWith offset duration interval = .error .addition := by
  rw [holdWith_eq, Clock.add_of_lt none]
  rfl

/-- A hold that is made has room for whole intervals. -/
theorem room_of_holdWith {offset : Nat → Point} {duration interval : Nat}
    (done : s.holdWith offset duration interval = .ok s') :
    s.now + wholeIntervals duration (max interval 1) ≤ clockMax := by
  by_contra late
  rw [holdWith_of_lt offset (Nat.not_le.1 late)] at done
  cases done

/-- A hold is its rounds. -/
theorem holdWith_eq_holdRounds (within : s.now ≤ clockMax) (offset : Nat → Point)
    (duration interval : Nat) :
    s.holdWith offset duration interval =
      (Clock.add s.now duration).bind fun stop =>
        holdRounds offset (max interval 1) stop 0 s := by
  have pos : 0 < max interval 1 := Nat.le_max_right ..
  by_cases fits : s.now + duration ≤ clockMax
  · rw [holdWith_eq, Clock.add_of_le fits]
    show _ = holdRounds offset (max interval 1) (s.now + duration) 0 s
    rw [holdRounds_eq s offset 0 pos (Nat.le_add_right ..) within, Nat.add_sub_cancel_left]
  · have late : clockMax < s.now + wholeIntervals duration (max interval 1) :=
      Nat.lt_of_lt_of_le (Nat.not_le.1 fits)
        (Nat.add_le_add_left (le_wholeIntervals duration pos) s.now)
    rw [holdWith_of_lt offset late, Clock.add_of_lt (Nat.not_le.1 fits)]
    rfl

/-! ### Times -/

/-- A hold reports once for each interval that is begun, at its end or at the end of the hold. -/
theorem reportTimes_eq_map {interval : Nat} (h : 0 < interval) (now duration : Nat) :
    reportTimes interval (now + duration) now =
      (List.range' 1 (duration ⌈/⌉ interval)).map fun k =>
        min (now + k * interval) (now + duration) := by
  by_cases pos : 0 < duration
  · rw [reportTimes_of_lt (Nat.lt_add_of_pos_right pos) h]
    by_cases short : duration ≤ interval
    · rw [Nat.min_eq_right (Nat.add_le_add_left short now),
        reportTimes_of_le interval (Nat.le_refl _), ceilDiv_eq_one pos short]
      simpa using short
    · have long := Nat.not_le.1 short
      have rest := reportTimes_eq_map h (now + interval) (duration - interval)
      have stop : now + interval + (duration - interval) = now + duration := by omega
      have later (n : Nat) : List.range' (1 + 1) n = (List.range' 1 n).map (1 + ·) :=
        (List.map_add_range' ..).symm
      rw [stop] at rest
      rw [Nat.min_eq_left (Nat.add_le_add_left (Nat.le_of_lt long) now), rest, ceilDiv_of_lt h long,
        List.range'_succ, List.map_cons, later, List.map_map]
      congr 1
      · rw [Nat.one_mul, Nat.min_eq_left (Nat.add_le_add_left (Nat.le_of_lt long) now)]
      · refine List.map_congr_left fun k _ => ?_
        rw [Function.comp_apply, Nat.add_comm 1 k, Nat.succ_mul, Nat.add_comm (k * interval),
          Nat.add_assoc]
  · obtain rfl : duration = 0 := by omega
    rw [reportTimes_of_le interval (Nat.le_of_eq (Nat.add_zero now))]
    simp
termination_by duration

end Script
end ExitGesture
