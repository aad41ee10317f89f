import ExitGesture.Proofs.Reports

/-!
# Operations that overrun the clock

An operation that takes time should fail only if it would end beyond the last millisecond of the
clock.  A drag and a hold fail for less: on the way to an end that is in range they work out a
number that is not.

**Overruns.**  A drag multiplies its duration by the number of a move before it divides by the
number of moves, and the product for the last move is the largest.  A hold adds a whole interval
before it cuts back to its end, and the interval that is begun last reaches farthest.
-/

namespace ExitGesture

namespace Script

variable {s s' : Script}

/-- How much time an operation takes. -/
def Op.duration : Op → Nat
  | .advance amount => amount
  | .drag _ _ duration _ => duration
  | .hold duration _ => duration
  | .holdJittered duration _ _ _ => duration
  | .tap _ _ press => press
  | .down .. | .moveTo .. | .up _ | .releaseAll | .cancel => 0

/-- A drag whose duration, multiplied by its moves, is out of range. -/
def DragOverruns (duration steps : Nat) : Prop := clockMax < duration * max steps 1

/-- A hold that begins an interval whose end is out of range. -/
def HoldOverruns (now duration interval : Nat) : Prop :=
  ∃ k, k * max interval 1 < duration ∧ clockMax < now + (k + 1) * max interval 1

/-- On its way to its end an operation leaves the range of the clock. -/
def Op.Overruns (now : Nat) : Op → Prop
  | .drag _ _ duration steps => DragOverruns duration steps
  | .hold duration interval => HoldOverruns now duration interval
  | .holdJittered duration interval _ _ => HoldOverruns now duration interval
  | _ => False

/-- If an operation draws jitter, there is a range to draw it from.  An operation without one is
stopped by its draws and not by the clock, and is left out here. -/
def Op.Usable : Op → Prop
  | .holdJittered _ _ amplitude _ => Jitter.Usable amplitude
  | _ => True

/-! ### Ends -/

/-- An operation fails under a condition, and otherwise leaves the clock at its end. -/
def Ends (result : Except Overflow Script) (fails : Prop) (stop : Nat) : Prop :=
  ((∃ e, result = .error e) ↔ fails) ∧ ∀ s', result = .ok s' → s'.now = stop

theorem ends_of_error {e : Overflow} {fails : Prop} {stop : Nat} (failed : fails) :
    Ends (.error e) fails stop := by
  constructor
  · exact ⟨fun _ => failed, fun _ => ⟨e, rfl⟩⟩
  · intro s' done
    cases done

theorem ends_of_ok {fails : Prop} {stop : Nat} (fits : ¬fails) (now : s.now = stop) :
    Ends (.ok s) fails stop := by
  constructor
  · refine ⟨?_, fun failed => absurd failed fits⟩
    rintro ⟨e, error⟩
    cases error
  · intro s' done
    cases done
    exact now

/-- An operation that takes no time does not fail. -/
theorem ends_at_once (within : s.now ≤ clockMax) (now : s'.now = s.now) :
    Ends (.ok s') (clockMax < s.now + 0 ∨ False) (s.now + 0) := by
  refine ends_of_ok ?_ now
  rintro (late | impossible)
  · exact Nat.not_lt.2 within late
  · exact impossible

theorem ends_advance (s : Script) (amount : Nat) :
    Ends (s.advance amount) (clockMax < s.now + amount ∨ False) (s.now + amount) := by
  unfold advance
  by_cases fits : s.now + amount ≤ clockMax
  · rw [Clock.add_of_le fits]
    exact ends_of_ok (by simpa using fits) rfl
  · rw [Clock.add_of_lt (Nat.not_le.1 fits)]
    exact ends_of_error (Or.inl (Nat.not_le.1 fits))

/-- Lifting takes no time, so a tap ends when its press does. -/
theorem ends_tap (s : Script) (id : PointerId) (p : Point) (press : Nat) :
    Ends (s.tap id p press) (clockMax < s.now + press ∨ False) (s.now + press) := by
  have pressed : Ends ((s.down id p).advance press) (clockMax < s.now + press ∨ False)
      (s.now + press) := ends_advance (s.down id p) press
  unfold tap
  cases held : (s.down id p).advance press with
  | error e =>
      rw [held] at pressed
      exact ends_of_error (pressed.1.1 ⟨e, rfl⟩)
  | ok next =>
      rw [held] at pressed
      refine ends_of_ok ?_ (pressed.2 next rfl)
      intro late
      obtain ⟨e, failed⟩ := pressed.1.2 late
      cases failed

/-- The rounds of a drag: if the last of them has room, all have, and the clock is left where it was
set for the last. -/
theorem ends_dragRounds (s : Script) (id : PointerId) (origin target : Point) (start duration : Nat)
    {steps : Nat} (h : 0 < steps) :
    Ends ((List.range' 1 steps).foldlM (dragRound id origin target start duration steps) s)
      (clockMax < start + duration ∨ clockMax < duration * steps) (start + duration) := by
  have room := findSome?_moveFailure?_eq_none_iff start duration h
  rw [foldlM_eq_findSome? (dragRound_eq id origin target start duration steps)]
  cases failure : (List.range' 1 steps).findSome? (moveFailure? start duration steps) with
  | none =>
      obtain ⟨fits, product⟩ := room.1 failure
      obtain ⟨k, rfl⟩ : ∃ k, steps = k + 1 := ⟨steps - 1, by omega⟩
      refine ends_of_ok ?_ ?_
      · rintro (late | large)
        · exact Nat.not_lt.2 fits late
        · exact Nat.not_lt.2 product large
      · rw [foldl_dragMove]
        exact moveTime_last start duration h
  | some e =>
      have no_room : ¬ (start + duration ≤ clockMax ∧ duration * steps ≤ clockMax) := by
        intro fits
        rw [room.2 fits] at failure
        cases failure
      rw [not_and_or, Nat.not_le, Nat.not_le] at no_room
      exact ends_of_error no_room

theorem ends_drag (within : s.now ≤ clockMax) (id : PointerId) (target : Point)
    (duration steps : Nat) :
    Ends (s.drag id target duration steps)
      (clockMax < s.now + duration ∨ DragOverruns duration steps) (s.now + duration) := by
  rw [drag_eq_foldlM within]
  exact ends_dragRounds s id _ target s.now duration (Nat.le_max_right ..)

/-- After a round for which there is room, the intervals that are still to begin are those that were
to begin after the first. -/
theorem begins_late_iff {now stop interval : Nat} (fits : now + interval ≤ clockMax) :
    (∃ k, k * interval < stop - min (now + interval) stop ∧
        clockMax < min (now + interval) stop + (k + 1) * interval) ↔
      ∃ k, k * interval < stop - now ∧ clockMax < now + (k + 1) * interval := by
  constructor
  · rintro ⟨k, begun, late⟩
    refine ⟨k + 1, ?_, ?_⟩
    · rw [Nat.succ_mul]
      omega
    · rw [Nat.succ_mul]
      omega
  · rintro ⟨k, begun, late⟩
    cases k with
    | zero => omega
    | succ k =>
        rw [Nat.succ_mul] at begun late
        have goes_on : min (now + interval) stop = now + interval := by omega
        refine ⟨k, ?_, ?_⟩
        · omega
        · omega

/-- The rounds of a hold: each fails by its own interval, and the last one that is made sets the
clock to the end. -/
theorem ends_holdRounds (s : Script) (offset : Nat → Point) {interval stop : Nat} (drawn : Nat)
    (h : 0 < interval) (ahead : s.now ≤ stop) :
    Ends (holdRounds offset interval stop drawn s)
      (∃ k, k * interval < stop - s.now ∧ clockMax < s.now + (k + 1) * interval) stop := by
  by_cases more : s.now < stop
  · rw [holdRounds_of_lt more h]
    by_cases fits : s.now + interval ≤ clockMax
    · rw [Clock.add_of_le fits]
      have rest := ends_holdRounds
        { s with
          now := min (s.now + interval) stop
          touches := s.touches ++
            ((s.fingers.map fun f => (min (s.now + interval) stop, f)).zipIdx drawn).map
              (report offset) }
        offset (drawn + s.fingers.length) h (Nat.min_le_right ..)
      exact ⟨rest.1.trans (begins_late_iff fits), rest.2⟩
    · rw [Clock.add_of_lt (Nat.not_le.1 fits)]
      refine ends_of_error ⟨0, ?_, ?_⟩
      · rw [Nat.zero_mul]
        exact Nat.sub_pos_of_lt more
      · rw [Nat.zero_add, Nat.one_mul]
        exact Nat.not_le.1 fits
  · have ended : s.now = stop := Nat.le_antisymm ahead (Nat.not_lt.1 more)
    rw [holdRounds_of_le offset interval drawn (Nat.le_of_eq ended.symm)]
    refine ends_of_ok ?_ ended
    rintro ⟨k, begun, _⟩
    rw [ended, Nat.sub_self] at begun
    exact Nat.not_lt_zero _ begun
termination_by stop - s.now
decreasing_by exact remaining_lt more h

theorem ends_hold (within : s.now ≤ clockMax) (offset : Nat → Point) (duration interval : Nat) :
    Ends (s.holdWith offset duration interval)
      (clockMax < s.now + duration ∨ HoldOverruns s.now duration interval) (s.now + duration) := by
  rw [holdWith_eq_holdRounds within]
  by_cases fits : s.now + duration ≤ clockMax
  · rw [Clock.add_of_le fits]
    have rounds := ends_holdRounds s offset 0 (Nat.le_max_right interval 1)
      (Nat.le_add_right s.now duration)
    rw [Nat.add_sub_cancel_left] at rounds
    refine ⟨rounds.1.trans ?_, rounds.2⟩
    exact (or_iff_right (Nat.not_lt.2 fits)).symm
  · rw [Clock.add_of_lt (Nat.not_le.1 fits)]
    exact ends_of_error (Or.inl (Nat.not_le.1 fits))

theorem now_releaseAll (s : Script) : s.releaseAll.now = s.now := by
  unfold releaseAll
  generalize s.fingers.map Prod.fst = ids
  induction ids generalizing s with
  | nil => rfl
  | cons id rest ih => exact ih (s.up id)

/-! ### Operations -/

/-- An operation, round by round, fails if its end is out of range or it overruns the clock on the
way there, and only then.  If it does not fail it ends when it should. -/
theorem perform_fails_iff (within : s.now ≤ clockMax) {op : Op} (_usable : op.Usable) :
    ((∃ e, s.perform op = .error e) ↔ clockMax < s.now + op.duration ∨ op.Overruns s.now) ∧
      ∀ s', s.perform op = .ok s' → s'.now = s.now + op.duration := by
  cases op with
  | advance amount => exact ends_advance s amount
  | down id p => exact ends_at_once within rfl
  | moveTo id p => exact ends_at_once within rfl
  | drag id target duration steps => exact ends_drag within id target duration steps
  | hold duration interval => exact ends_hold within _ duration interval
  | holdJittered duration interval amplitude seed => exact ends_hold within _ duration interval
  | up id => exact ends_at_once within rfl
  | releaseAll => exact ends_at_once within (now_releaseAll s)
  | cancel => exact ends_at_once within rfl
  | tap id p press => exact ends_tap s id p press

/-- A hundred milliseconds before the end of the clock there is room for a hold that reports every
fifty. -/
theorem perform_fails_iff_near_end :
    let s := (startingAt (clockMax - 100)).down 0 ⟨10, 10⟩
    let op := Op.holdJittered 100 50 5 42
    s.now ≤ clockMax ∧ op.Usable ∧ ∃ s', s.perform op = .ok s' ∧ s'.now = clockMax := by
  intro s op
  have within : s.now ≤ clockMax := by decide
  have usable : op.Usable := (by decide +kernel : Jitter.Usable 5)
  have whole : s.now + wholeIntervals 100 50 ≤ clockMax := by decide
  have done : s.holdWith (Jitter.ofSeed 5 42).offset 100 50 = .ok _ := holdWith_of_le _ whole
  have ends := perform_fails_iff within usable
  exact ⟨within, usable, _, done, ends.2 _ done⟩

/-- One millisecond after the clock has begun, a hold that is reported once and a drag in two moves
fail, although both would end in range. -/
theorem overruns_in_range :
    let s := (startingAt 1).down 0 ⟨10, 10⟩
    (s.now + (Op.hold 100 clockMax).duration ≤ clockMax ∧
      s.perform (.hold 100 clockMax) = .error .addition) ∧
    s.now + (Op.drag 0 ⟨20, 10⟩ (2 ^ 63) 2).duration ≤ clockMax ∧
      s.perform (.drag 0 ⟨20, 10⟩ (2 ^ 63) 2) = .error .multiplication := by
  decide +kernel

end Script
end ExitGesture
