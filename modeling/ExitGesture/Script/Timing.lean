import ExitGesture.Duration
import ExitGesture.Touch

/-!
# Timing of drags and holds

A drag makes its moves, and a hold its reports, at times worked out from the time it begins.

**Clock.**  The clock holds 64 bits and its arithmetic is checked.  A drag multiplies its duration
before it divides, and a hold adds a whole interval before it cuts back to its end, so that either
may fail although its end is in range.  Whether all times can be worked out is decided at once, and
not time by time: a drag may have billions of moves.
-/

namespace ExitGesture

/-- Which operation of the clock left its range. -/
inductive Overflow
  | addition
  | multiplication
  deriving DecidableEq, Repr

def Overflow.message : Overflow → String
  | .addition => "attempt to add with overflow"
  | .multiplication => "attempt to multiply with overflow"

namespace Clock

/-- A later time. -/
def add (now amount : Nat) : Except Overflow Nat :=
  if now + amount ≤ clockMax then .ok (now + amount) else .error .addition

end Clock

namespace Script

/-! ### Drags -/

/-- When the `k`-th of `steps` moves of a drag is made. -/
def moveTime (start duration steps k : Nat) : Time := start + duration * k / steps

/-- Why the `k`-th of `steps` moves of a drag cannot be timed. -/
def moveFailure? (start duration steps k : Nat) : Option Overflow :=
  if clockMax < duration * k then some .multiplication
  else if clockMax < moveTime start duration steps k then some .addition
  else none

/-- How many moves of a drag come before the first whose elapsed time cannot be multiplied out. -/
def reach (duration steps : Nat) : Nat :=
  if duration = 0 then steps else min steps (clockMax / duration)

/-- Why a drag fails.  The moves that can be multiplied out come first, and of them the last is the
latest, so that it alone decides whether an addition fails before a multiplication does. -/
def dragFailure? (start duration steps : Nat) : Option Overflow :=
  let last := reach duration steps
  if clockMax < moveTime start duration steps last then some .addition
  else if last < steps then some .multiplication
  else none

theorem moveTime_mono (start duration steps : Nat) {k k' : Nat} (h : k ≤ k') :
    moveTime start duration steps k ≤ moveTime start duration steps k' :=
  Nat.add_le_add_left (Nat.div_le_div_right (Nat.mul_le_mul_left duration h)) start

theorem moveTime_last (start duration : Nat) {steps : Nat} (h : 0 < steps) :
    moveTime start duration steps steps = start + duration := by
  rw [moveTime, Nat.mul_div_cancel duration h]

theorem reach_le (duration steps : Nat) : reach duration steps ≤ steps := by
  unfold reach
  split
  · exact Nat.le_refl steps
  · exact Nat.min_le_left ..

/-- The first moves are those that can be multiplied out. -/
theorem le_reach_iff (duration : Nat) {steps k : Nat} (h : k ≤ steps) :
    k ≤ reach duration steps ↔ duration * k ≤ clockMax := by
  unfold reach
  split
  next zero => simp [zero, h]
  next nonzero =>
    rw [Nat.le_min, Nat.le_div_iff_mul_le (Nat.pos_of_ne_zero nonzero), Nat.mul_comm]
    simp [h]

/-- A move that can be multiplied out fails only by an addition. -/
theorem moveFailure?_of_le_reach (start duration : Nat) {steps k : Nat}
    (h : k ≤ reach duration steps) :
    moveFailure? start duration steps k =
      if clockMax < moveTime start duration steps k then some .addition else none := by
  have within : k ≤ steps := Nat.le_trans h (reach_le duration steps)
  have product := (le_reach_iff duration within).1 h
  simp [moveFailure?, Nat.not_lt.2 product]

/-- Every later move fails by its multiplication. -/
theorem moveFailure?_of_reach_lt (start duration : Nat) {steps k : Nat}
    (h : reach duration steps < k) (within : k ≤ steps) :
    moveFailure? start duration steps k = some .multiplication := by
  have product := mt (le_reach_iff duration within).2 (Nat.not_le.2 h)
  simp [moveFailure?, Nat.not_le.1 product]

/-- A search for the first failure, where all failures are alike, finds one if there is one. -/
theorem findSome?_of_alike {α β : Type} {f : α → Option β} {b : β} {xs : List α}
    (alike : ∀ x ∈ xs, f x = none ∨ f x = some b) (found : ∃ x ∈ xs, f x = some b) :
    xs.findSome? f = some b := by
  cases h : xs.findSome? f with
  | none =>
      obtain ⟨x, hx, e⟩ := found
      simp [List.findSome?_eq_none_iff.1 h x hx] at e
  | some c =>
      obtain ⟨x, hx, e⟩ := List.exists_of_findSome?_eq_some h
      rcases alike x hx with n | s
      · simp [n] at e
      · exact e.symm.trans s

/-- The first failure among the moves that can be multiplied out. -/
theorem findSome?_within_reach {start : Nat} (h : start ≤ clockMax) (duration steps : Nat) :
    (List.range' 1 (reach duration steps)).findSome? (moveFailure? start duration steps) =
      if clockMax < moveTime start duration steps (reach duration steps) then some .addition
      else none := by
  have early : ∀ k ∈ List.range' 1 (reach duration steps), k ≤ reach duration steps := by
    intro k hk
    have bounds := List.mem_range'_1.1 hk
    omega
  split
  next late =>
    have pos : 0 < reach duration steps := by
      apply Nat.pos_of_ne_zero
      intro zero
      simp only [zero, moveTime, Nat.mul_zero, Nat.zero_div, Nat.add_zero] at late
      exact Nat.not_lt.2 h late
    apply findSome?_of_alike
    · intro k hk
      rw [moveFailure?_of_le_reach start duration (early k hk)]
      split
      · exact .inr rfl
      · exact .inl rfl
    · refine ⟨reach duration steps, List.mem_range'_1.2 (by omega), ?_⟩
      rw [moveFailure?_of_le_reach start duration (Nat.le_refl _), if_pos late]
  next fits =>
    rw [List.findSome?_eq_none_iff]
    intro k hk
    have mono := moveTime_mono start duration steps (early k hk)
    rw [moveFailure?_of_le_reach start duration (early k hk),
      if_neg (Nat.not_lt.2 (Nat.le_trans mono (Nat.not_lt.1 fits)))]

/-- The first failure among the moves that cannot be multiplied out. -/
theorem findSome?_beyond_reach (start duration steps : Nat) :
    (List.range' (1 + reach duration steps) (steps - reach duration steps)).findSome?
        (moveFailure? start duration steps) =
      if reach duration steps < steps then some .multiplication else none := by
  split
  next short =>
    have late : ∀ k ∈ List.range' (1 + reach duration steps) (steps - reach duration steps),
        moveFailure? start duration steps k = some .multiplication := by
      intro k hk
      have bounds := List.mem_range'_1.1 hk
      exact moveFailure?_of_reach_lt start duration (by omega) (by omega)
    apply findSome?_of_alike
    · exact fun k hk => .inr (late k hk)
    · have mem : 1 + reach duration steps ∈
          List.range' (1 + reach duration steps) (steps - reach duration steps) :=
        List.mem_range'_1.2 (by omega)
      exact ⟨_, mem, late _ mem⟩
  next all =>
    rw [Nat.sub_eq_zero_of_le (Nat.not_lt.1 all)]
    rfl

theorem dragFailure?_eq_findSome? {start : Nat} (h : start ≤ clockMax) (duration steps : Nat) :
    dragFailure? start duration steps =
      (List.range' 1 steps).findSome? (moveFailure? start duration steps) := by
  have parts : List.range' 1 steps =
      List.range' 1 (reach duration steps) ++
        List.range' (1 + reach duration steps) (steps - reach duration steps) := by
    rw [List.range'_append_1, Nat.add_sub_cancel' (reach_le duration steps)]
  rw [parts, List.findSome?_append, findSome?_within_reach h, findSome?_beyond_reach]
  by_cases late : clockMax < moveTime start duration steps (reach duration steps)
  · simp [dragFailure?, late]
  · simp [dragFailure?, late]

/-! ### Holds -/

/-- A duration, made up to whole intervals. -/
def wholeIntervals (duration interval : Nat) : Nat :=
  (duration + interval - 1) / interval * interval

/-- The times at which a hold reports, after `now` and up to `stop`, behind the `earlier` ones,
which are given latest first. -/
def gatherTimes (interval stop now : Nat) (earlier : List Time) : List Time :=
  if now < stop ∧ 0 < interval then
    let next := min (now + interval) stop
    gatherTimes interval stop next (next :: earlier)
  else earlier.reverse
termination_by stop - now

/-- The times at which a hold reports, after `now` and up to `stop`. -/
def reportTimes (interval stop now : Nat) : List Time := gatherTimes interval stop now []

theorem le_wholeIntervals (duration : Nat) {interval : Nat} (h : 0 < interval) :
    duration ≤ wholeIntervals duration interval := by
  have := Nat.lt_div_mul_add (a := duration + interval - 1) h
  unfold wholeIntervals
  omega

theorem gatherTimes_append (interval stop now : Nat) (later earlier : List Time) :
    gatherTimes interval stop now (later ++ earlier) =
      earlier.reverse ++ gatherTimes interval stop now later := by
  fun_induction gatherTimes interval stop now later with
  | case1 now later more next ih =>
      rw [gatherTimes, if_pos more]
      exact ih
  | case2 now later ended =>
      rw [gatherTimes, if_neg ended, List.reverse_append]

theorem reportTimes_of_lt {interval stop now : Nat} (more : now < stop) (h : 0 < interval) :
    reportTimes interval stop now =
      min (now + interval) stop :: reportTimes interval stop (min (now + interval) stop) := by
  rw [reportTimes, gatherTimes, if_pos ⟨more, h⟩]
  exact gatherTimes_append interval stop _ [] [_]

theorem reportTimes_of_le (interval : Nat) {stop now : Nat} (ended : stop ≤ now) :
    reportTimes interval stop now = [] := by
  rw [reportTimes, gatherTimes, if_neg (by omega), List.reverse_nil]

end Script
end ExitGesture
