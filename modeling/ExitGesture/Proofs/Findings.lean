import ExitGesture.Replay.Standard
import Mathlib.Data.List.Nodup
import Mathlib.Data.Set.Card

/-!
# What the checks of a stream find

Two of the standard checks remember something of the stream: whether it has fired, and which
pointers are down.  Both are said here of a trace and its indices alone, without a walk and without
a memory.  A stream begins with its first landing, or after the end of the one before if that
landing was not recorded.

**Invariant.**  After some steps a walk remembers what took place in the stream that goes on and has
not been undone since.  A step undoes, and ends a stream, only once it has been judged itself, while
a first landing begins its stream at once.

**Results.**
* `atMostOneTriggerPerStream_decides`: the check finds the least second trigger of a stream.
* `noTriggerWithExtraPointers_decides`: the check finds the least trigger with a pointer too many.
-/

namespace ExitGesture

/-! ### Walks and indices -/

namespace Walk

variable {σ : Type} {w : Walk σ} {memory : σ} {steps : List TraceStep} {s : TraceStep} {n : Nat}

theorem memoryAfter_take_succ (w : Walk σ) (memory : σ) (here : steps[n]? = some s) :
    w.memoryAfter memory (steps.take (n + 1)) =
      w.next (w.memoryAfter memory (steps.take n)) s := by
  rw [memoryAfter, List.take_add_one, here, Option.toList_some, List.foldl_concat]
  rfl

/-- An index splits a list at its element. -/
theorem split_of_getElem? (here : steps[n]? = some s) :
    steps = steps.take n ++ s :: steps.drop (n + 1) := by
  obtain ⟨within, rfl⟩ := List.getElem?_eq_some_iff.1 here
  rw [List.getElem_cons_drop, List.take_append_drop]

theorem firstFinding_eq_none_iff_getElem? (w : Walk σ) (memory : σ) (steps : List TraceStep) :
    w.firstFinding memory 0 steps = none ↔
      ∀ n s, steps[n]? = some s →
        w.fault? (w.memoryAfter memory (steps.take n)) s = none := by
  rw [firstFinding_none_iff]
  constructor
  · intro clean n s here
    exact clean _ s _ (split_of_getElem? here)
  · rintro clean front s back rfl
    simpa using clean front.length s (by simp)

theorem firstFinding_eq_some_iff_getElem? (w : Walk σ) (memory : σ) (steps : List TraceStep)
    (f : Finding) :
    w.firstFinding memory 0 steps = some f ↔
      steps[f.index]? = some f.step ∧
        w.fault? (w.memoryAfter memory (steps.take f.index)) f.step = some f.fault ∧
        ∀ n < f.index, ∀ s, steps[n]? = some s →
          w.fault? (w.memoryAfter memory (steps.take n)) s = none := by
  rw [firstFinding_eq_some_iff]
  constructor
  · rintro ⟨front, back, rfl, at_index, at_fault, clean⟩
    rw [Nat.zero_add] at at_index
    refine ⟨by simp [at_index], by simpa [at_index] using at_fault, ?_⟩
    intro n earlier s here
    rw [at_index] at earlier
    rw [List.getElem?_append_left earlier] at here
    rw [List.take_append_of_le_length (Nat.le_of_lt earlier)]
    exact (firstFinding_eq_none_iff_getElem? w memory front).1 clean n s here
  · rintro ⟨here, at_fault, clean⟩
    have within : f.index ≤ steps.length :=
      Nat.le_of_lt (List.getElem?_eq_some_iff.1 here).1
    refine ⟨steps.take f.index, _, split_of_getElem? here, by simp [within], at_fault, ?_⟩
    rw [firstFinding_eq_none_iff_getElem?]
    intro n s before
    have earlier : n < f.index := by
      have := (List.getElem?_eq_some_iff.1 before).1
      rw [List.length_take] at this
      omega
    rw [List.getElem?_take_of_lt earlier] at before
    rw [List.take_take, Nat.min_eq_left (Nat.le_of_lt earlier)]
    exact clean n earlier s before

/-- A walk over some steps is at fault exactly where `F` says so, with the fault that `fault`
names. -/
structure Decides (w : Walk σ) (memory : σ) (steps : List TraceStep) (F : Nat → Prop)
    (fault : Nat → Fault) : Prop where
  within : ∀ {n}, F n → n < steps.length
  fault?_iff : ∀ {n s} (e : Fault), steps[n]? = some s →
    (w.fault? (w.memoryAfter memory (steps.take n)) s = some e ↔ F n ∧ e = fault n)

namespace Decides

variable {F : Nat → Prop} {fault : Nat → Fault}

theorem fault?_eq_none_iff (decides : w.Decides memory steps F fault)
    (here : steps[n]? = some s) :
    w.fault? (w.memoryAfter memory (steps.take n)) s = none ↔ ¬ F n := by
  rw [Option.eq_none_iff_forall_ne_some]
  constructor
  · intro clean at_fault
    exact clean _ ((decides.fault?_iff _ here).2 ⟨at_fault, rfl⟩)
  · intro fine e found
    exact fine ((decides.fault?_iff e here).1 found).1

/-- The walk finds the least step that is at fault. -/
theorem firstFinding_eq_some_iff_least (decides : w.Decides memory steps F fault) (f : Finding) :
    w.firstFinding memory 0 steps = some f ↔
      IsLeast {n | F n} f.index ∧ steps[f.index]? = some f.step ∧ f.fault = fault f.index := by
  rw [firstFinding_eq_some_iff_getElem?]
  constructor
  · rintro ⟨here, at_fault, clean⟩
    obtain ⟨at_index, named⟩ := (decides.fault?_iff _ here).1 at_fault
    refine ⟨⟨at_index, fun n at_n => ?_⟩, here, named⟩
    by_contra earlier
    have there := List.getElem?_eq_getElem (decides.within at_n)
    exact (decides.fault?_eq_none_iff there).1 (clean n (Nat.not_le.1 earlier) _ there) at_n
  · rintro ⟨⟨at_index, least⟩, here, named⟩
    refine ⟨here, (decides.fault?_iff _ here).2 ⟨at_index, named⟩, fun n earlier s there => ?_⟩
    exact (decides.fault?_eq_none_iff there).2 fun at_n => Nat.not_le.2 earlier (least at_n)

/-- An invariant that words what the walk finds is broken exactly if a step is at fault, and names
the least one. -/
theorem reports_iff {i : Invariant} {t : Trace} (decides : w.Decides memory steps F fault)
    (walks : i.check t = (w.firstFinding memory 0 steps).map Finding.message) :
    ((i.violation? t).isSome = true ↔ ∃ n, F n) ∧
      ∀ v, i.violation? t = some v ↔
        ∃ n s, IsLeast {n | F n} n ∧ steps[n]? = some s ∧
          v = ⟨i.name, (Finding.mk n s (fault n)).message⟩ := by
  have reported (v : Violation) :
      i.violation? t = some v ↔
        ∃ n s, IsLeast {n | F n} n ∧ steps[n]? = some s ∧
          v = ⟨i.name, (Finding.mk n s (fault n)).message⟩ := by
    rw [Invariant.violation?, walks, Option.map_map, Option.map_eq_some_iff]
    constructor
    · rintro ⟨⟨n, s, e⟩, found, rfl⟩
      obtain ⟨least, here, named⟩ := (decides.firstFinding_eq_some_iff_least _).1 found
      obtain rfl : e = fault n := named
      exact ⟨n, s, least, here, rfl⟩
    · rintro ⟨n, s, least, here, rfl⟩
      exact ⟨_, (decides.firstFinding_eq_some_iff_least ⟨n, s, fault n⟩).2 ⟨least, here, rfl⟩, rfl⟩
  refine ⟨?_, reported⟩
  rw [Option.isSome_iff_exists]
  constructor
  · rintro ⟨v, found⟩
    obtain ⟨n, _, least, _⟩ := (reported v).1 found
    exact ⟨n, least.1⟩
  · intro some_fault
    classical
    have least := Nat.isLeast_find some_fault
    have here := List.getElem?_eq_getElem (decides.within least.1)
    exact ⟨_, (reported _).2 ⟨_, _, least, here, rfl⟩⟩

end Decides
end Walk

/-! ### Wording -/

namespace Finding

theorem message_secondTrigger (j : Nat) (s : TraceStep) :
    (Finding.mk j s .secondTrigger).message =
      "event " ++ j.repr ++ " (" ++ s.touch.kind.name ++ " #" ++ s.touch.pointer.repr ++
        " at " ++ s.touch.time.repr ++ "ms): second trigger in one stream" := by
  have joined :
      "ms): second trigger in one stream" = "ms): " ++ "second trigger in one stream" := by
    decide
  rw [joined, ← String.append_assoc]
  rfl

theorem message_tooManyDown (j : Nat) (s : TraceStep) (pointers limit : Nat) :
    (Finding.mk j s (.tooManyDown pointers limit)).message =
      "event " ++ j.repr ++ " (" ++ s.touch.kind.name ++ " #" ++ s.touch.pointer.repr ++
        " at " ++ s.touch.time.repr ++ "ms): fired with " ++ pointers.repr ++
        " pointers down (limit " ++ limit.repr ++ ")" := by
  have joined : "ms): fired with " = "ms): " ++ "fired with " := by decide
  rw [joined, ← String.append_assoc]
  unfold message Fault.text
  generalize "event " ++ j.repr ++ " (" ++ s.touch.kind.name ++ " #" ++ s.touch.pointer.repr ++
    " at " ++ s.touch.time.repr ++ "ms): " = heading
  simp only [← String.append_assoc]

end Finding

/-! ### Traces and indices -/

/-- A pointer lands by a step. -/
def TraceStep.Lands (p : PointerId) (s : TraceStep) : Prop :=
  (s.touch.kind = .down ∨ s.touch.kind = .pointerDown) ∧ s.touch.pointer = p

/-- A pointer lifts by a step that leaves others down. -/
def TraceStep.Lifts (p : PointerId) (s : TraceStep) : Prop :=
  s.touch.kind = .pointerUp ∧ s.touch.pointer = p

namespace Trace

variable {t : Trace} {s : TraceStep} {i j n : Nat} {P Q : TraceStep → Prop}

/-- The step at an index is as `P` says. -/
def At (t : Trace) (n : Nat) (P : TraceStep → Prop) : Prop := ∃ s, t.steps[n]? = some s ∧ P s

/-- The step at an index completed the gesture. -/
def FiresAt (t : Trace) (n : Nat) : Prop := t.At n fun s => s.triggered = true

/-- The first pointer of a stream lands at an index. -/
def BeginsAt (t : Trace) (n : Nat) : Prop := t.At n fun s => s.touch.kind = .down

/-- The last pointer of a stream lifts at an index, or the stream is cancelled. -/
def EndsAt (t : Trace) (n : Nat) : Prop :=
  t.At n fun s => s.touch.kind = .up ∨ s.touch.kind = .cancel

/-- Two indices lie in one stream: none begins after the first up to the second, and none ends from
the first on before the second. -/
structure OneStream (t : Trace) (i j : Nat) : Prop where
  none_begins : ∀ k, i < k → k ≤ j → ¬ t.BeginsAt k
  none_ends : ∀ k, i ≤ k → k < j → ¬ t.EndsAt k

/-- The gesture is completed at an index, and was before in the same stream. -/
def FiresAgainAt (t : Trace) (j : Nat) : Prop :=
  ∃ i < j, t.FiresAt i ∧ t.FiresAt j ∧ t.OneStream i j

/-- A pointer is down at an index: it landed there or before in the same stream, and has not lifted
since, unless at that very index. -/
def DownAt (t : Trace) (p : PointerId) (j : Nat) : Prop :=
  ∃ k ≤ j, t.At k (TraceStep.Lands p) ∧ t.OneStream k j ∧
    ∀ l, k ≤ l → l < j → ¬ t.At l (TraceStep.Lifts p)

/-- The gesture is completed at an index with more pointers down than `limit`. -/
def CrowdedAt (t : Trace) (limit j : Nat) : Prop :=
  t.FiresAt j ∧ limit < {p | t.DownAt p j}.ncard

theorem at_iff (here : t.steps[n]? = some s) : t.At n P ↔ P s := by
  simp [At, here]

theorem firesAt_iff (here : t.steps[n]? = some s) : t.FiresAt n ↔ s.triggered = true :=
  at_iff here

theorem beginsAt_iff (here : t.steps[n]? = some s) : t.BeginsAt n ↔ s.touch.kind = .down :=
  at_iff here

theorem endsAt_iff (here : t.steps[n]? = some s) :
    t.EndsAt n ↔ s.touch.kind = .up ∨ s.touch.kind = .cancel :=
  at_iff here

theorem within_of_at (at_n : t.At n P) : n < t.steps.length := by
  obtain ⟨_, here, _⟩ := at_n
  exact (List.getElem?_eq_some_iff.1 here).1

/-- A step before `n` is as `P` says, and what it did is not undone before `n`: no stream begins
after it, and neither it nor a later step ends its stream or is as `Q` says. -/
def Outlasts (t : Trace) (P Q : TraceStep → Prop) (n : Nat) : Prop :=
  ∃ i < n, t.At i P ∧ (∀ k, i < k → k < n → ¬ t.BeginsAt k) ∧
    ∀ k, i ≤ k → k < n → ¬ t.EndsAt k ∧ ¬ t.At k Q

theorem not_outlasts_zero : ¬ t.Outlasts P Q 0 := by
  rintro ⟨i, before, _⟩
  exact Nat.not_lt_zero i before

/-- What takes place and is not undone, step by step. -/
theorem outlasts_succ :
    t.Outlasts P Q (n + 1) ↔
      (t.At n P ∨ t.Outlasts P Q n ∧ ¬ t.BeginsAt n) ∧ ¬ t.EndsAt n ∧ ¬ t.At n Q := by
  constructor
  · rintro ⟨i, before, at_i, none_begins, none_undoes⟩
    refine ⟨?_, none_undoes n (Nat.le_of_lt_succ before) n.lt_succ_self⟩
    rcases Nat.lt_succ_iff_lt_or_eq.1 before with earlier | rfl
    · refine Or.inr ⟨⟨i, earlier, at_i, fun k after k_before => ?_, fun k from_i k_before => ?_⟩,
        none_begins n earlier n.lt_succ_self⟩
      · exact none_begins k after (Nat.lt_succ_of_lt k_before)
      · exact none_undoes k from_i (Nat.lt_succ_of_lt k_before)
    · exact Or.inl at_i
  · rintro ⟨at_n | ⟨⟨i, before, at_i, none_begins, none_undoes⟩, goes_on⟩, stays⟩
    · refine ⟨n, n.lt_succ_self, at_n, fun k after before => ?_, fun k from_n before => ?_⟩
      · exact absurd after (Nat.not_lt.2 (Nat.le_of_lt_succ before))
      · rw [Nat.le_antisymm (Nat.le_of_lt_succ before) from_n]
        exact stays
    · refine ⟨i, Nat.lt_succ_of_lt before, at_i, fun k after k_before => ?_,
        fun k from_i k_before => ?_⟩
      · rcases Nat.lt_succ_iff_lt_or_eq.1 k_before with earlier | rfl
        · exact none_begins k after earlier
        · exact goes_on
      · rcases Nat.lt_succ_iff_lt_or_eq.1 k_before with earlier | rfl
        · exact none_undoes k from_i earlier
        · exact stays

/-- A second trigger of a stream, by what outlasts the steps before it. -/
theorem firesAgainAt_iff :
    t.FiresAgainAt j ↔
      t.FiresAt j ∧ t.Outlasts (fun s => s.triggered = true) (fun _ => False) j ∧
        ¬ t.BeginsAt j := by
  constructor
  · rintro ⟨i, before, fires, again, stream⟩
    refine ⟨again, ⟨i, before, fires, fun k after k_before => ?_, fun k from_i k_before => ?_⟩, ?_⟩
    · exact stream.none_begins k after (Nat.le_of_lt k_before)
    · exact ⟨stream.none_ends k from_i k_before, fun ⟨_, _, never⟩ => never⟩
    · exact stream.none_begins j before (Nat.le_refl j)
  · rintro ⟨again, ⟨i, before, fires, none_begins, none_undoes⟩, goes_on⟩
    refine ⟨i, before, fires, again, fun k after k_within => ?_, fun k from_i k_before => ?_⟩
    · rcases Nat.lt_or_eq_of_le k_within with earlier | rfl
      · exact none_begins k after earlier
      · exact goes_on
    · exact (none_undoes k from_i k_before).1

/-- A pointer that is down has just landed, or its landing outlasts the steps before. -/
theorem downAt_iff {p : PointerId} :
    t.DownAt p j ↔
      t.At j (TraceStep.Lands p) ∨
        t.Outlasts (TraceStep.Lands p) (TraceStep.Lifts p) j ∧ ¬ t.BeginsAt j := by
  constructor
  · rintro ⟨k, within, lands, stream, stays⟩
    rcases Nat.lt_or_eq_of_le within with before | rfl
    · right
      refine ⟨⟨k, before, lands, fun l after l_before => ?_, fun l from_k l_before => ?_⟩, ?_⟩
      · exact stream.none_begins l after (Nat.le_of_lt l_before)
      · exact ⟨stream.none_ends l from_k l_before, stays l from_k l_before⟩
      · exact stream.none_begins j before (Nat.le_refl j)
    · exact Or.inl lands
  · rintro (lands | ⟨⟨k, before, lands, none_begins, none_undoes⟩, goes_on⟩)
    · refine ⟨j, Nat.le_refl j, lands, ⟨fun k after within => ?_, fun k from_j before => ?_⟩,
        fun k from_j before => ?_⟩
      · exact absurd after (Nat.not_lt.2 within)
      · exact absurd before (Nat.not_lt.2 from_j)
      · exact absurd before (Nat.not_lt.2 from_j)
    · refine ⟨k, Nat.le_of_lt before, lands,
        ⟨fun l after within => ?_, fun l from_k l_before => ?_⟩, fun l from_k l_before => ?_⟩
      · rcases Nat.lt_or_eq_of_le within with earlier | rfl
        · exact none_begins l after earlier
        · exact goes_on
      · exact (none_undoes l from_k l_before).1
      · exact (none_undoes l from_k l_before).2

end Trace

/-! ### The check of triggers -/

namespace Invariant

section Triggers

variable {t : Trace} {s : TraceStep} {fired : Bool} {n : Nat}

theorem next_triggerWalk :
    triggerWalk.next fired s = true ↔
      (s.triggered = true ∨ fired = true ∧ s.touch.kind ≠ .down) ∧
        ¬ (s.touch.kind = .up ∨ s.touch.kind = .cancel) := by
  rw [@or_comm (s.triggered = true)]
  simp [triggerWalk, Touch.Kind.endsStream]

theorem fault?_triggerWalk {e : Fault} :
    triggerWalk.fault? fired s = some e ↔
      (s.triggered = true ∧ fired = true ∧ s.touch.kind ≠ .down) ∧ e = .secondTrigger := by
  simp [triggerWalk, and_assoc, @eq_comm _ e]

/-- The walk remembers a trigger exactly if one outlasts the steps so far. -/
theorem memoryAfter_triggerWalk (within : n ≤ t.steps.length) :
    triggerWalk.memoryAfter false (t.steps.take n) = true ↔
      t.Outlasts (fun s => s.triggered = true) (fun _ => False) n := by
  induction n with
  | zero => exact iff_of_false Bool.false_ne_true Trace.not_outlasts_zero
  | succ n ih =>
      have here := List.getElem?_eq_getElem within
      have so_far := ih (Nat.le_of_succ_le within)
      have stays : ¬ t.At n fun _ => False := by
        rintro ⟨_, _, never⟩
        exact never
      calc triggerWalk.memoryAfter false (t.steps.take (n + 1)) = true
          ↔ triggerWalk.next (triggerWalk.memoryAfter false (t.steps.take n)) t.steps[n] =
              true := by
            rw [Walk.memoryAfter_take_succ _ _ here]
        _ ↔ (t.FiresAt n ∨
              t.Outlasts (fun s => s.triggered = true) (fun _ => False) n ∧ ¬ t.BeginsAt n) ∧
            ¬ t.EndsAt n := by
            rw [next_triggerWalk, so_far, Trace.firesAt_iff here, Trace.beginsAt_iff here,
              Trace.endsAt_iff here]
        _ ↔ t.Outlasts (fun s => s.triggered = true) (fun _ => False) (n + 1) := by
            rw [Trace.outlasts_succ, and_iff_left stays]
            rfl

theorem triggerWalk_decides (t : Trace) :
    triggerWalk.Decides false t.steps t.FiresAgainAt fun _ => .secondTrigger where
  within at_n := Trace.within_of_at (Trace.firesAgainAt_iff.1 at_n).1
  fault?_iff e here := by
    have within := Nat.le_of_lt (List.getElem?_eq_some_iff.1 here).1
    rw [fault?_triggerWalk, memoryAfter_triggerWalk within, Trace.firesAgainAt_iff,
      Trace.firesAt_iff here, Trace.beginsAt_iff here]

/-- In every trace the check finds a trigger that is not the first of its stream exactly if there is
one, and reports the least by its number, its kind, its pointer and its time. -/
theorem atMostOneTriggerPerStream_decides (t : Trace) :
    ((atMostOneTriggerPerStream.violation? t).isSome = true ↔ ∃ j, t.FiresAgainAt j) ∧
      ∀ v, atMostOneTriggerPerStream.violation? t = some v ↔
        ∃ j s, IsLeast {j | t.FiresAgainAt j} j ∧ t.steps[j]? = some s ∧
          v.invariant = "at_most_one_trigger_per_stream" ∧
          v.message =
            "event " ++ j.repr ++ " (" ++ s.touch.kind.name ++ " #" ++ s.touch.pointer.repr ++
              " at " ++ s.touch.time.repr ++ "ms): second trigger in one stream" := by
  obtain ⟨found, reported⟩ :=
    (triggerWalk_decides t).reports_iff (i := atMostOneTriggerPerStream) rfl
  refine ⟨found, fun v => (reported v).trans ?_⟩
  constructor
  · rintro ⟨j, s, least, here, rfl⟩
    exact ⟨j, s, least, here, rfl, Finding.message_secondTrigger j s⟩
  · rintro ⟨j, s, least, here, named, worded⟩
    refine ⟨j, s, least, here, Violation.ext named ?_⟩
    exact worded.trans (Finding.message_secondTrigger j s).symm

end Triggers

/-! ### The check of pointers -/

section Pointers

variable {t : Trace} {s : TraceStep} {down : List PointerId} {p : PointerId} {limit n : Nat}

theorem mem_landed_iff :
    p ∈ landed down s ↔ s.Lands p ∨ p ∈ down ∧ s.touch.kind ≠ .down := by
  unfold landed TraceStep.Lands
  cases s.touch.kind <;> simp [eq_comm]

theorem nodup_landed (nodup : down.Nodup) : (landed down s).Nodup := by
  unfold landed
  cases s.touch.kind with
  | down => exact List.nodup_singleton _
  | pointerDown => exact nodup.insert
  | move => exact nodup
  | up => exact nodup
  | pointerUp => exact nodup
  | cancel => exact nodup

theorem mem_lifted_iff (nodup : down.Nodup) :
    p ∈ lifted down s ↔
      p ∈ down ∧ ¬ (s.touch.kind = .up ∨ s.touch.kind = .cancel) ∧ ¬ s.Lifts p := by
  unfold lifted TraceStep.Lifts
  cases s.touch.kind <;> simp [nodup.mem_erase_iff, and_comm, eq_comm]

theorem nodup_lifted (nodup : down.Nodup) : (lifted down s).Nodup := by
  unfold lifted
  cases s.touch.kind with
  | down => exact nodup
  | pointerDown => exact nodup
  | move => exact nodup
  | up => exact List.nodup_nil
  | pointerUp => exact nodup.erase _
  | cancel => exact List.nodup_nil

/-- The walk remembers, once each, the pointers whose landing outlasts the steps so far. -/
theorem memoryAfter_pointerWalk (limit : Nat) (within : n ≤ t.steps.length) :
    let down := (pointerWalk limit).memoryAfter [] (t.steps.take n)
    down.Nodup ∧ ∀ p, p ∈ down ↔ t.Outlasts (TraceStep.Lands p) (TraceStep.Lifts p) n := by
  induction n with
  | zero => exact ⟨List.nodup_nil, fun p => iff_of_false List.not_mem_nil Trace.not_outlasts_zero⟩
  | succ n ih =>
      obtain ⟨nodup, remembered⟩ := ih (Nat.le_of_succ_le within)
      have here := List.getElem?_eq_getElem within
      rw [Walk.memoryAfter_take_succ _ _ here]
      refine ⟨nodup_lifted (nodup_landed nodup), fun p => ?_⟩
      have lands : t.At n (TraceStep.Lands p) ↔ t.steps[n].Lands p := Trace.at_iff here
      have lifts : t.At n (TraceStep.Lifts p) ↔ t.steps[n].Lifts p := Trace.at_iff here
      rw [Trace.outlasts_succ, ← remembered p, Trace.beginsAt_iff here, Trace.endsAt_iff here,
        lands, lifts, ← mem_landed_iff]
      exact mem_lifted_iff (nodup_landed nodup)

/-- What the walk counts at a step are the pointers that are down there. -/
theorem ncard_downAt (limit : Nat) (here : t.steps[n]? = some s) :
    {p | t.DownAt p n}.ncard =
      (landed ((pointerWalk limit).memoryAfter [] (t.steps.take n)) s).length := by
  have within := Nat.le_of_lt (List.getElem?_eq_some_iff.1 here).1
  obtain ⟨nodup, remembered⟩ := memoryAfter_pointerWalk limit within
  have down_iff (p : PointerId) :
      t.DownAt p n ↔ p ∈ landed ((pointerWalk limit).memoryAfter [] (t.steps.take n)) s := by
    have lands : t.At n (TraceStep.Lands p) ↔ s.Lands p := Trace.at_iff here
    rw [Trace.downAt_iff, ← remembered p, Trace.beginsAt_iff here, lands]
    exact mem_landed_iff.symm
  have counted : {p | t.DownAt p n} =
      (landed ((pointerWalk limit).memoryAfter [] (t.steps.take n)) s).toFinset := by
    ext p
    rw [Finset.mem_coe, List.mem_toFinset]
    exact down_iff p
  rw [counted, Set.ncard_coe_finset, List.toFinset_card_of_nodup (nodup_landed nodup)]

theorem pointerWalk_decides (t : Trace) (limit : Nat) :
    (pointerWalk limit).Decides [] t.steps (t.CrowdedAt limit) fun n =>
      .tooManyDown {p | t.DownAt p n}.ncard limit where
  within at_n := Trace.within_of_at at_n.1
  fault?_iff e here := by
    rw [Trace.CrowdedAt, Trace.firesAt_iff here, ncard_downAt limit here]
    simp [pointerWalk, @eq_comm _ e]

/-- Only a gesture that is known to follow one pointer takes less than two. -/
theorem pointerLimit_eq (t : Trace) :
    pointerLimit t = if t.gesture.any fun g => !g.pairsPointers then 1 else 2 := by
  unfold pointerLimit
  cases t.gesture with
  | none => rfl
  | some g => cases pairs : g.pairsPointers <;> simp [Gesture.maxPointers, pairs]

/-- In every trace the check finds a trigger with more pointers down than the gesture takes exactly
if there is one, and reports the least and how many they are.  A gesture that is not known may take
two. -/
theorem noTriggerWithExtraPointers_decides (t : Trace) :
    let limit := if t.gesture.any fun g => !g.pairsPointers then 1 else 2
    ((noTriggerWithExtraPointers.violation? t).isSome = true ↔ ∃ j, t.CrowdedAt limit j) ∧
      ∀ v, noTriggerWithExtraPointers.violation? t = some v ↔
        ∃ j s, IsLeast {j | t.CrowdedAt limit j} j ∧ t.steps[j]? = some s ∧
          v.invariant = "no_trigger_with_extra_pointers" ∧
          v.message =
            "event " ++ j.repr ++ " (" ++ s.touch.kind.name ++ " #" ++ s.touch.pointer.repr ++
              " at " ++ s.touch.time.repr ++ "ms): fired with " ++ {p | t.DownAt p j}.ncard.repr ++
              " pointers down (limit " ++ limit.repr ++ ")" := by
  intro limit
  have known : limit = pointerLimit t := (pointerLimit_eq t).symm
  rw [known]
  obtain ⟨found, reported⟩ :=
    (pointerWalk_decides t (pointerLimit t)).reports_iff (i := noTriggerWithExtraPointers) rfl
  refine ⟨found, fun v => (reported v).trans ?_⟩
  constructor
  · rintro ⟨j, s, least, here, rfl⟩
    exact ⟨j, s, least, here, rfl, Finding.message_tooManyDown j s _ _⟩
  · rintro ⟨j, s, least, here, named, worded⟩
    refine ⟨j, s, least, here, Violation.ext named ?_⟩
    exact worded.trans (Finding.message_tooManyDown j s _ _).symm

end Pointers

end Invariant
end ExitGesture
