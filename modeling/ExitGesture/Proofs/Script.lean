import ExitGesture.Proofs.Pointers.Stream
import ExitGesture.Proofs.Rounds
import Mathlib.Data.List.Induction
import Mathlib.Logic.Relation

/-!
# Scripts step by step

A drag, a hold and a release emit many touches at once.  Seen closely, a script does one thing after
another: time passes, or one touch is emitted at the present time.  What a step keeps is kept by
every operation.

**Invariant.**  `Speaks`: the touches are orderly, and the pointers that they leave down are the
fingers.
-/

namespace ExitGesture

/-! ### Fingers -/

namespace Fingers

theorem mem_place_iff {id q : PointerId} {p : Point} {fingers : Fingers} :
    q ∈ (place id p fingers).map Prod.fst ↔ q = id ∨ q ∈ fingers.map Prod.fst := by
  induction fingers with
  | nil => simp [place]
  | cons f rest ih =>
      obtain ⟨other, at_other⟩ := f
      unfold place
      split
      · simp
      · split
        next same => simp [same]
        next =>
          simp only [List.map_cons, List.mem_cons, ih]
          exact or_left_comm

theorem mem_lift_iff {id q : PointerId} {fingers : Fingers} :
    q ∈ (lift id fingers).map Prod.fst ↔ q ≠ id ∧ q ∈ fingers.map Prod.fst := by
  simp only [lift, List.mem_map, List.mem_filter, decide_eq_true_eq]
  constructor
  · rintro ⟨f, ⟨mem, other⟩, rfl⟩
    exact ⟨other, f, mem, rfl⟩
  · rintro ⟨other, f, mem, rfl⟩
    exact ⟨f, ⟨mem, other⟩, rfl⟩

end Fingers

namespace Script

variable {s s' : Script}

/-! ### Steps -/

/-- One thing that a script does at a time. -/
inductive Step : Script → Script → Prop
  /-- Time passes. -/
  | wait {s : Script} {now : Time} (later : s.now ≤ now) : Step s { s with now }
  /-- A finger lands. -/
  | down (s : Script) (id : PointerId) (p : Point) : Step s (s.down id p)
  /-- A finger moves. -/
  | moveTo (s : Script) (id : PointerId) (p : Point) : Step s (s.moveTo id p)
  /-- A finger is reported and stays where it is. -/
  | report (s : Script) (id : PointerId) (p : Point) : Step s (s.emit .move id p)
  /-- A finger lifts. -/
  | up (s : Script) (id : PointerId) : Step s (s.up id)
  /-- The host aborts the stream. -/
  | cancel (s : Script) : Step s s.cancel

/-- A script comes to another step by step. -/
abbrev Leads : Script → Script → Prop := Relation.ReflTransGen Step

/-- What a step keeps is kept all the way. -/
theorem keeps_of_leads {P : Script → Prop} (keeps : ∀ {s s'}, P s → Step s s' → P s')
    (leads : Leads s s') (holds : P s) : P s' := by
  induction leads with
  | refl => exact holds
  | tail _ step ih => exact keeps ih step

theorem leads_of_advance {amount : Nat} (done : s.advance amount = .ok s') : Leads s s' := by
  unfold advance at done
  cases later : Clock.add s.now amount with
  | error e => simp [later, Except.map] at done
  | ok now =>
      simp only [later, Except.map, Except.ok.injEq] at done
      subst done
      refine .single (.wait ?_)
      unfold Clock.add at later
      split at later
      · cases later
        exact Nat.le_add_right _ _
      · cases later

/-- Time passes, and then a finger moves. -/
theorem leads_moveTo (id : PointerId) (p : Point) {now : Time} (later : s.now ≤ now) :
    Leads s ({ s with now }.moveTo id p) :=
  (Relation.ReflTransGen.single (.wait later)).tail (.moveTo _ id p)

/-- The rounds of a drag: each lets time pass and then moves the finger. -/
theorem leads_of_dragRounds {id : PointerId} {origin target : Point}
    {start duration steps n k : Nat}
    (timely : s.now ≤ moveTime start duration steps k)
    (done : (List.range' k n).foldlM (dragRound id origin target start duration steps) s = .ok s') :
    Leads s s' := by
  induction n generalizing s k with
  | zero =>
      cases done
      exact .refl
  | succ n ih =>
      rw [List.range'_succ, List.foldlM_cons] at done
      cases made : dragRound id origin target start duration steps s k with
      | error e =>
          rw [made] at done
          cases done
      | ok next =>
          rw [made] at done
          obtain rfl := eq_of_dragRound made
          have moved := leads_moveTo id (waypoint origin target steps k) timely
          exact moved.trans (ih (moveTime_mono start duration steps (Nat.le_succ k)) done)

theorem leads_of_drag {id : PointerId} {target : Point} {duration steps : Nat}
    (done : s.drag id target duration steps = .ok s') : Leads s s' := by
  rw [drag_eq_foldlM (within_of_drag done)] at done
  have timely : s.now ≤ moveTime s.now duration (max steps 1) 1 := Nat.le_add_right _ _
  exact leads_of_dragRounds timely done

theorem leads_reportAll (s : Script) (offset : Nat → Point) (drawn : Nat) (fingers : Fingers) :
    Leads s (reportAll offset drawn s fingers) := by
  induction fingers generalizing s drawn with
  | nil => exact .refl
  | cons f rest ih =>
      obtain ⟨id, anchor⟩ := f
      exact .head (.report s id _) (ih _ (drawn + 1))

/-- The rounds of a hold: each lets time pass and then reports every finger. -/
theorem leads_of_holdRounds {offset : Nat → Point} {interval stop drawn : Nat}
    (done : holdRounds offset interval stop drawn s = .ok s') : Leads s s' := by
  fun_induction holdRounds offset interval stop drawn s with
  | case1 drawn s more e room => cases done
  | case2 drawn s more later room ih =>
      have ahead : s.now ≤ min later stop := by
        obtain ⟨rfl, _⟩ := Clock.eq_of_add room
        exact Nat.le_min.2 ⟨Nat.le_add_right .., Nat.le_of_lt more.1⟩
      have waited : Leads s { s with now := min later stop } := .single (.wait ahead)
      exact (waited.trans (leads_reportAll _ offset drawn s.fingers)).trans (ih done)
  | case3 drawn s ended =>
      cases done
      exact .refl

theorem leads_of_holdWith {offset : Nat → Point} {duration interval : Nat}
    (done : s.holdWith offset duration interval = .ok s') : Leads s s' := by
  have room := room_of_holdWith done
  rw [holdWith_eq_holdRounds (Nat.le_trans (Nat.le_add_right ..) room)] at done
  cases stop : Clock.add s.now duration with
  | error e =>
      rw [stop] at done
      cases done
  | ok now =>
      rw [stop] at done
      exact leads_of_holdRounds done

theorem leads_releaseAll (s : Script) : Leads s s.releaseAll := by
  unfold releaseAll
  generalize s.fingers.map Prod.fst = ids
  induction ids generalizing s with
  | nil => exact .refl
  | cons id rest ih => exact .head (.up s id) (ih (s.up id))

theorem leads_of_tap {id : PointerId} {p : Point} {press : Nat}
    (done : s.tap id p press = .ok s') : Leads s s' := by
  unfold tap at done
  cases pressed : (s.down id p).advance press with
  | error e => simp [pressed, Except.map] at done
  | ok held =>
      simp only [pressed, Except.map, Except.ok.injEq] at done
      subst done
      exact .head (.down s id p) ((leads_of_advance pressed).tail (.up held id))

/-- Every operation is a row of steps. -/
theorem leads_of_perform {op : Op} (done : s.perform op = .ok s') : Leads s s' := by
  cases op with
  | advance amount => exact leads_of_advance done
  | down id p =>
      cases done
      exact .single (.down s id p)
  | moveTo id p =>
      cases done
      exact .single (.moveTo s id p)
  | drag id target duration steps => exact leads_of_drag done
  | hold duration interval => exact leads_of_holdWith done
  | holdJittered duration interval amplitude seed => exact leads_of_holdWith done
  | up id =>
      cases done
      exact .single (.up s id)
  | releaseAll =>
      cases done
      exact leads_releaseAll s
  | cancel =>
      cases done
      exact .single (.cancel s)
  | tap id p press => exact leads_of_tap done

theorem leads_of_run {ops : List Op} (done : s.run ops = .ok s') : Leads s s' := by
  induction ops generalizing s with
  | nil =>
      cases done
      exact .refl
  | cons op rest ih =>
      cases performed : s.perform op with
      | error e => simp [run, List.foldlM, performed, bind, Except.bind] at done
      | ok next =>
          refine (leads_of_perform performed).trans (ih ?_)
          simpa [run, List.foldlM, performed, bind, Except.bind] using done

/-! ### Orderly touches -/

/-- The touches of a script are orderly and leave its fingers down. -/
structure Speaks (s : Script) : Prop where
  orderly : Touch.Orderly s.touches
  down : ∀ p, p ∈ Touch.downAfter s.touches ↔ p ∈ s.fingers.map Prod.fst

theorem speaks_startingAt (now : Time) : (startingAt now).Speaks where
  orderly := Touch.orderly_nil
  down p := by simp [startingAt, Touch.downAfter]

namespace Speaks

theorem eq_nil (speaks : s.Speaks) (none : s.fingers = []) : Touch.downAfter s.touches = [] := by
  apply List.eq_nil_iff_forall_not_mem.2
  intro p mem
  simpa [none] using (speaks.down p).1 mem

/-- A script goes on speaking if it emits a touch that fits, and its fingers follow. -/
theorem emit (speaks : s.Speaks) (t : Touch) (now : Time) (fingers : Fingers)
    (fits : t.Fits (Touch.downAfter s.touches))
    (follows : ∀ p, p ∈ Recognizer.pointersAfter (Touch.downAfter s.touches) t ↔
      p ∈ fingers.map Prod.fst) :
    (⟨now, s.touches ++ [t], fingers⟩ : Script).Speaks where
  orderly := speaks.orderly.concat fits
  down p := by
    rw [Touch.downAfter_concat]
    exact follows p

theorem lands (speaks : s.Speaks) (id : PointerId) (p : Point) : (s.down id p).Speaks := by
  by_cases none : s.fingers = []
  · have empty := speaks.eq_nil none
    have said := speaks.emit ⟨.down, id, p, s.now⟩ s.now (s.fingers.place id p)
      ⟨fun _ => empty, fun last => by simp at last⟩
      (by simp [Recognizer.pointersAfter, Touch.pointer, none, Fingers.place])
    simpa [Script.down, Script.emit, none] using said
  · have follows (q : PointerId) :
        q ∈ (Touch.downAfter s.touches).insert id ↔ q ∈ (s.fingers.place id p).map Prod.fst := by
      rw [Fingers.mem_place_iff, ← speaks.down q]
      exact List.mem_insert_iff
    have said := speaks.emit ⟨.pointerDown, id, p, s.now⟩ s.now (s.fingers.place id p)
      (.of_other Touch.Kind.noConfusion Touch.Kind.noConfusion _) follows
    simpa [Script.down, Script.emit, none] using said

theorem lifts (speaks : s.Speaks) (id : PointerId) : (s.up id).Speaks := by
  have nodup := Touch.nodup_downAfter s.touches
  by_cases none : s.fingers.lift id = []
  · have alone (p : PointerId) (mem : p ∈ Touch.downAfter s.touches) : p = id := by
      by_contra other
      have left := Fingers.mem_lift_iff.2 ⟨other, (speaks.down p).1 mem⟩
      simp [none] at left
    have said := speaks.emit
      ⟨.up, id, (s.fingers.position? id).getD .origin, s.now⟩ s.now (s.fingers.lift id)
      ⟨fun first => by simp at first, fun _ => alone⟩
      (by simp [Recognizer.pointersAfter, none])
    simpa [Script.up, Script.emit, none] using said
  · have follows (q : PointerId) :
        q ∈ (Touch.downAfter s.touches).erase id ↔ q ∈ (s.fingers.lift id).map Prod.fst := by
      rw [Fingers.mem_lift_iff, ← speaks.down q]
      exact nodup.mem_erase_iff
    have said := speaks.emit
      ⟨.pointerUp, id, (s.fingers.position? id).getD .origin, s.now⟩ s.now (s.fingers.lift id)
      (.of_other Touch.Kind.noConfusion Touch.Kind.noConfusion _) follows
    simpa [Script.up, Script.emit, none] using said

theorem move (speaks : s.Speaks) (id : PointerId) (p : Point) (fingers : Fingers)
    (same : fingers.map Prod.fst = s.fingers.map Prod.fst) :
    ({ s with fingers }.emit .move id p).Speaks :=
  speaks.emit ⟨.move, id, p, s.now⟩ s.now fingers
    (.of_other Touch.Kind.noConfusion Touch.Kind.noConfusion _)
    (by simpa [Recognizer.pointersAfter, same] using speaks.down)

theorem step (speaks : s.Speaks) (step : Step s s') : s'.Speaks := by
  cases step with
  | wait => exact ⟨speaks.orderly, speaks.down⟩
  | down id p => exact speaks.lands id p
  | moveTo id p => exact speaks.move id p _ (Fingers.map_fst_move id p s.fingers)
  | report id p => exact speaks.move id p s.fingers rfl
  | up id => exact speaks.lifts id
  | cancel =>
      exact speaks.emit _ s.now [] (.of_other Touch.Kind.noConfusion Touch.Kind.noConfusion _)
        (by simp [Recognizer.pointersAfter])

theorem run (speaks : s.Speaks) {ops : List Op} (done : s.run ops = .ok s') : s'.Speaks :=
  keeps_of_leads Speaks.step (leads_of_run done) speaks

end Speaks
end Script
end ExitGesture
