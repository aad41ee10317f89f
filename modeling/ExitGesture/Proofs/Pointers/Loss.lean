import ExitGesture.Proofs.History
import ExitGesture.Proofs.Script

/-!
# Pointers that an attempt has lost

A lift that is heard gives up the attempt that tracks its pointer.  A lift or a cancel that
exploration owns is counted and nothing more: the tracker still believes in a pointer that has gone,
and a tick completes the hold without it.  In an orderly stream this is the only way in which a
tracked pointer is off the surface.

**Invariant.**  A tracked pointer is on the surface unless it went unheard, and since then it has
been tracked and off the surface.
-/

namespace ExitGesture

/-- A pointer goes with a touch: it lifts, or its stream is cancelled. -/
def Touch.Takes (p : PointerId) (t : Touch) : Prop :=
  t.kind = .cancel ∨ t.kind.isUp = true ∧ t.pointer = p

/-- A pointer goes while exploration owns the input. -/
def Moment.TakesUnheard (p : PointerId) (m : Moment) : Prop :=
  m.host.exploring = true ∧ ∃ t, m.request = .touch t ∧ t.Takes p

theorem Touch.Takes.lifts {t : Touch} {p : PointerId} {k : Touch.Motion} (takes : t.Takes p)
    (motion : t.kind.motion? = some k) : k = .lift ∧ t.pointer = p := by
  rcases takes with cancels | ⟨lifts, same⟩
  · simp [cancels, Touch.Kind.motion?] at motion
  · exact ⟨by simpa [Touch.Kind.isUp, motion] using lifts, same⟩

/-- A touch of an orderly stream uncounts only a pointer that goes with it. -/
theorem Touch.Fits.takes {t : Touch} {down onSurface : List PointerId} {p : PointerId}
    (fits : t.Fits down) (counted : onSurface ⊆ down) (before : p ∈ onSurface)
    (gone : p ∉ Recognizer.pointersAfter onSurface t) : t.Takes p := by
  unfold Recognizer.pointersAfter at gone
  unfold Touch.Takes
  cases kind : t.kind with
  | down =>
      rw [fits.first kind] at counted
      exact absurd (counted before) List.not_mem_nil
  | pointerDown => simp [kind, before] at gone
  | move => simp [kind, before] at gone
  | up => exact Or.inr ⟨rfl, (fits.last kind p (counted before)).symm⟩
  | pointerUp =>
      refine Or.inr ⟨rfl, ?_⟩
      by_contra other
      have stays : p ∈ onSurface.erase t.pointer := (List.mem_erase_of_ne (Ne.symm other)).2 before
      simp [kind, stays] at gone
  | cancel => exact Or.inl rfl

namespace Recognizer

variable {r : Recognizer} {h : Host} {m : Moment} {p : PointerId}

/-- A pointer that is tracked after a touch that is heard has landed with it, or was tracked before
and has not gone with it. -/
theorem tracked_before_heard (wf : r.WellFormed) (listening : h.exploring = false) {t : Touch}
    (tracked : p ∈ (r.touch h t).state.tracked) :
    t.kind.isDown = true ∧ t.pointer = p ∨ p ∈ r.tracked ∧ ¬ t.Takes p := by
  have course := touch_course r h t
  generalize r.touch h t = o at course tracked
  cases course with
  | explored exploring => simp [listening] at exploring
  | heldBack _ latched => exact absurd (wf.resting latched) (begun_of_tracked tracked)
  | cancelled => exact absurd (stage_abandon _ _) (begun_of_tracked tracked)
  | crowded _ _ _ _ _ state =>
      rw [state] at tracked
      exact absurd (stage_abandon _ _) (begun_of_tracked tracked)
  | @seen _ k step _ _ motion _ stepped _ state =>
      rw [state] at tracked
      have lasts := lasts_of_stage_advance (begun_of_tracked tracked)
      rw [state_advance_of_lasts _ _ _ _ lasts] at tracked
      rw [stepped] at lasts tracked
      have perceived := Tracker.mem_tracked_react (s := .motion k t.contact) lasts tracked
      rcases perceived with lands | ⟨tracked, leaves⟩
      · left
        cases k with
        | land => exact ⟨by simp [Touch.Kind.isDown, motion], lands⟩
        | move => exact lands.elim
        | lift => exact lands.elim
      · right
        constructor
        · rcases (r.counted t).tracker_readied (t := t) with same | idle
          · rw [same] at tracked
            exact tracked
          · exact absurd idle (begun_of_tracked tracked)
        · intro takes
          obtain ⟨rfl, same⟩ := takes.lifts motion
          exact leaves same

theorem tracked_before_tick {now : Time} (tracked : p ∈ (r.tick h now).state.tracked) :
    p ∈ r.tracked := by
  rcases tick_cases r h now with ⟨_, eq⟩ | ⟨_, _, eq⟩
  · rw [eq] at tracked
    exact tracked
  · rw [eq] at tracked
    replace tracked : p ∈ (r.advance (r.tracker.tick (r.view h) now) now false).state.tracked :=
      tracked
    have lasts := lasts_of_stage_advance (begun_of_tracked tracked)
    rw [state_advance_of_lasts _ _ _ _ lasts] at tracked
    have perceived := Tracker.mem_tracked_react (s := .tick now) lasts tracked
    exact (perceived.resolve_left id).1

/-- While a stream is orderly, a pointer that is tracked and off the surface after a moment was so
before it, or has just gone unheard. -/
theorem tracked_before (wf : r.WellFormed) {down : List PointerId} (counted : r.onSurface ⊆ down)
    (fits : ∀ t, m.request = .touch t → t.Fits down) (tracked : p ∈ (r.after m).tracked)
    (gone : p ∉ (r.after m).onSurface) :
    p ∈ r.tracked ∧ (p ∉ r.onSurface ∨ m.TakesUnheard p) := by
  rw [onSurface_after] at gone
  obtain ⟨h, q⟩ := m
  cases q with
  | touch t =>
      have takes (before : p ∈ r.onSurface) := (fits t rfl).takes counted before gone
      cases exploring : h.exploring with
      | true =>
          -- only the count changes, so the tracker holds on to whatever goes
          replace tracked : p ∈ (r.touch h t).state.tracked := tracked
          rw [touch_exploring exploring] at tracked
          refine ⟨tracked, ?_⟩
          by_cases before : p ∈ r.onSurface
          · exact Or.inr ⟨exploring, t, rfl, takes before⟩
          · exact Or.inl before
      | false =>
          rcases tracked_before_heard wf exploring tracked with ⟨lands, rfl⟩ | ⟨tracked, kept⟩
          · exact absurd (mem_pointersAfter_of_isDown lands) gone
          · exact ⟨tracked, Or.inl fun before => kept (takes before)⟩
  | tick now => exact ⟨tracked_before_tick tracked, Or.inl gone⟩
  | reset => exact absurd (stage_abandon _ _) (begun_of_tracked tracked)
  | reload =>
      replace tracked : p ∈ (r.reload h).state.tracked := tracked
      obtain ⟨_, eq | ⟨idle, c, eq⟩⟩ := reload_cases r h
      · rw [eq] at tracked
        exact ⟨tracked, Or.inl gone⟩
      · rw [eq] at tracked
        exact absurd (stage_configured idle c) (begun_of_tracked tracked)

/-- A pointer went unheard while it was counted, and has been tracked and off the surface ever
since. -/
def LostUnheard (c : Config) (p : PointerId) (history : List Moment) : Prop :=
  EverSince
    (fun earlier e => e.TakesUnheard p ∧ p ∈ ((ofConfig c).run earlier).onSurface)
    (fun part => p ∈ ((ofConfig c).run part).tracked ∧ p ∉ ((ofConfig c).run part).onSurface)
    history

theorem lostUnheard_of_tracked (c : Config) (history : List Moment)
    (orderly : Touch.Orderly (Moment.stream history))
    (tracked : p ∈ ((ofConfig c).run history).tracked)
    (gone : p ∉ ((ofConfig c).run history).onSurface) : LostUnheard c p history := by
  -- from the end, the pointer was lost before the last moment or with it
  induction history using List.reverseRecOn with
  | nil => exact absurd (Tracker.stage_ofGesture c.gesture) (begun_of_tracked tracked)
  | append_singleton history m told =>
      have wf := (WellFormed.ofConfig c).run history
      have now := And.intro tracked gone
      rw [run_concat] at tracked gone
      rw [Moment.stream_concat] at orderly
      have fits (t : Touch) (asked : m.request = .touch t) :
          t.Fits (Touch.downAfter (Moment.stream history)) := by
        refine orderly _ t ?_
        simp [Moment.touch?, asked]
      obtain ⟨tracked_before, gone_or_taken⟩ :=
        tracked_before wf (onSurface_subset_downAfter c history) fits tracked gone
      by_cases before : p ∈ ((ofConfig c).run history).onSurface
      · exact everSince_of_now ⟨gone_or_taken.resolve_left (not_not_intro before), before⟩ now
      · have earlier := orderly.of_prefix (List.prefix_append _ _)
        exact (told earlier tracked_before before).concat now

/-- While a script is played, with whatever else between its touches, a gesture fires for pointers
that it tracks.  One of them is off the surface exactly if it went while exploration owned the input
and the attempt has held on to it since. -/
theorem lost_iff_of_fires (c : Config) {start : Time} {ops : List Script.Op} {s : Script}
    (played : (Script.startingAt start).run ops = .ok s) (history : List Moment) (m : Moment)
    (delivered : Moment.stream (history ++ [m]) <+: s.touches)
    (fires : ((ofConfig c).run history).Fires m) :
    let r := (ofConfig c).run history
    r.tracked ≠ [] ∧ ∀ p ∈ r.tracked, p ∉ r.onSurface ↔ LostUnheard c p history := by
  intro r
  obtain ⟨s', _, complete⟩ := complete_of_fires ((WellFormed.ofConfig c).run history) fires
  refine ⟨Tracker.tracked_ne_nil_of_complete complete, ?_⟩
  intro p tracked
  have orderly : Touch.Orderly (Moment.stream history) := by
    rw [Moment.stream_concat] at delivered
    have spoken := ((Script.speaks_startingAt start).run played).orderly
    exact spoken.of_prefix ((List.prefix_append _ _).trans delivered)
  constructor
  · exact lostUnheard_of_tracked c history orderly tracked
  · intro unheard
    exact unheard.now.2

/-- Two fingers land in the corners and lift. -/
def cornersScript : List Script.Op :=
  [.down 0 ⟨10, 10⟩, .advance 50, .down 1 ⟨1070, 1910⟩, .advance 50, .up 0, .up 1]

/-- The landings of that script are heard.  The lifts are not. -/
def cornersUnheard : List Moment :=
  let host : Host := .phone .oppositeCornersHold
  let exploring : Host := { host with exploring := true }
  host.touches [⟨.down, 0, ⟨10, 10⟩, 0⟩, ⟨.pointerDown, 1, ⟨1070, 1910⟩, 50⟩] ++
    exploring.touches [⟨.pointerUp, 0, ⟨10, 10⟩, 100⟩, ⟨.up, 1, ⟨1070, 1910⟩, 100⟩]

/-- A pair that is lifted unheard fires for what it has lost. -/
theorem lost_iff_of_fires_corners :
    let c : Config := .forScreen .oppositeCornersHold 1080 1920
    let r := (ofConfig c).run cornersUnheard
    r.Fires ⟨.phone .oppositeCornersHold, .tick 2550⟩ ∧ r.tracked ≠ [] ∧
      ∀ p ∈ r.tracked, p ∉ r.onSurface ↔ LostUnheard c p cornersUnheard := by
  intro c r
  have played : (Script.startingAt 0).run cornersScript =
      .ok ⟨100, Moment.stream cornersUnheard, []⟩ := by decide +kernel
  have fires : r.Fires ⟨.phone .oppositeCornersHold, .tick 2550⟩ := by decide +kernel
  exact ⟨fires, lost_iff_of_fires c played cornersUnheard
    ⟨.phone .oppositeCornersHold, .tick 2550⟩ (List.prefix_refl _) fires⟩

/-- While a script is played, a pair fires on a tick after both of its pointers have left the
surface. -/
theorem lost_and_fires :
    let r := (ofConfig (.forScreen .oppositeCornersHold 1080 1920)).run cornersUnheard
    (Script.startingAt 0).run cornersScript = .ok ⟨100, Moment.stream cornersUnheard, []⟩ ∧
      r.Fires ⟨.phone .oppositeCornersHold, .tick 2550⟩ ∧ r.tracked = [0, 1] ∧
      r.onSurface = [] := by
  decide +kernel

end Recognizer
end ExitGesture
