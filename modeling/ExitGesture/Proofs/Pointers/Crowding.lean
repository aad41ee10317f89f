import ExitGesture.Proofs.History
import ExitGesture.Proofs.Pointers.Basic

/-!
# More pointers than the gesture takes

A landing that is heard gives up an attempt that it crowds.  A landing that exploration owns is
counted and nothing more, and neither a tick nor a move looks at the count again.  So an attempt
that outlasts exploration may be crowded when it fires, and this is the only way.

**Invariant.**  While an attempt is under way the recognizer is crowded only if a pointer landed
unheard in the middle of it.
-/

namespace ExitGesture

/-- A pointer lands while exploration owns the input. -/
def Moment.LandsUnheard (m : Moment) : Prop :=
  m.host.exploring = true ∧ ∃ t, m.request = .touch t ∧ t.kind.isDown = true

namespace Recognizer

variable {r : Recognizer} {m : Moment}

theorem crowded_before_touch (wf : r.WellFormed) (h : Host) (t : Touch)
    (begun : (r.touch h t).state.stage ≠ .idle) (crowded : (r.touch h t).state.Crowded) :
    r.stage ≠ .idle ∧ (r.Crowded ∨ Moment.LandsUnheard ⟨h, .touch t⟩) := by
  cases lands : t.kind.isDown with
  | true =>
      cases exploring : h.exploring with
      | false => exact absurd crowded (few_of_landed wf exploring lands begun)
      | true =>
          rw [touch_exploring exploring] at begun
          exact ⟨begun, Or.inr ⟨exploring, t, rfl, lands⟩⟩
  | false =>
      -- nothing else counts a pointer more, heard or not
      refine ⟨begun_of_not_landed lands begun, Or.inl ?_⟩
      have fewer : (pointersAfter r.onSurface t).length ≤ r.onSurface.length :=
        length_pointersAfter_le lands
      unfold Crowded at crowded ⊢
      rw [config_touch, onSurface_touch] at crowded
      omega

/-- An attempt that is crowded after a moment was crowded before, or a pointer landed unheard. -/
theorem crowded_before (wf : r.WellFormed) (begun : (r.after m).stage ≠ .idle)
    (crowded : (r.after m).Crowded) : r.stage ≠ .idle ∧ (r.Crowded ∨ m.LandsUnheard) := by
  obtain ⟨h, q⟩ := m
  cases q with
  | touch t => exact crowded_before_touch wf h t begun crowded
  | tick now =>
      replace crowded : (r.tick h now).state.Crowded := crowded
      unfold Crowded at crowded
      rw [config_tick, onSurface_tick] at crowded
      exact ⟨begun_of_tick begun, Or.inl crowded⟩
  | reset => exact absurd (stage_abandon _ _) begun
  | reload =>
      replace begun : (r.reload h).state.stage ≠ .idle := begun
      replace crowded : (r.reload h).state.Crowded := crowded
      obtain ⟨_, eq | ⟨idle, c, eq⟩⟩ := reload_cases r h
      · rw [eq] at begun crowded
        exact ⟨begun, Or.inl crowded⟩
      · rw [eq] at begun
        exact absurd (stage_configured idle c) begun

/-- An attempt was crowded by a landing that was not heard, and has been under way and crowded ever
since. -/
def CrowdedUnheard (c : Config) (history : List Moment) : Prop :=
  EverSince
    (fun earlier e => e.LandsUnheard ∧ ¬ ((ofConfig c).run earlier).Crowded)
    (fun part => ((ofConfig c).run part).stage ≠ .idle ∧ ((ofConfig c).run part).Crowded)
    history

theorem crowdedUnheard_of_crowded (c : Config) (history : List Moment)
    (begun : ((ofConfig c).run history).stage ≠ .idle)
    (crowded : ((ofConfig c).run history).Crowded) : CrowdedUnheard c history := by
  -- from the end, the attempt was crowded before the last moment or by it
  induction history using List.reverseRecOn with
  | nil => exact absurd (Tracker.stage_ofGesture c.gesture) begun
  | append_singleton history m told =>
      have wf := (WellFormed.ofConfig c).run history
      have now := And.intro begun crowded
      rw [run_concat] at begun crowded
      obtain ⟨begun_before, crowded_or_unheard⟩ := crowded_before wf begun crowded
      by_cases before : ((ofConfig c).run history).Crowded
      · exact (told begun_before before).concat now
      · exact everSince_of_now ⟨crowded_or_unheard.resolve_left before, before⟩ now

/-- A gesture fires with more pointers on the surface than it takes exactly if, in the middle of its
attempt, one too many landed while exploration owned the input, and they have been too many
since. -/
theorem crowded_iff_of_fires (c : Config) (history : List Moment) (m : Moment)
    (fires : ((ofConfig c).run history).Fires m) :
    let r := (ofConfig c).run history
    r.config.gesture.maxPointers < r.onSurface.length ↔ CrowdedUnheard c history := by
  intro r
  constructor
  · obtain ⟨s, _, complete⟩ := complete_of_fires ((WellFormed.ofConfig c).run history) fires
    exact crowdedUnheard_of_crowded c history (Tracker.begun_of_complete complete).1
  · intro unheard
    exact unheard.now.2

/-- A third pointer lands unheard beside a pair that is held, and the pair fires. -/
theorem crowded_iff_of_fires_corners :
    let host : Host := .phone .oppositeCornersHold
    let exploring : Host := { host with exploring := true }
    let c : Config := .forScreen .oppositeCornersHold 1080 1920
    let history := host.touches
        [⟨.down, 0, ⟨10, 10⟩, 0⟩, ⟨.pointerDown, 1, ⟨1070, 1910⟩, 50⟩] ++
      exploring.touches [⟨.pointerDown, 2, ⟨540, 960⟩, 500⟩]
    let r := (ofConfig c).run history
    r.Fires ⟨host, .tick 2550⟩ ∧
      (r.config.gesture.maxPointers < r.onSurface.length ↔ CrowdedUnheard c history) :=
  ⟨by decide +kernel, crowded_iff_of_fires _ _ ⟨.phone .oppositeCornersHold, .tick 2550⟩
    (by decide +kernel)⟩

/-- A pair fires with three pointers on the surface, although the gesture takes two. -/
theorem crowded_and_fires :
    let host : Host := .phone .oppositeCornersHold
    let exploring : Host := { host with exploring := true }
    let r := (ofConfig (.forScreen .oppositeCornersHold 1080 1920)).run
      (host.touches [⟨.down, 0, ⟨10, 10⟩, 0⟩, ⟨.pointerDown, 1, ⟨1070, 1910⟩, 50⟩] ++
        exploring.touches [⟨.pointerDown, 2, ⟨540, 960⟩, 500⟩])
    r.Fires ⟨host, .tick 2550⟩ ∧ r.config.gesture.maxPointers = 2 ∧ r.onSurface.length = 3 := by
  decide +kernel

end Recognizer
end ExitGesture
