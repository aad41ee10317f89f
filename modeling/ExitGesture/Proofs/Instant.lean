import ExitGesture.Proofs.Cadence
import ExitGesture.Proofs.Snapshot

/-!
# Holds that last no time

Validation asks of every gating duration that it is not zero, and looks at its nanoseconds.  Timers
count whole milliseconds.  A duration below one millisecond is let in by the first and counts for
nothing with the second: a hold of that length is over at the very time at which it begins.
-/

namespace ExitGesture

/-- A duration counts if it lasts a millisecond. -/
theorem Duration.one_le_millis_iff (d : Duration) : 1 ≤ d.millis ↔ perMilli ≤ d.nanoseconds := by
  have some_time : 1 ≤ clockMax := by decide
  have whole : 1 ≤ d.nanoseconds / perMilli ↔ perMilli ≤ d.nanoseconds :=
    Nat.one_le_div_iff (by decide)
  rw [millis, Nat.le_min, whole, and_iff_left some_time]

namespace Tracker

variable {v : View} {τ : Tracker} {s : Stimulus} {timer : HoldTimer}

/-- A tick looks at the clock of a hold. -/
theorem consults_tick (runs : τ.timer? = some timer) (now : Time) : τ.Consults v (.tick now) := by
  cases τ with
  | pairHold region p =>
      cases p with
      | idle => cases runs
      | awaitingSecond first => cases runs
      | holding first second timer' =>
          exact ⟨trivial, trivial, Stimulus.spares_tick _ _ _, fun _ => Stimulus.spares_tick _ _ _⟩
  | edgeDrag p =>
      cases p with
      | idle => cases runs
      | pressed press last => cases runs
      | dragging pointer => cases runs
      | holding pointer anchor timer' => trivial
  | tripleTap p => cases runs

/-- A hold is completed by a look at the clock that finds its duration over. -/
theorem long_of_complete (runs : τ.timer? = some timer) (complete : (τ.react v s).2 = .complete) :
    v.config.hold.millis ≤ s.time - timer.since := by
  by_cases looks : τ.Consults v s
  · rw [(react_of_consults runs looks).2] at complete
    exact HoldTimer.advance_complete_iff.1 complete
  · rcases (react_of_not_consults runs looks).2 with goes_on | ⟨why, abandoned⟩
    · simp [goes_on] at complete
    · simp [abandoned] at complete

end Tracker

namespace Recognizer

/-- A hold became active at a time, and has been active since. -/
def ActiveSince (c : Config) (since : Time) (history : List Moment) : Prop :=
  EverSince
    (fun earlier e => ((ofConfig c).run earlier).stage ≠ .active ∧ e.time? = some since)
    (fun part => ((ofConfig c).run part).stage = .active) history

section Since

variable {c : Config} {history : List Moment} {since : Time}

/-- The timer of a hold remembers when it became active. -/
theorem timer?_of_activeSince (active : ActiveSince c since history) :
    ∃ timer, ((ofConfig c).run history).tracker.timer? = some timer ∧ timer.since = since := by
  obtain ⟨earlier, e, later, rfl, ⟨inactive, told⟩, holds⟩ := active
  have wf : ((ofConfig c).run earlier).WellFormed := (WellFormed.ofConfig c).run earlier
  have onward (part : List Moment) : (ofConfig c).run (earlier ++ e :: part) =
      (((ofConfig c).run earlier).after e).run part :=
    List.foldl_append
  have active (part : List Moment) (within : part <+: later) :
      ((((ofConfig c).run earlier).after e).run part).stage = .active := by
    rw [← onward]
    exact holds part within
  obtain ⟨t, at_start, starts⟩ := timer?_of_activated wf inactive (active [] List.nil_prefix)
  obtain rfl : since = t := by simpa [told] using at_start
  rw [onward]
  exact ⟨_, (timer?_run (wf.after e) starts active).2, rfl⟩

/-- What is active has become active at some time. -/
theorem exists_activeSince (active : ((ofConfig c).run history).stage = .active) :
    ∃ since, ActiveSince c since history := by
  induction history using List.reverseRecOn with
  | nil =>
      have idle : ((ofConfig c).run []).stage = .idle := Tracker.stage_ofGesture c.gesture
      simp [idle] at active
  | append_singleton history m ih =>
      by_cases before : ((ofConfig c).run history).stage = .active
      · obtain ⟨since, ever⟩ := ih before
        exact ⟨since, ever.concat active⟩
      · have begun := active
        rw [run_concat] at begun
        obtain ⟨t, told, _⟩ :=
          timer?_of_activated ((WellFormed.ofConfig c).run history) before begun
        exact ⟨t, everSince_of_now ⟨before, told⟩ active⟩

end Since

variable {r : Recognizer} {m : Moment} {timer : HoldTimer}

/-- A hold is completed while it is active, by a moment that tells a time. -/
theorem active_of_fires (wf : r.WellFormed) (holds : r.config.gesture ≠ .tripleTapDebug)
    (fires : r.Fires m) : r.stage = .active ∧ ∃ now, m.time? = some now := by
  obtain ⟨s, heard, complete⟩ := complete_of_fires wf fires
  exact ⟨(Tracker.active_of_complete (wf.gesture ▸ holds) complete).1, s.time,
    Moment.time?_of_heard heard⟩

/-- A tick that is heard completes a hold whose duration is over. -/
theorem fires_of_tick (wf : r.WellFormed) (runs : r.tracker.timer? = some timer) {h : Host}
    (listening : h.exploring = false) {now : Time}
    (long : r.config.hold.millis ≤ now - timer.since) : r.Fires ⟨h, .tick now⟩ := by
  have begun : r.stage ≠ .idle := by simp [stage, Tracker.active_of_timer? runs]
  have complete : (r.tracker.tick (r.view h) now).2 = .complete := by
    have look := (Tracker.react_of_consults (v := r.view h) runs (Tracker.consults_tick runs now)).2
    exact look.trans (HoldTimer.advance_complete_iff.2 long)
  rcases tick_cases r h now with ⟨latched | exploring, _⟩ | ⟨_, _, eq⟩
  · simp [wf.opened begun] at latched
  · simp [listening] at exploring
  · show Signal.triggered ∈ (r.tick h now).signals
    rw [eq]
    exact (triggered_mem_advance r _ now false).2 complete

/-- A valid configuration has no duration of zero length, and those of a millisecond or more count
for one at least.  A hold fires while it is active, by a moment that tells a time, and every such
time is later than the one at which it became active exactly if its duration counts: otherwise it
can be over at once. -/
theorem instant_iff {c : Config} (valid : c.validate = .ok ()) (history : List Moment) :
    let r := (ofConfig c).run history
    (∀ g, 0 < (r.config.duration g).nanoseconds ∧
      (1 ≤ (r.config.duration g).millis ↔
        Duration.perMilli ≤ (r.config.duration g).nanoseconds)) ∧
    (r.config.gesture ≠ .tripleTapDebug → ∀ m, r.Fires m →
      (∃ since, ActiveSince c since history) ∧ ∃ now, m.time? = some now) ∧
    ∀ since, ActiveSince c since history →
      ((∀ m now, r.Fires m → m.time? = some now → since < now) ↔
        Duration.perMilli ≤ r.config.hold.nanoseconds) := by
  intro r
  have wf : r.WellFormed := (WellFormed.ofConfig c).run history
  have parts := Config.fault?_eq_none_iff.1
    (Config.validate_eq_ok_iff.1 (validate_run (r := ofConfig c) valid history))
  refine ⟨fun g => ⟨?_, Duration.one_le_millis_iff _⟩, ?_, ?_⟩
  · exact Nat.pos_of_ne_zero (of_decide_eq_false (parts.2.1 g))
  · intro holds m fires
    obtain ⟨active, timed⟩ := active_of_fires wf holds fires
    exact ⟨exists_activeSince active, timed⟩
  · intro since ever
    obtain ⟨timer, runs, rfl⟩ := timer?_of_activeSince ever
    rw [← Duration.one_le_millis_iff]
    constructor
    · intro later
      by_contra nothing
      let host : Host := ⟨.ok c, false, ⟨0, 0, 0, 0⟩⟩
      have elapsed : r.config.hold.millis ≤ timer.since - timer.since := by omega
      have fires : r.Fires ⟨host, .tick timer.since⟩ := fires_of_tick wf runs rfl elapsed
      exact Nat.lt_irrefl _ (later _ _ fires rfl)
    · intro counts m now fires told
      obtain ⟨s, heard, complete⟩ := complete_of_fires wf fires
      have long : r.config.hold.millis ≤ s.time - timer.since :=
        Tracker.long_of_complete runs complete
      obtain rfl : s.time = now := by simpa [Moment.time?_of_heard heard] using told
      exact Nat.sub_pos_iff_lt.1 (Nat.lt_of_lt_of_le counts long)

/-- A pair is held for two and a half seconds, and fires no sooner. -/
theorem instant_iff_corners :
    let host : Host := .phone .oppositeCornersHold
    let c : Config := .forScreen .oppositeCornersHold 1080 1920
    let first := host.touches [⟨.down, 0, ⟨10, 10⟩, 0⟩]
    let second : Moment := ⟨host, .touch ⟨.pointerDown, 1, ⟨1070, 1910⟩, 50⟩⟩
    let history := first ++ [second]
    let r := (ofConfig c).run history
    c.validate = .ok () ∧ r.Fires ⟨host, .tick 2550⟩ ∧ ActiveSince c 50 history ∧
      (∀ m now, r.Fires m → m.time? = some now → 50 < now) ∧
      (r.config.duration .hold).millis = 2500 := by
  intro host c first second history r
  have valid : c.validate = .ok () := by decide +kernel
  have active : ActiveSince c 50 history :=
    everSince_of_now ⟨by decide +kernel, rfl⟩ (by decide +kernel)
  have later := (instant_iff valid history).2.2 50 active
  exact ⟨valid, by decide +kernel, active, later.2 (by decide +kernel), by decide +kernel⟩

/-- A hold of half a millisecond is valid and counts for nothing, and a pair is complete at the time
at which it becomes active. -/
theorem fires_at_once :
    let host : Host := .phone .oppositeCornersHold
    let c : Config :=
      { Config.forScreen .oppositeCornersHold 1080 1920 with hold := .ofParts 0 500000 }
    let first := host.touches [⟨.down, 0, ⟨10, 10⟩, 0⟩]
    let second : Moment := ⟨host, .touch ⟨.pointerDown, 1, ⟨1070, 1910⟩, 50⟩⟩
    let history := first ++ [second]
    c.validate = .ok () ∧ ¬ 1 ≤ (c.duration .hold).millis ∧ ActiveSince c 50 history ∧
      ((ofConfig c).run history).Fires ⟨host, .tick 50⟩ := by
  intro host c first second history
  have active : ActiveSince c 50 history :=
    everSince_of_now ⟨by decide +kernel, rfl⟩ (by decide +kernel)
  exact ⟨by decide +kernel, by decide +kernel, active, by decide +kernel⟩

end Recognizer
end ExitGesture
