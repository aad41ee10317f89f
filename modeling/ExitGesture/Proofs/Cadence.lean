import ExitGesture.Proofs.Diagram
import ExitGesture.Proofs.Telling
import Mathlib.Data.List.Chain
import Mathlib.Data.List.Infix

/-!
# The cadence of pulses

While a hold runs the host feels a pulse from time to time.  A look at the clock gives one if the
hold is not over and the interval has passed since the last one, or since the hold began.  Clocks
may be read in any order; a reading before either of the two counts as no time.

**Invariant.**  From the moment that makes the hold active on, for as long as it stays active, the
timer holds two times: that moment's, and that of the last pulse, or that moment's again while there
is none (`timer?_run`).  No new stream slips in between, since it would begin with a landing and
leave the attempt pending.

**Results.**
* `paced_run`: what a hold has given.
* `cadence_of_hold`: when pulses are given, what they report, and how many there can be.
-/

namespace ExitGesture

/-! ### Pulses -/

/-- A pulse: when it was given, and how long the hold had lasted by what it reports. -/
structure Pulse where
  time : Time
  held : Nat
  deriving DecidableEq, Repr

/-- What a signal reports if it is a pulse. -/
def Signal.held? : Signal → Option Nat
  | .pulse held => some held
  | .log _ | .triggered => none

/-- When the last of some pulses was given, or a time before them if there is none. -/
def lastTime (before : Time) (pulses : List Pulse) : Time :=
  (pulses.getLast?.map Pulse.time).getD before

@[simp] theorem lastTime_nil (before : Time) : lastTime before [] = before := rfl

@[simp] theorem lastTime_concat (before : Time) (pulses : List Pulse) (p : Pulse) :
    lastTime before (pulses ++ [p]) = p.time := by
  simp [lastTime]

theorem lastTime_append (before : Time) (first later : List Pulse) :
    lastTime before (first ++ later) = lastTime (lastTime before first) later := by
  cases later using List.reverseRecOn with
  | nil => simp
  | append_singleton rest p => rw [← List.append_assoc, lastTime_concat, lastTime_concat]

/-- What some pulses report begins at one interval and rises by at least one each time, and tells
how long the hold has lasted since a time. -/
structure Paced (since : Time) (interval duration : Nat) (pulses : List Pulse) : Prop where
  spaced : (0 :: pulses.map Pulse.held).IsChain fun a b => a + interval ≤ b
  early : ∀ p ∈ pulses, p.held < duration
  measured : ∀ p ∈ pulses, p.time = since + p.held

namespace Paced

variable {since now : Time} {interval duration : Nat} {pulses : List Pulse}

theorem nil : Paced since interval duration [] where
  spaced := List.isChain_singleton 0
  early p mem := by cases mem
  measured p mem := by cases mem

/-- A pulse is added when the interval has passed since the last one. -/
theorem concat (paced : Paced since interval duration pulses) (some_time : 1 ≤ interval)
    (running : now - since < duration) (due : interval ≤ now - lastTime since pulses) :
    Paced since interval duration (pulses ++ [⟨now, now - since⟩]) := by
  -- the last pulse was not before the hold began, so the clock has moved on since then
  have last_held : ∃ held, lastTime since pulses = since + held ∧
      (0 :: pulses.map Pulse.held).getLast? = some held := by
    cases pulses using List.reverseRecOn with
    | nil => exact ⟨0, rfl, rfl⟩
    | append_singleton rest p =>
        refine ⟨p.held, by rw [lastTime_concat, paced.measured p (by simp)], ?_⟩
        rw [List.map_append, ← List.cons_append]
        exact List.getLast?_concat
  obtain ⟨held, last_at, last⟩ := last_held
  rw [last_at] at due
  constructor
  · rw [List.map_append, ← List.cons_append, List.isChain_append]
    refine ⟨paced.spaced, List.isChain_singleton _, ?_⟩
    intro x at_last y at_head
    rw [last, Option.mem_some_iff] at at_last
    obtain rfl : now - since = y := by simpa using at_head
    omega
  · intro p mem
    rcases List.mem_append.1 mem with mem | mem
    · exact paced.early p mem
    · rw [List.mem_singleton.1 mem]
      exact running
  · intro p mem
    rcases List.mem_append.1 mem with mem | mem
    · exact paced.measured p mem
    · have begun : since ≤ now := Nat.le_of_not_lt fun before => by omega
      rw [List.mem_singleton.1 mem]
      exact (Nat.add_sub_of_le begun).symm

/-- A list that rises by an interval each time is long before it reaches a bound. -/
theorem length_mul_le {a : Nat} {helds : List Nat}
    (spaced : (a :: helds).IsChain fun a b => a + interval ≤ b) {bound : Nat}
    (below : ∀ x ∈ a :: helds, x ≤ bound) : a + helds.length * interval ≤ bound := by
  induction helds generalizing a with
  | nil => simpa using below a List.mem_cons_self
  | cons b rest ih =>
      obtain ⟨step, rises⟩ := List.isChain_cons_cons.1 spaced
      have later := ih rises fun x mem => below x (List.mem_cons_of_mem a mem)
      rw [List.length_cons, Nat.succ_mul]
      omega

/-- There are no more pulses than intervals fit into a hold. -/
theorem length_le (paced : Paced since interval duration pulses) (some_time : 1 ≤ interval) :
    pulses.length ≤ (duration - 1) / interval := by
  rw [Nat.le_div_iff_mul_le some_time]
  have below : ∀ x ∈ 0 :: pulses.map Pulse.held, x ≤ duration - 1 := by
    intro x mem
    rcases List.mem_cons.1 mem with rfl | mem
    · exact Nat.zero_le _
    · obtain ⟨p, given, rfl⟩ := List.mem_map.1 mem
      have early := paced.early p given
      omega
  simpa using length_mul_le paced.spaced below

end Paced

/-! ### Looks at the clock -/

namespace HoldTimer

variable {timer : HoldTimer} {c : Config} {now : Time} {held : Nat}

/-- A look at the clock gives a pulse, completes the hold, or leaves the timer as it is. -/
theorem advance_pulse_iff : (timer.advance c now).2 = .pulse held ↔
    now - timer.since < c.hold.millis ∧ c.pulseInterval.millis ≤ now - timer.lastPulse ∧
      held = now - timer.since := by
  by_cases long : c.hold.millis ≤ now - timer.since
  · simp [advance, long]
  · by_cases due : c.pulseInterval.millis ≤ now - timer.lastPulse
    · simp [advance, long, due, eq_comm, Nat.not_le.1 long]
    · simp [advance, long, due]

/-- A look at the clock that does not complete the hold remembers the pulse that it gives. -/
theorem advance_of_lasts (lasts : (timer.advance c now).2.lasts = true) :
    (timer.advance c now).1 = ⟨timer.since, lastTime timer.lastPulse
      (((timer.advance c now).2.tells.filterMap Signal.held?).map fun held => ⟨now, held⟩)⟩ := by
  by_cases long : c.hold.millis ≤ now - timer.since
  · simp [advance, long, Verdict.lasts] at lasts
  · by_cases due : c.pulseInterval.millis ≤ now - timer.lastPulse
    · simp [advance, long, due, Verdict.tells, Signal.held?, lastTime]
    · simp [advance, long, due, Verdict.tells]

end HoldTimer

namespace Recognizer

variable {r : Recognizer} {m e : Moment} {timer : HoldTimer} {held : Nat}

/-- A moment looks at the clock of a hold, and reads a time. -/
def Reads (r : Recognizer) (m : Moment) (t : Time) : Prop :=
  ∃ s, m.stimulus? = some s ∧ r.tracker.Consults (m.host.view r.config) s ∧ s.time = t

/-- The pulses that a moment gives. -/
def pulsesAt (r : Recognizer) (m : Moment) : List Pulse :=
  ((r.serve m).signals.filterMap Signal.held?).map fun held => ⟨m.time?.getD 0, held⟩

/-- The pulses that are given over a history. -/
def pulses (r : Recognizer) : List Moment → List Pulse
  | [] => []
  | m :: rest => r.pulsesAt m ++ (r.after m).pulses rest

theorem pulses_concat (r : Recognizer) (history : List Moment) (m : Moment) :
    r.pulses (history ++ [m]) = r.pulses history ++ (r.run history).pulsesAt m := by
  induction history generalizing r with
  | nil => simp [pulses, run]
  | cons n rest ih =>
      show r.pulsesAt n ++ (r.after n).pulses (rest ++ [m]) = _
      rw [ih, ← List.append_assoc]
      rfl

theorem filterMap_held?_told (signals : List Signal) :
    (told signals).filterMap Signal.held? = signals.filterMap Signal.held? := by
  rw [told, List.filterMap_filter]
  refine List.filterMap_congr fun x _ => ?_
  cases x <;> rfl

/-- What the tracker makes of a stimulus is all that a moment can give. -/
theorem pulsesAt_eq (wf : r.WellFormed) (m : Moment) :
    r.pulsesAt m = m.stimulus?.elim [] fun s =>
      (((r.tracker.react (m.host.view r.config) s).2.tells).filterMap Signal.held?).map
        fun held => ⟨s.time, held⟩ := by
  rw [pulsesAt, ← filterMap_held?_told, told_serve wf]
  cases heard : m.stimulus? with
  | none => rfl
  | some s => simp [Moment.time?_of_heard heard]

theorem react_of_pulse (wf : r.WellFormed)
    (given : Signal.pulse held ∈ (r.serve m).signals) :
    ∃ s, m.stimulus? = some s ∧
      (r.tracker.react (m.host.view r.config) s).2 = .pulse held := by
  have mem : Signal.pulse held ∈ told (r.serve m).signals := (mem_told_iff rfl).2 given
  rw [told_serve wf] at mem
  cases heard : m.stimulus? with
  | none => simp [heard] at mem
  | some s =>
      rw [heard, Option.elim_some] at mem
      refine ⟨s, rfl, ?_⟩
      cases verdict : (r.tracker.react (m.host.view r.config) s).2 with
      | pulse held' => simpa [verdict, Verdict.tells, eq_comm] using mem
      | proceed consumed => simp [verdict, Verdict.tells] at mem
      | restart gap => simp [verdict, Verdict.tells] at mem
      | abandon why => simp [verdict, Verdict.tells] at mem
      | complete => simp [verdict, Verdict.tells] at mem

theorem pulse_of_react (wf : r.WellFormed) {s : Stimulus} (heard : m.stimulus? = some s)
    (pulses : (r.tracker.react (m.host.view r.config) s).2 = .pulse held) :
    Signal.pulse held ∈ (r.serve m).signals := by
  refine (mem_told_iff rfl).1 ?_
  rw [told_serve wf, heard, Option.elim_some, pulses]
  exact List.mem_singleton_self _

/-- A moment gives one pulse, at the time that it reads, or none. -/
theorem pulsesAt_cases (wf : r.WellFormed) (m : Moment) :
    r.pulsesAt m = [] ∨ ∃ t held, m.time? = some t ∧ r.pulsesAt m = [⟨t, held⟩] ∧
      Signal.pulse held ∈ (r.serve m).signals := by
  rw [pulsesAt_eq wf]
  cases heard : m.stimulus? with
  | none => exact Or.inl rfl
  | some s =>
      rw [Option.elim_some]
      cases verdict : (r.tracker.react (m.host.view r.config) s).2 with
      | pulse held =>
          exact Or.inr ⟨s.time, held, Moment.time?_of_heard heard, rfl,
            pulse_of_react wf heard verdict⟩
      | proceed consumed => exact Or.inl rfl
      | restart gap => exact Or.inl rfl
      | abandon why => exact Or.inl rfl
      | complete => exact Or.inl rfl

/-- A moment gives a pulse exactly if it is a due look at the clock. -/
theorem pulse_mem_iff (wf : r.WellFormed) (runs : r.tracker.timer? = some timer) :
    Signal.pulse held ∈ (r.serve m).signals ↔
      ∃ t, r.Reads m t ∧ t - timer.since < r.config.hold.millis ∧
        r.config.pulseInterval.millis ≤ t - timer.lastPulse ∧ held = t - timer.since := by
  constructor
  · intro given
    obtain ⟨s, heard, pulses⟩ := react_of_pulse wf given
    obtain ⟨timer', runs', looks, advances⟩ := Tracker.consults_of_pulse pulses
    obtain rfl : timer' = timer := by simpa [runs] using runs'.symm
    exact ⟨s.time, ⟨s, heard, looks, rfl⟩, HoldTimer.advance_pulse_iff.1 advances⟩
  · rintro ⟨_, ⟨s, heard, looks, rfl⟩, due⟩
    refine pulse_of_react wf heard ?_
    rw [(Tracker.react_of_consults runs looks).2]
    exact HoldTimer.advance_pulse_iff.2 due

/-- A pulse is given in the middle of a hold. -/
theorem active_of_pulse (wf : r.WellFormed) (given : Signal.pulse held ∈ (r.serve m).signals) :
    r.stage = .active ∧ (r.after m).stage = .active ∧ ¬ r.Fires m := by
  obtain ⟨s, heard, pulses⟩ := react_of_pulse wf given
  obtain ⟨timer, runs, looks, _⟩ := Tracker.consults_of_pulse pulses
  have active : r.stage = .active := Tracker.active_of_timer? runs
  have opened : r.latched = false := wf.opened (by simp [active])
  have none_lands : s.LandsNone := by
    cases s with
    | tick now => trivial
    | motion k c =>
        refine Stimulus.landsNone_motion_iff.2 ?_
        rintro rfl
        exact Tracker.not_consults_land c looks
  have pursues : r.Pursues r.config r.tracker := ⟨wf, rfl, opened, rfl⟩
  obtain ⟨fires, goes_on, _⟩ :=
    pursues.perceive heard (Moment.joins_of_landsNone heard none_lands r)
  rw [pulses] at fires goes_on
  refine ⟨active, ?_, fun fired => Verdict.noConfusion (fires.1 fired)⟩
  rw [stage, (goes_on rfl).tracker]
  exact Tracker.active_of_timer? (Tracker.react_of_consults runs looks).1

/-- What the timer holds after a moment that does not end the hold. -/
theorem timer?_after (wf : r.WellFormed) (runs : r.tracker.timer? = some timer)
    (lasts : (r.after m).stage = .active) :
    (r.after m).config = r.config ∧ (r.after m).tracker.timer? =
      some ⟨timer.since, lastTime timer.lastPulse (r.pulsesAt m)⟩ := by
  rw [pulsesAt_eq wf]
  cases effect_after wf m with
  | ended idle => simp [idle] at lasts
  | unheard silent _ config tracker =>
      rw [config, tracker, silent]
      exact ⟨rfl, runs⟩
  | @heard τ s readied perceived going config tracker =>
      have still : τ = r.tracker := by
        -- a new stream would have begun with a landing, and be pending
        refine readied.resolve_right fun idle => ?_
        have active : (τ.react (m.host.view r.config) s).1.stage = .active := by
          rw [← tracker]
          exact lasts
        have pending := (Tracker.landed_of_begun (v := m.host.view r.config) (s := s) idle
          (by simp [active])).2
        simp [active] at pending
      subst still
      rw [config, tracker, perceived, Option.elim_some]
      refine ⟨rfl, ?_⟩
      by_cases looks : r.tracker.Consults (m.host.view r.config) s
      · obtain ⟨runs_on, verdict⟩ := Tracker.react_of_consults runs looks
        rw [verdict] at going
        rw [runs_on, verdict]
        exact congrArg some (timer.advance_of_lasts going)
      · obtain ⟨same, passes⟩ := Tracker.react_of_not_consults runs looks
        rw [same, runs]
        rcases passes with passes | ⟨why, gives_up⟩
        · rw [passes]
          rfl
        · rw [gives_up]
          rfl

/-- The moment that makes a hold active starts its timer. -/
theorem timer?_of_activated (wf : r.WellFormed) (inactive : r.stage ≠ .active)
    (active : (r.after e).stage = .active) :
    ∃ t, e.time? = some t ∧ (r.after e).tracker.timer? = some (.start t) := by
  cases effect_after wf e with
  | ended idle => simp [idle] at active
  | unheard _ _ _ tracker =>
      refine absurd ?_ inactive
      rw [← active, stage, stage, tracker]
  | @heard τ s readied perceived _ _ tracker =>
      have inactive' : τ.stage ≠ .active := by
        rcases readied with rfl | idle
        · exact inactive
        · simp [idle]
      refine ⟨s.time, Moment.time?_of_heard perceived, ?_⟩
      rw [stage, tracker] at active
      rw [tracker]
      exact Tracker.timer?_of_activated inactive' active

/-! ### A whole hold -/

section Hold

variable {start : Recognizer} {since : Time} {inside : List Moment}

/-- What the timer holds throughout a hold. -/
theorem timer?_run (wf : start.WellFormed) (starts : start.tracker.timer? = some (.start since))
    (holds : ∀ part, part <+: inside → (start.run part).stage = .active) :
    (start.run inside).config = start.config ∧
      (start.run inside).tracker.timer? = some ⟨since, lastTime since (start.pulses inside)⟩ := by
  induction inside using List.reverseRecOn with
  | nil => exact ⟨rfl, starts⟩
  | append_singleton before m ih =>
      obtain ⟨config, runs⟩ := ih fun part within =>
        holds part (within.trans (List.prefix_append _ _))
      have lasts : ((start.run before).after m).stage = .active := by
        rw [← run_concat]
        exact holds _ (List.prefix_refl _)
      obtain ⟨config', runs'⟩ := timer?_after (wf.run before) runs lasts
      rw [run_concat, pulses_concat, lastTime_append]
      exact ⟨config'.trans config, runs'⟩

/-- What a hold has given. -/
theorem paced_run (wf : start.WellFormed) (starts : start.tracker.timer? = some (.start since))
    (some_time : 1 ≤ start.config.pulseInterval.millis)
    (holds : ∀ part, part <+: inside → (start.run part).stage = .active) :
    Paced since start.config.pulseInterval.millis start.config.hold.millis
      (start.pulses inside) := by
  induction inside using List.reverseRecOn with
  | nil => exact .nil
  | append_singleton before m ih =>
      have holds' : ∀ part, part <+: before → (start.run part).stage = .active := fun part within =>
        holds part (within.trans (List.prefix_append _ _))
      have paced := ih holds'
      have wf' : (start.run before).WellFormed := wf.run before
      obtain ⟨config, runs⟩ := timer?_run wf starts holds'
      rw [pulses_concat]
      rcases pulsesAt_cases wf' m with none_given | ⟨t, held, told, one_given, given⟩
      · rw [none_given, List.append_nil]
        exact paced
      · obtain ⟨_, ⟨s, heard, _, rfl⟩, running, due, rfl⟩ := (pulse_mem_iff wf' runs).1 given
        obtain rfl : s.time = t := by
          simpa [Moment.time?_of_heard heard] using told
        rw [config] at running due
        rw [one_given]
        exact paced.concat some_time running due

end Hold

/-- The pulses of a hold that began at a time, while it stays active over some moments. -/
structure Cadence (start : Recognizer) (since : Time) (inside : List Moment) : Prop where
  /-- A pulse is given by exactly those looks at the clock that find the hold not over and the
  interval passed since the last pulse, and it reports how long the hold has lasted. -/
  given_iff : ∀ part, part <+: inside → ∀ m held,
    (Signal.pulse held ∈ ((start.run part).serve m).signals ↔
      ∃ t, (start.run part).Reads m t ∧ t - since < start.config.hold.millis ∧
        start.config.pulseInterval.millis ≤ t - lastTime since (start.pulses part) ∧
        held = t - since)
  /-- What they report rises by an interval each time, and stays below the duration of the hold. -/
  paced : Paced since start.config.pulseInterval.millis start.config.hold.millis
    (start.pulses inside)
  /-- There are no more of them than intervals fit into the hold. -/
  few : (start.pulses inside).length ≤
    (start.config.hold.millis - 1) / start.config.pulseInterval.millis

/-- Pulses are given in the middle of a hold only, by no moment that fires.  Between the moment that
makes a hold active and the one that ends it they keep to their interval. -/
theorem cadence_of_hold (c : Config) (history : List Moment) :
    let r := (ofConfig c).run history
    (∀ m held, Signal.pulse held ∈ (r.serve m).signals →
      r.stage = .active ∧ (r.after m).stage = .active ∧ ¬ r.Fires m) ∧
    ∀ e inside, r.stage ≠ .active →
      (∀ part, part <+: inside → ((r.after e).run part).stage = .active) →
      1 ≤ (r.after e).config.pulseInterval.millis →
      ∃ since, e.time? = some since ∧ (r.after e).Cadence since inside := by
  intro r
  have wf : r.WellFormed := (WellFormed.ofConfig c).run history
  refine ⟨fun m held given => active_of_pulse wf given, ?_⟩
  intro e inside inactive holds some_time
  obtain ⟨since, at_start, starts⟩ :=
    timer?_of_activated wf inactive (holds [] (List.nil_prefix))
  have paced := paced_run (wf.after e) starts some_time holds
  refine ⟨since, at_start, ?_, paced, paced.length_le some_time⟩
  intro part within m held
  obtain ⟨config, runs⟩ :=
    timer?_run (wf.after e) starts fun rest before => holds rest (before.trans within)
  rw [pulse_mem_iff ((wf.after e).run part) runs, config]

/-- A pair is held over a clock that goes back once.  A move of a pointer that is not tracked gives
a pulse as well, and the interval is measured from it. -/
theorem cadence_of_hold_corners :
    let host : Host := .phone .oppositeCornersHold
    let c : Config := .forScreen .oppositeCornersHold 1080 1920
    let first := host.touches [⟨.down, 0, ⟨10, 10⟩, 0⟩]
    let second : Moment := ⟨host, .touch ⟨.pointerDown, 1, ⟨1070, 1910⟩, 50⟩⟩
    let inside : List Moment := [⟨host, .tick 549⟩, ⟨host, .tick 550⟩, ⟨host, .tick 40⟩,
      ⟨host, .touch ⟨.move, 7, ⟨540, 960⟩, 1300⟩⟩, ⟨host, .tick 1799⟩, ⟨host, .tick 1800⟩]
    let start := ((ofConfig c).run first).after second
    start.Cadence 50 inside ∧
      start.pulses inside = [⟨550, 500⟩, ⟨1300, 1250⟩, ⟨1800, 1750⟩] := by
  intro host c first second inside start
  have inactive : ((ofConfig c).run first).stage ≠ .active := by decide +kernel
  have active : ∀ part ∈ inside.inits, (start.run part).stage = .active := by decide +kernel
  obtain ⟨since, at_start, cadence⟩ := (cadence_of_hold c first).2 second inside inactive
    (fun part within => active part ((List.mem_inits part inside).2 within)) (by decide +kernel)
  obtain rfl : 50 = since := Option.some.inj at_start
  exact ⟨cadence, by decide +kernel⟩

end Recognizer
end ExitGesture
