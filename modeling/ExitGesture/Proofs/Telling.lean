import ExitGesture.Proofs.History
import ExitGesture.Proofs.Tracker.Timer

/-!
# What the listener is told

Of all that is signalled the listener is told the pulses and the triggers; the rest is the log.
What it is told at a moment depends on nothing but the tracker: a latch is only closed over a
tracker that has nothing to tell, and a new stream, a cancel and a pointer too many tell nothing
themselves.
-/

namespace ExitGesture

def Signal.isLog : Signal → Bool
  | .log _ => true
  | .pulse _ | .triggered => false

/-- What of some signals the listener is told. -/
def told (signals : List Signal) : List Signal := signals.filter fun x => !x.isLog

@[simp] theorem told_nil : told [] = [] := rfl

@[simp] theorem told_append (first later : List Signal) :
    told (first ++ later) = told first ++ told later :=
  List.filter_append ..

@[simp] theorem told_log_cons (entry : LogEntry) (later : List Signal) :
    told (.log entry :: later) = told later := rfl

@[simp] theorem told_pulse_cons (held : Nat) (later : List Signal) :
    told (.pulse held :: later) = .pulse held :: told later := rfl

@[simp] theorem told_triggered_cons (later : List Signal) :
    told (.triggered :: later) = .triggered :: told later := rfl

theorem mem_told_iff {x : Signal} {signals : List Signal} (telling : x.isLog = false) :
    x ∈ told signals ↔ x ∈ signals := by
  simp [told, telling]

/-- What a verdict tells the listener. -/
def Verdict.tells : Verdict → List Signal
  | .pulse held => [.pulse held]
  | .complete => [.triggered]
  | .proceed _ | .restart _ | .abandon _ => []

/-! ### Trackers -/

namespace Tracker

variable {v : View} {τ : Tracker}

/-- An idle tracker makes nothing of any stimulus. -/
theorem proceed_of_idle (idle : τ.stage = .idle) (s : Stimulus) :
    (τ.react v s).2 = .proceed false := by
  rw [stage_eq_idle_iff.1 idle]
  cases s with
  | tick now => rcases τ with ⟨⟨⟩, p⟩ | p | p <;> rfl
  | motion k c => cases k <;> rcases τ with ⟨⟨⟩, p⟩ | p | p <;> rfl

/-- A pulse comes from a look at the clock. -/
theorem consults_of_pulse {s : Stimulus} {held : Nat} (pulses : (τ.react v s).2 = .pulse held) :
    ∃ timer, τ.timer? = some timer ∧ τ.Consults v s ∧
      (timer.advance v.config s.time).2 = .pulse held := by
  obtain ⟨timer, runs⟩ := Option.isSome_iff_exists.1 (isSome_timer?_iff.2 (active_of_pulse pulses))
  by_cases looks : τ.Consults v s
  · exact ⟨timer, runs, looks, (react_of_consults runs looks).2.symm.trans pulses⟩
  · rcases (react_of_not_consults runs looks).2 with proceeds | ⟨why, abandons⟩
    · simp [proceeds] at pulses
    · simp [abandons] at pulses

/-- A landing tells nothing. -/
theorem tells_land (c : Contact) : (τ.react v (.motion .land c)).2.tells = [] := by
  cases landed : (τ.react v (.motion .land c)).2 with
  | proceed consumed => rfl
  | restart gap => rfl
  | abandon why => rfl
  | complete => exact (begun_of_complete landed).2.elim
  | pulse held =>
      obtain ⟨timer, _, looks, _⟩ := consults_of_pulse landed
      exact absurd looks (not_consults_land c)

end Tracker

/-! ### Recognizers -/

namespace Recognizer

variable {r : Recognizer} {m : Moment}

@[simp] theorem told_abandon (r : Recognizer) (reason : AbandonReason) :
    told (r.abandon reason).signals = [] := by
  unfold abandon
  split <;> rfl

@[simp] theorem told_opening (r : Recognizer) (t : Touch) : told (r.opening t) = [] := by
  unfold opening
  split
  · exact told_abandon r .streamRestarted
  · rfl

@[simp] theorem told_stageLog (before after : Stage) (now : Time) :
    told (stageLog before after now) = [] := by
  unfold stageLog
  split <;> rfl

@[simp] theorem told_advance (r : Recognizer) (step : Tracker × Verdict) (now : Time)
    (ends : Bool) : told (r.advance step now ends).signals = step.2.tells := by
  obtain ⟨τ, w⟩ := step
  cases w with
  | proceed consumed => simp [advance, settle, Outcome.silent, Verdict.tells]
  | restart gap => simp [advance, settle, Verdict.tells]
  | pulse held => simp [advance, settle, Verdict.tells]
  | abandon reason => simp [advance, settle, Outcome.answering, Verdict.tells]
  | complete => simp [advance, settle, Verdict.tells]

/-- What a touch tells is what the tracker makes of its motion. -/
theorem told_touch (wf : r.WellFormed) (h : Host) (t : Touch) :
    told (r.touch h t).signals = (Moment.stimulus? ⟨h, .touch t⟩).elim []
      fun s => (r.tracker.react (h.view r.config) s).2.tells := by
  have course := touch_course r h t
  generalize r.touch h t = o at course ⊢
  cases course with
  | explored exploring => simp [Moment.stimulus?, exploring, Outcome.silent]
  | heldBack _ latched =>
      -- behind a closed latch the tracker has nothing to tell either
      cases Moment.stimulus? ⟨h, .touch t⟩ with
      | none => rfl
      | some s =>
          rw [Option.elim_some, Tracker.proceed_of_idle (wf.resting latched)]
          rfl
  | cancelled _ _ cancels =>
      simp [Moment.stimulus?, cancels, Touch.Kind.motion?, Outcome.answering]
  | crowded listening _ lands _ _ _ signals =>
      simp [Moment.stimulus?, listening, lands, signals, Tracker.tells_land]
  | @seen _ k step listening _ motion _ stepped _ _ signals =>
      have perceived : Moment.stimulus? ⟨h, .touch t⟩ = some (.motion k t.contact) := by
        simp [Moment.stimulus?, listening, motion]
      have advanced : told o.signals =
          (((r.counted t).readied t).tracker.react (h.view r.config)
            (.motion k t.contact)).2.tells := by
        rw [signals, told_append, told_opening, List.nil_append, told_advance, stepped, wf.view h]
        rfl
      rw [perceived, Option.elim_some, advanced]
      by_cases down : t.kind = .down
      · obtain rfl : k = .land := by simpa [down, Touch.Kind.motion?] using motion.symm
        exact (Tracker.tells_land t.contact).trans (Tracker.tells_land t.contact).symm
      · rw [readied_of_not_down down]
        rfl

/-- What a moment tells is what the tracker makes of its stimulus. -/
theorem told_serve (wf : r.WellFormed) (m : Moment) :
    told (r.serve m).signals = m.stimulus?.elim []
      fun s => (r.tracker.react (m.host.view r.config) s).2.tells := by
  obtain ⟨h, q⟩ := m
  cases q with
  | touch t => exact told_touch wf h t
  | tick now =>
      show told (r.tick h now).signals = _
      rcases tick_cases r h now with ⟨latched | exploring, eq⟩ | ⟨_, listening, eq⟩
      · rw [eq]
        cases Moment.stimulus? ⟨h, .tick now⟩ with
        | none => rfl
        | some s =>
            rw [Option.elim_some, Tracker.proceed_of_idle (wf.resting latched)]
            rfl
      · simp [eq, Moment.stimulus?, exploring, Outcome.silent]
      · simp [eq, Moment.stimulus?, listening, Outcome.answering, wf.view h, Tracker.react]
  | reset =>
      show told (Recognizer.reset r).signals = _
      simp [Recognizer.reset, Moment.stimulus?]
  | reload =>
      obtain ⟨⟨entry, logged⟩, _⟩ := reload_cases r h
      show told (r.reload h).signals = _
      simp [logged, Moment.stimulus?]

end Recognizer
end ExitGesture
