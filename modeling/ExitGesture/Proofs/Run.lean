import ExitGesture.Proofs.Operation

/-!
# Runs of a recognizer

A recognizer is driven by requests, and each request finds the host as it is at that moment: the
configuration it serves, its header, and whether exploration owns the input.  A history is a list of
such moments.  Nothing ties the host of one moment to the host of the next, so a history covers
every order of header moves, exploration toggles and changes of what a reload would read.
-/

namespace ExitGesture

/-- What can be asked of a recognizer. -/
inductive Request
  | touch (touch : Touch)
  | tick (now : Time)
  | reset
  | reload

/-- A request, and the host as it is then. -/
structure Moment where
  host : Host
  request : Request

/-- A touch is made, and exploration does not own it. -/
def Moment.Hears (m : Moment) (t : Touch) : Prop :=
  m.host.exploring = false ∧ m.request = .touch t

/-- The time that a touch or a tick tells. -/
def Moment.time? (m : Moment) : Option Time :=
  match m.request with
  | .touch t => some t.time
  | .tick now => some now
  | .reset | .reload => none

theorem Moment.time?_eq_some_iff {m : Moment} {time : Time} :
    m.time? = some time ↔
      (∃ t, m.request = .touch t ∧ t.time = time) ∨ m.request = .tick time := by
  obtain ⟨h, q⟩ := m
  cases q <;> simp [time?]

/-- A phone that leaves its touches to the recognizer. -/
def Host.phone (g : Gesture) : Host :=
  ⟨(Provider.phone g).config, false, (Provider.phone g).header⟩

/-- Touches of an unchanging host. -/
def Host.touches (h : Host) (touches : List Touch) : List Moment :=
  touches.map fun t => ⟨h, .touch t⟩

namespace Recognizer

def serve (r : Recognizer) (m : Moment) : Outcome Recognizer Session.Reply :=
  match m.request with
  | .touch t => let o := r.touch m.host t; o.answering (.consumed o.answer)
  | .tick now => let o := r.tick m.host now; o.answering (.fired o.answer)
  | .reset => r.reset.answering .done
  | .reload => let o := r.reload m.host; o.answering (.reloaded o.answer)

def after (r : Recognizer) (m : Moment) : Recognizer := (r.serve m).state

/-- The recognizer after a history. -/
def run (r : Recognizer) (history : List Moment) : Recognizer := history.foldl after r

/-- All that is signalled over a history. -/
def signals (r : Recognizer) : List Moment → List Signal
  | [] => []
  | m :: rest => (r.serve m).signals ++ (r.after m).signals rest

/-- The gesture is completed at a moment. -/
def Fires (r : Recognizer) (m : Moment) : Prop := Signal.triggered ∈ (r.serve m).signals

instance (r : Recognizer) (m : Moment) : Decidable (r.Fires m) :=
  inferInstanceAs (Decidable (_ ∈ _))

theorem run_concat (r : Recognizer) (history : List Moment) (m : Moment) :
    r.run (history ++ [m]) = (r.run history).after m := by
  simp [run]

/-- A history fires at its first moment or later. -/
theorem triggered_mem_signals_cons {r : Recognizer} {m : Moment} {rest : List Moment} :
    Signal.triggered ∈ r.signals (m :: rest) ↔
      r.Fires m ∨ Signal.triggered ∈ (r.after m).signals rest :=
  List.mem_append

/-- What a history signals is signalled by one of its moments. -/
theorem exists_of_mem_signals {r : Recognizer} {history : List Moment} {x : Signal}
    (mem : x ∈ r.signals history) :
    ∃ before m later, history = before ++ m :: later ∧ x ∈ ((r.run before).serve m).signals := by
  induction history generalizing r with
  | nil => cases mem
  | cons m rest ih =>
      rcases List.mem_append.1 mem with now | mem
      · exact ⟨[], m, rest, rfl, now⟩
      · obtain ⟨before, n, later, rfl, signalled⟩ := ih mem
        exact ⟨m :: before, n, later, rfl, signalled⟩

/-- Only touches and ticks fire. -/
theorem touch_or_tick_of_fires {r : Recognizer} {m : Moment} (fires : r.Fires m) :
    (∃ t, m.request = .touch t ∧ Signal.triggered ∈ (r.touch m.host t).signals) ∨
      ∃ now, m.request = .tick now ∧ Signal.triggered ∈ (r.tick m.host now).signals := by
  obtain ⟨h, q⟩ := m
  cases q with
  | touch t => exact Or.inl ⟨t, rfl, fires⟩
  | tick now => exact Or.inr ⟨now, rfl, fires⟩
  | reset => exact absurd fires (triggered_not_mem_abandon _ _)
  | reload =>
      obtain ⟨⟨entry, logged⟩, _⟩ := reload_cases r h
      simp [Fires, serve, Outcome.answering, logged] at fires

theorem stage_configured {r : Recognizer} (idle : r.stage = .idle) (c : Config) :
    (r.configured c).stage = .idle := by
  by_cases same : c.gesture = r.config.gesture
  · simpa [configured, stage, same] using idle
  · simpa [configured, stage, same] using Tracker.stage_ofGesture c.gesture

/-! ### Well-formed recognizers -/

/-- What every recognizer in a run keeps. -/
structure WellFormed (r : Recognizer) : Prop where
  surface : r.surface = .ofConfig r.config
  gesture : r.tracker.gesture = r.config.gesture
  resting : r.latched = true → r.stage = .idle

namespace WellFormed

variable {r : Recognizer}

theorem ofConfig (c : Config) : (Recognizer.ofConfig c).WellFormed where
  surface := rfl
  gesture := Tracker.gesture_ofGesture c.gesture
  resting latched := absurd latched Bool.false_ne_true

/-- The latch is open over an attempt. -/
theorem opened (wf : r.WellFormed) (begun : r.stage ≠ .idle) : r.latched = false :=
  Bool.eq_false_iff.2 fun latched => begun (wf.resting latched)

theorem counted (wf : r.WellFormed) (t : Touch) : (r.counted t).WellFormed where
  surface := wf.surface
  gesture := wf.gesture
  resting latched := absurd latched Bool.false_ne_true

theorem abandon (wf : r.WellFormed) (reason : AbandonReason) :
    (r.abandon reason).state.WellFormed where
  surface := by simpa using wf.surface
  gesture := by simpa [Tracker.gesture_cleared] using wf.gesture
  resting _ := stage_abandon r reason

theorem readied (wf : r.WellFormed) (t : Touch) : (r.readied t).WellFormed := by
  unfold Recognizer.readied
  split
  · exact wf.abandon .streamRestarted
  · exact wf

/-- A tracker's step keeps a recognizer well formed if the latch was open before it. -/
theorem advance (wf : r.WellFormed) (opened : r.latched = false) {step : Tracker × Verdict}
    (same : step.1.gesture = r.tracker.gesture) (now : Time) (ends : Bool) :
    (r.advance step now ends).state.WellFormed := by
  have stepped : ({ r with tracker := step.1 } : Recognizer).WellFormed :=
    { surface := wf.surface
      gesture := same.trans wf.gesture
      resting := fun latched => by simp [opened] at latched }
  rcases step.2.cases_lasts with lasts | complete | ⟨reason, abandoned⟩
  · rw [state_advance_of_lasts r step now ends lasts]
    exact stepped
  · rw [state_advance_of_complete r step now ends complete]
    exact
      { surface := wf.surface
        gesture := (Tracker.gesture_cleared step.1).trans stepped.gesture
        resting := fun _ => Tracker.stage_cleared step.1 }
  · rw [state_advance_of_abandon r step now ends abandoned]
    exact stepped.abandon reason

theorem touch (wf : r.WellFormed) (h : Host) (t : Touch) :
    (r.touch h t).state.WellFormed := by
  have course := touch_course r h t
  generalize r.touch h t = o at course ⊢
  cases course with
  | explored => exact { surface := wf.surface, gesture := wf.gesture, resting := wf.resting }
  | heldBack _ latched =>
      exact
        { surface := wf.surface
          gesture := wf.gesture
          resting := fun _ => wf.resting latched }
  | cancelled => exact (wf.counted t).abandon .cancelled
  | crowded _ _ _ _ _ state =>
      rw [state]
      exact ((wf.counted t).readied t).abandon .extraPointer
  | seen _ _ _ _ stepped _ state =>
      rw [state]
      refine ((wf.counted t).readied t).advance ?_ ?_ t.time (t.kind = .up)
      · rw [latched_readied]
        rfl
      · rw [stepped]
        exact Tracker.gesture_step _ _ _ _

theorem tick (wf : r.WellFormed) (h : Host) (now : Time) : (r.tick h now).state.WellFormed := by
  rcases tick_cases r h now with ⟨_, eq⟩ | ⟨opened, _, eq⟩
  · rw [eq]
    exact wf
  · rw [eq]
    exact wf.advance opened (Tracker.gesture_tick _ _ _) now false

theorem configured (wf : r.WellFormed) (idle : r.stage = .idle) (c : Config) :
    (r.configured c).WellFormed where
  surface := rfl
  gesture := by
    by_cases same : c.gesture = r.config.gesture
    · simpa [Recognizer.configured, same] using wf.gesture
    · simpa [Recognizer.configured, same] using Tracker.gesture_ofGesture c.gesture
  resting _ := stage_configured idle c

theorem reload (wf : r.WellFormed) (h : Host) : (r.reload h).state.WellFormed := by
  obtain ⟨_, eq | ⟨idle, c, eq⟩⟩ := reload_cases r h
  · rw [eq]
    exact wf
  · rw [eq]
    exact wf.configured idle c

theorem reset (wf : r.WellFormed) : r.reset.state.WellFormed := by
  have opened : ({ r with onSurface := [], latched := false } : Recognizer).WellFormed :=
    { surface := wf.surface
      gesture := wf.gesture
      resting := fun latched => absurd latched Bool.false_ne_true }
  exact opened.abandon .requested

theorem after (wf : r.WellFormed) (m : Moment) : (r.after m).WellFormed := by
  obtain ⟨h, q⟩ := m
  cases q with
  | touch t => exact wf.touch h t
  | tick now => exact wf.tick h now
  | reset => exact wf.reset
  | reload => exact wf.reload h

theorem run (wf : r.WellFormed) (history : List Moment) : (r.run history).WellFormed := by
  induction history generalizing r with
  | nil => exact wf
  | cons m rest ih => exact ih (wf.after m)

end WellFormed
end Recognizer

/-! ### Sessions -/

namespace Session

/-- What an operation asks of the recognizer; a change of the surroundings asks nothing. -/
def Op.request? : Op → Option Request
  | .touch t => some (.touch t)
  | .tick now => some (.tick now)
  | .reset => some .reset
  | .reload => some .reload
  | .explore _ | .provide _ => none

theorem perform_of_request {s : Session} {op : Op} {q : Request} (asks : op.request? = some q) :
    s.perform op = s.deliver (s.recognizer.serve ⟨s.host, q⟩) := by
  cases op <;> cases asks <;> rfl

theorem recognizer_perform (s : Session) (op : Op) :
    (s.perform op).state.recognizer =
      (op.request?.map fun q => s.recognizer.after ⟨s.host, q⟩).getD s.recognizer := by
  cases op <;> rfl

theorem wellFormed_perform {s : Session} (wf : s.recognizer.WellFormed) (op : Op) :
    (s.perform op).state.recognizer.WellFormed := by
  rw [recognizer_perform]
  cases op.request? with
  | none => exact wf
  | some q => exact wf.after ⟨s.host, q⟩

theorem wellFormed_run {s : Session} (wf : s.recognizer.WellFormed) (ops : List Op) :
    (s.run ops).state.recognizer.WellFormed := by
  induction ops generalizing s with
  | nil => exact wf
  | cons op rest ih => exact ih (wellFormed_perform wf op)

/-- A session starts with a new recognizer for the configuration that it loads, and says so. -/
theorem cases_of_start {provider : Provider} {exploring : Bool} {listener : Listener}
    {o : Outcome Session Unit} (started : start provider exploring listener = .ok o) :
    ∃ c, Host.load ⟨provider.config, exploring, provider.header⟩ = .ok c ∧
      o = ⟨(), ⟨.ofConfig c, provider, exploring, listener⟩, [.log (.ready c.gesture)]⟩ := by
  unfold start Recognizer.start at started
  cases loaded : Host.load ⟨provider.config, exploring, provider.header⟩ with
  | error e => simp [loaded, Except.map] at started
  | ok c =>
      simp only [loaded, Except.map, Except.ok.injEq] at started
      exact ⟨c, rfl, started.symm⟩

theorem state_of_start {provider : Provider} {exploring : Bool} {listener : Listener}
    {o : Outcome Session Unit} (started : start provider exploring listener = .ok o) :
    ∃ c, Host.load ⟨provider.config, exploring, provider.header⟩ = .ok c ∧
      o.state = ⟨.ofConfig c, provider, exploring, listener⟩ := by
  obtain ⟨c, loaded, rfl⟩ := cases_of_start started
  exact ⟨c, loaded, rfl⟩

end Session
end ExitGesture
