import ExitGesture.Proofs.Retelling.Recognizer

/-!
# What makes no difference

A recognizer measures how long things last and never what time it is; it tells pointers apart and
never looks at their names; and it is judged by the thresholds of its gesture alone.  So a history
may be moved in time, its pointers may be called otherwise, and thresholds of other gestures may be
changed, and nothing that can be seen of the recognizer is different.

**Environment.**  A history gives the host of every moment, so exploration may be switched, the
header may be moved, and what a reload reads may be changed at any time.  In the first two results a
listener is told the same triggers and pulses at the same moments, so one that answers them by
changing the host changes it alike.
-/

namespace ExitGesture

namespace Retelling

theorem filter_tells {ρ : Retelling} (pulses : ρ.pulses = true) (signals : List Signal) :
    signals.filter ρ.tells = signals :=
  List.filter_eq_self.2 fun s _ => by simp [tells, pulses]

/-- Without a delay every signal is told as it was. -/
theorem map_signal {ρ : Retelling} (delay : ρ.delay = 0) (signals : List Signal) :
    signals.map ρ.signal = signals := by
  refine (List.map_congr_left fun s _ => ?_).trans (List.map_id signals)
  cases s with
  | log entry => cases entry <;> simp [signal, delay]
  | pulse held => rfl
  | triggered => rfl

theorem map_moment_withoutPulses (history : List Moment) :
    history.map withoutPulses.moment = history := by
  refine (List.map_congr_left fun m _ => ?_).trans (List.map_id history)
  obtain ⟨h, q⟩ := m
  cases q <;> rfl

end Retelling

namespace Recognizer

/-- When every touch and every tick happens `k` milliseconds later, the recognizer goes through the
same stages, answers alike and signals alike.  Only the times in its log are later. -/
theorem run_later (c : Config) (k : Time) (history : List Moment) (m : Moment) :
    let ρ := Retelling.later k
    let r := (ofConfig c).run history
    let r' := (ofConfig c).run (history.map ρ.moment)
    (r'.stage = r.stage ∧ r'.awaiting = r.awaiting ∧ r'.tracked = r.tracked ∧
        r'.onSurface = r.onSurface ∧ r'.lastAbandon = r.lastAbandon ∧ r'.triggers = r.triggers) ∧
      (r'.serve (ρ.moment m)).answer = (r.serve m).answer ∧
      (r'.serve (ρ.moment m)).signals = (r.serve m).signals.map ρ.signal := by
  intro ρ r r'
  have told : ρ.Recognizers r r' := (Retelling.Recognizers.ofConfig (.refl ρ c)).run history
  have served := told.serve m
  have signals := served.signals
  rw [Retelling.filter_tells rfl, Retelling.filter_tells rfl] at signals
  have tracked : r'.tracked = r.tracked := told.tracked.trans (List.map_id _)
  have onSurface : r'.onSurface = r.onSurface := told.onSurface.trans (List.map_id _)
  exact ⟨⟨told.stage, told.awaiting, tracked, onSurface, told.lastAbandon, told.triggers⟩,
    served.answer, signals⟩

/-- When every pointer is called otherwise, and no two of them alike, the recognizer goes through
the same stages, answers alike and signals alike, and it lists its pointers in the same order by
their other names. -/
theorem run_renamed (f : PointerId → PointerId) (injective : Function.Injective f) (c : Config)
    (history : List Moment) (m : Moment) :
    let ρ := Retelling.renamed f injective
    let r := (ofConfig c).run history
    let r' := (ofConfig c).run (history.map ρ.moment)
    (r'.stage = r.stage ∧ r'.awaiting = r.awaiting ∧ r'.tracked = r.tracked.map f ∧
        r'.onSurface = r.onSurface.map f ∧ r'.lastAbandon = r.lastAbandon ∧
        r'.triggers = r.triggers) ∧
      (r'.serve (ρ.moment m)).answer = (r.serve m).answer ∧
      (r'.serve (ρ.moment m)).signals = (r.serve m).signals := by
  intro ρ r r'
  have told : ρ.Recognizers r r' := (Retelling.Recognizers.ofConfig (.refl ρ c)).run history
  have served := told.serve m
  have signals := served.signals
  rw [Retelling.filter_tells rfl, Retelling.filter_tells rfl, Retelling.map_signal rfl] at signals
  exact ⟨⟨told.stage, told.awaiting, told.tracked, told.onSurface, told.lastAbandon,
    told.triggers⟩, served.answer, signals⟩

/-- A pair whose pointers have negative names fires like the pair of 0 and 1. -/
theorem run_renamed_corners :
    let f : PointerId → PointerId := fun p => -1 - p
    let c : Config := .forScreen .oppositeCornersHold 1080 1920
    let host : Host := .phone .oppositeCornersHold
    let history := host.touches
      [⟨.down, 0, ⟨10, 10⟩, 0⟩, ⟨.pointerDown, 1, ⟨1070, 1910⟩, 50⟩]
    let history' := host.touches
      [⟨.down, -1, ⟨10, 10⟩, 0⟩, ⟨.pointerDown, -2, ⟨1070, 1910⟩, 50⟩]
    let r := (ofConfig c).run history
    let r' := (ofConfig c).run history'
    Function.Injective f ∧ r.Fires ⟨host, .tick 2550⟩ ∧
      (r'.stage = r.stage ∧ r'.awaiting = r.awaiting ∧ r'.tracked = r.tracked.map f ∧
        r'.onSurface = r.onSurface.map f ∧ r'.lastAbandon = r.lastAbandon ∧
        r'.triggers = r.triggers) ∧
      (r'.serve ⟨host, .tick 2550⟩).answer = (r.serve ⟨host, .tick 2550⟩).answer ∧
      (r'.serve ⟨host, .tick 2550⟩).signals = (r.serve ⟨host, .tick 2550⟩).signals := by
  intro f c host history history' r r'
  have injective : Function.Injective f := by
    rintro (p : Int) (q : Int) same
    have same : -1 - p = -1 - q := same
    show @Eq Int p q
    omega
  have alike := run_renamed f injective c history ⟨host, .tick 2550⟩
  exact ⟨injective, by decide +kernel, alike⟩

/-- Under a configuration that agrees on what the gesture is judged by, the recognizer goes through
the same stages, answers alike and, pulses apart, signals alike. -/
theorem run_of_agrees {c c' : Config} (agrees : c.Agrees c') (history : List Moment) (m : Moment) :
    let r := (ofConfig c).run history
    let r' := (ofConfig c').run history
    (r'.stage = r.stage ∧ r'.awaiting = r.awaiting ∧ r'.tracked = r.tracked ∧
        r'.onSurface = r.onSurface ∧ r'.lastAbandon = r.lastAbandon ∧ r'.triggers = r.triggers) ∧
      (r'.serve m).answer = (r.serve m).answer ∧
      (r'.serve m).signals.filter (fun s => !s.isPulse) =
        (r.serve m).signals.filter (fun s => !s.isPulse) := by
  intro r r'
  have configs : Retelling.withoutPulses.Configs c c' := ⟨agrees, fun told => nomatch told⟩
  have told : Retelling.withoutPulses.Recognizers r r' := by
    have run := (Retelling.Recognizers.ofConfig configs).run history
    rwa [Retelling.map_moment_withoutPulses] at run
  have moment : Retelling.withoutPulses.moment m = m :=
    List.singleton_inj.1 (Retelling.map_moment_withoutPulses [m])
  have served := told.serve m
  rw [moment] at served
  have signals := served.signals
  rw [Retelling.map_signal rfl] at signals
  have tracked : r'.tracked = r.tracked := told.tracked.trans (List.map_id _)
  have onSurface : r'.onSurface = r.onSurface := told.onSurface.trans (List.map_id _)
  exact ⟨⟨told.stage, told.awaiting, tracked, onSurface, told.lastAbandon, told.triggers⟩,
    served.answer, signals⟩

/-- A pair fires alike when pulses come without pause, and when every threshold is changed that a
pair in the corners is not judged by. -/
theorem run_of_agrees_corners :
    let c : Config := .forScreen .oppositeCornersHold 1080 1920
    let c' : Config :=
      { c with
        pulseInterval := .ofMillis 0
        tapTimeout := .ofMillis 1
        longPress := .ofMillis 9000
        edgeTolerance := 0
        requirePin := true }
    let host : Host := .phone .oppositeCornersHold
    let history := host.touches
      [⟨.down, 0, ⟨10, 10⟩, 0⟩, ⟨.pointerDown, 1, ⟨1070, 1910⟩, 50⟩,
        ⟨.move, 1, ⟨1071, 1911⟩, 300⟩]
    let r := (ofConfig c).run history
    let r' := (ofConfig c').run history
    c.Agrees c' ∧ c.validate = .ok () ∧ c'.validate = .ok () ∧ r.Fires ⟨host, .tick 2550⟩ ∧
      (ofConfig c').signals history ≠ (ofConfig c).signals history ∧
      (r'.stage = r.stage ∧ r'.awaiting = r.awaiting ∧ r'.tracked = r.tracked ∧
        r'.onSurface = r.onSurface ∧ r'.lastAbandon = r.lastAbandon ∧ r'.triggers = r.triggers) ∧
      (r'.serve ⟨host, .tick 2550⟩).answer = (r.serve ⟨host, .tick 2550⟩).answer ∧
      (r'.serve ⟨host, .tick 2550⟩).signals.filter (fun s => !s.isPulse) =
        (r.serve ⟨host, .tick 2550⟩).signals.filter (fun s => !s.isPulse) := by
  intro c c' host history r r'
  have agrees : c.Agrees c' := by
    refine ⟨rfl, rfl, rfl, fun g judged => ?_, fun t judged => ?_⟩
    · rcases List.mem_cons.1 judged with rfl | judged
      · rfl
      · rw [List.mem_singleton.1 judged]
        rfl
    · cases t with
      | edgeTolerance => simp [c, Config.forScreen, Gesture.thresholds] at judged
      | cornerSize => rfl
      | driftTolerance => rfl
      | pairDistanceRatio => rfl
  have alike := run_of_agrees agrees history ⟨host, .tick 2550⟩
  exact ⟨agrees, by decide +kernel, by decide +kernel, by decide +kernel, by decide +kernel, alike⟩

end Recognizer
end ExitGesture
