import ExitGesture.Proofs.Retelling.Tracker

/-!
# Retelling a history

A recognizer that is told the same history in another way gives the same answers, goes through the
same stages, and tells the same in its turn.
-/

namespace ExitGesture
namespace Retelling

variable (ρ : Retelling)

/-- Two recognizers that have been told the same in two ways. -/
structure Recognizers (r r' : Recognizer) : Prop where
  configs : ρ.Configs r.config r'.config
  surface : r.surface = .ofConfig r.config
  surface' : r'.surface = .ofConfig r'.config
  gesture : r.tracker.gesture = r.config.gesture
  trackers : ρ.Trackers r.tracker r'.tracker
  onSurface : r'.onSurface = r.onSurface.map ρ.name
  latched : r'.latched = r.latched
  lastAbandon : r'.lastAbandon = r.lastAbandon
  triggers : r'.triggers = r.triggers

/-- Two outcomes that are told alike. -/
structure Outcomes {α : Type} (o o' : Outcome Recognizer α) : Prop where
  answer : o'.answer = o.answer
  state : ρ.Recognizers o.state o'.state
  signals : o'.signals.filter ρ.tells = (o.signals.filter ρ.tells).map ρ.signal

variable {ρ} {α β : Type}

namespace Outcomes

variable {o o' : Outcome Recognizer α}

theorem silent {r r' : Recognizer} (told : ρ.Recognizers r r') (a : α) :
    ρ.Outcomes (.silent r a) (.silent r' a) :=
  ⟨rfl, told, rfl⟩

theorem answering (outcomes : ρ.Outcomes o o') (b : β) :
    ρ.Outcomes (o.answering b) (o'.answering b) :=
  ⟨rfl, outcomes.state, outcomes.signals⟩

theorem replying (outcomes : ρ.Outcomes o o') (reply : α → β) :
    ρ.Outcomes (o.answering (reply o.answer)) (o'.answering (reply o'.answer)) := by
  rw [outcomes.answer]
  exact outcomes.answering _

theorem bind (outcomes : ρ.Outcomes o o') {next next' : Recognizer → α → Outcome Recognizer β}
    (nexts : ∀ s s' a, ρ.Recognizers s s' → ρ.Outcomes (next s a) (next' s' a)) :
    ρ.Outcomes (o.bind next) (o'.bind next') := by
  have then_next := nexts o.state o'.state o.answer outcomes.state
  rw [← outcomes.answer] at then_next
  refine ⟨?_, ?_, ?_⟩
  · rw [Outcome.answer_bind, Outcome.answer_bind, then_next.answer, outcomes.answer]
  · rw [Outcome.state_bind, Outcome.state_bind]
    simpa [outcomes.answer] using then_next.state
  · rw [Outcome.signals_bind, Outcome.signals_bind, List.filter_append, List.filter_append,
      List.map_append, outcomes.signals, then_next.signals, outcomes.answer]

end Outcomes

theorem pointersAfter_touch (onSurface : List PointerId) (t : Touch) :
    Recognizer.pointersAfter (onSurface.map ρ.name) (ρ.touch t) =
      (Recognizer.pointersAfter onSurface t).map ρ.name := by
  have kind : (ρ.touch t).kind = t.kind := rfl
  have pointer : (ρ.touch t).pointer = ρ.name t.pointer := rfl
  simp only [Recognizer.pointersAfter, kind, pointer]
  cases t.kind with
  | pointerDown =>
      by_cases mem : t.pointer ∈ onSurface
      · simp [mem]
      · simp [mem]
  | pointerUp => exact (List.map_erase ρ.injective _).symm
  | down => rfl
  | up => rfl
  | cancel => rfl
  | move => rfl

/-- A pulse that is not told leaves no trace. -/
theorem settle_of_holds (r : Recognizer) (quiet : ρ.pulses = false) {w : Verdict} (holds : w.Holds)
    (ends : Bool) :
    (r.settle w ends).answer = true ∧ (r.settle w ends).state = r ∧
      (r.settle w ends).signals.filter ρ.tells = [] := by
  cases holds with
  | proceed => exact ⟨rfl, rfl, rfl⟩
  | pulse held => exact ⟨rfl, rfl, by simp [Recognizer.settle, quiet]⟩

namespace Recognizers

variable {r r' : Recognizer} (told : ρ.Recognizers r r')
include told

theorem stage : r'.stage = r.stage := told.trackers.stage

theorem awaiting : r'.awaiting = r.awaiting := told.trackers.awaiting

theorem tracked : r'.tracked = r.tracked.map ρ.name := told.trackers.tracked

theorem views (h : Host) : ρ.Views (r.view h) (r'.view h) :=
  ⟨told.configs, told.surface, told.surface', rfl⟩

theorem cleared :
    ρ.Recognizers { r with tracker := r.tracker.cleared }
      { r' with tracker := r'.tracker.cleared } :=
  { told with
    gesture := (Tracker.gesture_cleared _).trans told.gesture
    trackers := told.trackers.cleared }

theorem abandon (reason : AbandonReason) :
    ρ.Outcomes (r.abandon reason) (r'.abandon reason) := by
  simp only [Recognizer.abandon, told.stage]
  split
  · exact .silent told.cleared ()
  · exact ⟨rfl, { told.cleared with lastAbandon := rfl }, by simp [signal]⟩

theorem settle {w w' : Verdict} (verdicts : ρ.Verdicts w w') (ends : Bool) :
    ρ.Outcomes (r.settle w ends) (r'.settle w' ends) := by
  cases verdicts with
  | same =>
      cases w with
      | proceed consumed => exact .silent told consumed
      | restart gap => exact ⟨rfl, told, by simp [Recognizer.settle, signal]⟩
      | pulse held =>
          refine ⟨rfl, told, ?_⟩
          cases pulses : ρ.pulses <;> simp [Recognizer.settle, signal, pulses]
      | abandon reason => exact (told.abandon reason).answering false
      | complete =>
          refine ⟨rfl, ?_, by simp [Recognizer.settle, signal, told.configs.agrees.gesture]⟩
          exact
            { told.cleared with
              latched := rfl
              triggers := congrArg (· + 1) told.triggers }
  | untold quiet holds holds' =>
      obtain ⟨answer, state, signals⟩ := settle_of_holds r quiet holds ends
      obtain ⟨answer', state', signals'⟩ := settle_of_holds r' quiet holds' ends
      refine ⟨answer'.trans answer.symm, ?_, ?_⟩
      · rw [state, state']
        exact told
      · rw [signals, signals']
        rfl

theorem advance {step step' : Tracker × Verdict} (steps : ρ.Steps ρ.Trackers step step')
    (gesture : step.1.gesture = r.tracker.gesture) (now : Time) (ends : Bool) :
    ρ.Outcomes (r.advance step now ends) (r'.advance step' (now + ρ.delay) ends) := by
  have stepped : ρ.Recognizers { r with tracker := step.1 } { r' with tracker := step'.1 } :=
    { told with
      gesture := gesture.trans told.gesture
      trackers := steps.state }
  obtain ⟨answer, state, signals⟩ := stepped.settle steps.verdict ends
  refine ⟨answer, state, ?_⟩
  have logged (before after : Stage) :
      (Recognizer.stageLog before after (now + ρ.delay)).filter ρ.tells =
        ((Recognizer.stageLog before after now).filter ρ.tells).map ρ.signal := by
    unfold Recognizer.stageLog
    split <;> simp [signal]
  simp only [Recognizer.advance, List.filter_append, List.map_append, signals, told.stage,
    state.stage, logged]

theorem motion (h : Host) (t : Touch) (k : Touch.Motion) :
    ρ.Outcomes (r.motion h t k) (r'.motion h (ρ.touch t) k) := by
  have none_tracked : r'.tracked = [] ↔ r.tracked = [] := by simp [told.tracked]
  have started : ρ.Outcomes
      (if t.kind = .down ∧ r.tracked ≠ [] then r.abandon .streamRestarted else .silent r ())
      (if (ρ.touch t).kind = .down ∧ r'.tracked ≠ [] then r'.abandon .streamRestarted
        else .silent r' ()) := by
    simp only [ne_eq, none_tracked]
    show ρ.Outcomes _ (if t.kind = .down ∧ ¬ r.tracked = [] then _ else _)
    split
    · exact told.abandon .streamRestarted
    · exact .silent told ()
  unfold Recognizer.motion
  refine started.bind ?_
  rintro s s' - told
  have surface : s'.onSurface.length = s.onSurface.length := by simp [told.onSurface]
  simp only [surface, told.configs.agrees.gesture]
  split
  · obtain ⟨_, state, signals⟩ := told.abandon .extraPointer
    exact ⟨rfl, state, by simp [signals, signal]⟩
  · refine told.advance ?_ (Tracker.gesture_step _ _ _ _) t.time _
    exact told.trackers.step (told.views h) told.gesture k t.contact

theorem touch (h : Host) (t : Touch) :
    ρ.Outcomes (r.touch h t) (r'.touch h (ρ.touch t)) := by
  have counted (latched : Bool) :
      ρ.Recognizers
        { r with onSurface := Recognizer.pointersAfter r.onSurface t, latched := latched }
        { r' with
          onSurface := Recognizer.pointersAfter r'.onSurface (ρ.touch t)
          latched := latched } :=
    { told with
      onSurface := by rw [told.onSurface, pointersAfter_touch]
      latched := rfl }
  have kind : (ρ.touch t).kind = t.kind := rfl
  simp only [Recognizer.touch, kind, told.latched]
  split
  · exact .silent (counted r.latched) false
  · split
    · exact .silent (counted _) false
    · cases t.kind.motion? with
      | none => exact ((counted false).abandon .cancelled).answering false
      | some k => exact (counted false).motion h t k

theorem tick (h : Host) (now : Time) :
    ρ.Outcomes (r.tick h now) (r'.tick h (now + ρ.delay)) := by
  simp only [Recognizer.tick, told.latched]
  split
  · exact .silent told false
  · have steps := told.trackers.tick (told.views h) told.gesture now
    simp only [steps.verdict.complete_iff]
    exact (told.advance steps (Tracker.gesture_tick _ _ _) now false).answering _

theorem reset : ρ.Outcomes r.reset r'.reset := by
  have emptied : ρ.Recognizers { r with onSurface := [], latched := false }
      { r' with onSurface := [], latched := false } :=
    { told with
      onSurface := rfl
      latched := rfl }
  exact emptied.abandon .requested

theorem configured (c : Config) : ρ.Recognizers (r.configured c) (r'.configured c) := by
  have gesture := told.configs.agrees.gesture
  have fits : (r.configured c).tracker.gesture = c.gesture ∧
      ρ.Trackers (r.configured c).tracker (r'.configured c).tracker := by
    by_cases same : c.gesture = r.config.gesture
    · simpa [Recognizer.configured, gesture, same] using ⟨told.gesture, told.trackers⟩
    · simpa [Recognizer.configured, gesture, same] using
        ⟨Tracker.gesture_ofGesture c.gesture, Trackers.ofGesture c.gesture⟩
  exact
    { told with
      configs := .refl ρ c
      surface := rfl
      surface' := rfl
      gesture := fits.1
      trackers := fits.2 }

/-- A reload makes the same recognizer of both, whatever their configurations were. -/
theorem reload (h : Host) : ρ.Outcomes (r.reload h) (r'.reload h) := by
  simp only [Recognizer.reload, told.stage]
  split
  · exact ⟨rfl, told, by simp [signal]⟩
  · cases h.load with
    | error e => exact ⟨rfl, told, by simp [signal]⟩
    | ok c => exact ⟨rfl, told.configured c, by simp [signal]⟩

theorem serve (m : Moment) : ρ.Outcomes (r.serve m) (r'.serve (ρ.moment m)) := by
  obtain ⟨h, q⟩ := m
  cases q with
  | touch t => exact (told.touch h t).replying Session.Reply.consumed
  | tick now => exact (told.tick h now).replying Session.Reply.fired
  | reset => exact told.reset.answering Session.Reply.done
  | reload => exact (told.reload h).replying Session.Reply.reloaded

theorem run (history : List Moment) :
    ρ.Recognizers (r.run history) (r'.run (history.map ρ.moment)) := by
  induction history generalizing r r' with
  | nil => exact told
  | cons m rest ih => exact ih (told.serve m).state

end Recognizers

/-- New recognizers for two configurations that make no difference. -/
theorem Recognizers.ofConfig {c c' : Config} (configs : ρ.Configs c c') :
    ρ.Recognizers (.ofConfig c) (.ofConfig c') where
  configs := configs
  surface := rfl
  surface' := rfl
  gesture := Tracker.gesture_ofGesture c.gesture
  trackers := by
    show ρ.Trackers (.ofGesture c.gesture) (.ofGesture c'.gesture)
    rw [configs.agrees.gesture]
    exact .ofGesture c.gesture
  onSurface := rfl
  latched := rfl
  lastAbandon := rfl
  triggers := rfl

end Retelling
end ExitGesture
