import ExitGesture.Proofs.Touch

/-!
# A cancel or a reset makes a recognizer new

A recognizer keeps a record of its past: how often it fired, and why the last attempt was given up.
Nothing is ever decided by the record, so a recognizer with a past behaves like the same one
without, and its record grows in the same way.  A cancel and a reset forget everything else.
-/

namespace ExitGesture

namespace Outcome

variable {σ τ α β : Type}

/-- The same outcome on another state. -/
def mapState (f : σ → τ) (o : Outcome σ α) : Outcome τ α :=
  ⟨o.answer, f o.state, o.signals⟩

/-- A change of state that both parts of a sequence respect is respected by the sequence. -/
theorem bind_mapState {f : σ → σ} (o : Outcome σ α) {next : σ → α → Outcome σ β}
    (respects : ∀ s a, next (f s) a = (next s a).mapState f) :
    (o.mapState f).bind next = (o.bind next).mapState f := by
  simp [bind, mapState, respects]

end Outcome

/-- A stream is cancelled and the cancel is heard, or a reset is asked for. -/
def Moment.Renews (m : Moment) : Prop :=
  m.request = .reset ∨
    m.host.exploring = false ∧ ∃ t, m.request = .touch t ∧ t.kind = .cancel

namespace Recognizer

/-- The recognizer with the record of a past behind its own. -/
def following (past r : Recognizer) : Recognizer :=
  { r with
    triggers := past.triggers + r.triggers
    lastAbandon := r.lastAbandon.or past.lastAbandon }

section Following

variable (past r : Recognizer) (h : Host)

theorem abandon_following (reason : AbandonReason) :
    (past.following r).abandon reason = (r.abandon reason).mapState past.following := by
  have same : (past.following r).stage = r.stage := rfl
  by_cases idle : r.stage = .idle
  · simp only [abandon, same, idle, if_true]
    rfl
  · simp only [abandon, same, idle, if_false]
    rfl

theorem settle_following (w : Verdict) (ends : Bool) :
    (past.following r).settle w ends = (r.settle w ends).mapState past.following := by
  cases w with
  | proceed consumed => rfl
  | restart gap => rfl
  | pulse held => rfl
  | abandon reason =>
      simp only [settle, abandon_following]
      rfl
  | complete => rfl

theorem advance_following (step : Tracker × Verdict) (now : Time) (ends : Bool) :
    (past.following r).advance step now ends =
      (r.advance step now ends).mapState past.following := by
  have settled := settle_following past { r with tracker := step.1 } step.2 ends
  have same : ({ past.following r with tracker := step.1 } : Recognizer) =
      past.following { r with tracker := step.1 } := rfl
  simp only [advance, same, settled]
  rfl

theorem motion_following (t : Touch) (k : Touch.Motion) :
    (past.following r).motion h t k = (r.motion h t k).mapState past.following := by
  -- what a new stream interrupts is given up first, and only then does the tracker step
  have started :
      (if t.kind = .down ∧ (past.following r).tracked ≠ [] then
          (past.following r).abandon .streamRestarted
        else .silent (past.following r) ()) =
      (if t.kind = .down ∧ r.tracked ≠ [] then r.abandon .streamRestarted
        else Outcome.silent r ()).mapState past.following := by
    have same : (past.following r).tracked = r.tracked := rfl
    rw [same]
    split
    · exact abandon_following past r .streamRestarted
    · rfl
  unfold motion
  rw [started]
  refine Outcome.bind_mapState _ ?_
  intro r' _
  have surface : (past.following r').onSurface = r'.onSurface := rfl
  have config : (past.following r').config = r'.config := rfl
  rw [surface, config]
  split
  · rw [abandon_following]
    rfl
  · exact advance_following past r' _ t.time _

theorem touch_following (t : Touch) :
    (past.following r).touch h t = (r.touch h t).mapState past.following := by
  have latched : (past.following r).latched = r.latched := rfl
  unfold touch
  simp only [latched]
  split
  · rfl
  · split
    · rfl
    · split
      · have abandoned := abandon_following past (r.counted t) .cancelled
        show Outcome.answering ((past.following (r.counted t)).abandon .cancelled) false = _
        rw [abandoned]
        rfl
      · exact motion_following past (r.counted t) h t _

theorem tick_following (now : Time) :
    (past.following r).tick h now = (r.tick h now).mapState past.following := by
  have latched : (past.following r).latched = r.latched := rfl
  unfold tick
  rw [latched]
  split
  · rfl
  · have advanced := advance_following past r (r.tracker.tick (r.view h) now) now false
    show Outcome.answering ((past.following r).advance (r.tracker.tick (r.view h) now) now false)
      _ = _
    rw [advanced]
    rfl

theorem reload_following :
    (past.following r).reload h = (r.reload h).mapState past.following := by
  have same : (past.following r).stage = r.stage := rfl
  unfold reload
  rw [same]
  split
  · rfl
  · split
    · rfl
    · rfl

/-- A past decides nothing, and every moment carries it along. -/
theorem serve_following (m : Moment) :
    (past.following r).serve m = (r.serve m).mapState past.following := by
  obtain ⟨h, q⟩ := m
  cases q with
  | touch t =>
      simp only [serve, touch_following]
      rfl
  | tick now =>
      simp only [serve, tick_following]
      rfl
  | reset =>
      have abandoned := abandon_following past { r with onSurface := [], latched := false }
        .requested
      show Outcome.answering
        ((past.following { r with onSurface := [], latched := false }).abandon .requested) _ = _
      rw [abandoned]
      rfl
  | reload =>
      simp only [serve, reload_following]
      rfl

theorem run_following (history : List Moment) :
    (past.following r).run history = past.following (r.run history) := by
  induction history generalizing r with
  | nil => rfl
  | cons m rest ih =>
      show ((past.following r).after m).run rest = _
      rw [after, serve_following]
      exact ih (r.after m)

end Following

/-! ### New recognizers -/

variable {r : Recognizer} {m : Moment}

theorem eq_following_of_blank (wf : r.WellFormed) (idle : r.stage = .idle)
    (empty : r.onSurface = []) (opened : r.latched = false) :
    r = r.following (ofConfig r.config) := by
  have tracker : r.tracker = .ofGesture r.config.gesture := by
    rw [← wf.gesture]
    exact Tracker.stage_eq_idle_iff.1 idle
  obtain ⟨config, surface, τ, onSurface, latched, lastAbandon, triggers⟩ := r
  have measured : surface = .ofConfig config := wf.surface
  simp only at tracker empty opened
  subst tracker measured empty opened
  simp [following, ofConfig]

theorem blank_of_renews (wf : r.WellFormed) (renews : m.Renews) :
    (r.after m).config = r.config ∧ (r.after m).stage = .idle ∧ (r.after m).onSurface = [] ∧
      (r.after m).latched = false := by
  obtain ⟨h, q⟩ := m
  rcases renews with reset | ⟨listening, t, touch, cancels⟩
  · cases reset
    have idle := stage_abandon { r with onSurface := [], latched := false } .requested
    refine ⟨?_, idle, ?_, ?_⟩ <;> simp [after, serve, Recognizer.reset, Outcome.answering]
  · cases touch
    have idle := (idle_of_cancel wf listening cancels).2
    refine ⟨config_touch, idle, ?_, ?_⟩
    · show (r.touch h t).state.onSurface = []
      rw [onSurface_touch]
      simp [pointersAfter, cancels]
    · exact opened_of_endsStream listening (by simp [cancels, Touch.Kind.endsStream])

/-- After a cancel that is heard, or a reset, whatever follows finds the recognizer in the state of
a new one that works from the same configuration, and is answered and signalled alike.  Only the
count of triggers and the reason of the last abandonment remember what was before. -/
theorem renewed_as_new (c : Config) (history : List Moment) (m : Moment) (renews : m.Renews)
    (later : List Moment) (n : Moment) :
    let r := (ofConfig c).run history
    let renewed := (r.after m).run later
    let new := (ofConfig r.config).run later
    renewed =
        { new with
          triggers := (r.after m).triggers + new.triggers
          lastAbandon := new.lastAbandon.or (r.after m).lastAbandon } ∧
      (renewed.serve n).answer = (new.serve n).answer ∧
      (renewed.serve n).signals = (new.serve n).signals := by
  intro r renewed new
  have wf : r.WellFormed := (WellFormed.ofConfig c).run history
  obtain ⟨config, idle, empty, opened⟩ := blank_of_renews wf renews
  have blank := eq_following_of_blank (wf.after m) idle empty opened
  rw [config] at blank
  have same : renewed = (r.after m).following new := by
    calc
      (r.after m).run later = ((r.after m).following (ofConfig r.config)).run later :=
        congrArg (run · later) blank
      _ = (r.after m).following new := run_following _ _ later
  rw [same, serve_following]
  exact ⟨rfl, rfl, rfl⟩

/-- A pair that fired is cancelled while the recognizer is latched with a third pointer down, and
the same gesture, made again, fires again. -/
theorem renewed_as_new_corners :
    let host : Host := .phone .oppositeCornersHold
    let landings := host.touches
      [⟨.down, 0, ⟨10, 10⟩, 3000⟩, ⟨.pointerDown, 1, ⟨1070, 1910⟩, 3050⟩]
    let history := landings ++
      [⟨host, .tick 5550⟩, ⟨host, .touch ⟨.pointerDown, 2, ⟨500, 500⟩, 5600⟩⟩]
    let cancel : Moment := ⟨host, .touch ⟨.cancel, 0, ⟨10, 10⟩, 5700⟩⟩
    let r := (ofConfig (.forScreen .oppositeCornersHold 1080 1920)).run history
    let renewed := (r.after cancel).run landings
    let new := (ofConfig r.config).run landings
    cancel.Renews ∧ r.latched = true ∧ r.onSurface.length = 3 ∧ renewed.Fires ⟨host, .tick 6000⟩ ∧
      renewed =
        { new with
          triggers := (r.after cancel).triggers + new.triggers
          lastAbandon := new.lastAbandon.or (r.after cancel).lastAbandon } ∧
      (renewed.serve ⟨host, .tick 6000⟩).answer = (new.serve ⟨host, .tick 6000⟩).answer ∧
      (renewed.serve ⟨host, .tick 6000⟩).signals = (new.serve ⟨host, .tick 6000⟩).signals := by
  intro host landings history cancel r renewed new
  have renews : cancel.Renews := Or.inr ⟨rfl, _, rfl, rfl⟩
  have alike := renewed_as_new (.forScreen .oppositeCornersHold 1080 1920) history cancel renews
    landings ⟨host, .tick 6000⟩
  exact ⟨renews, by decide +kernel, by decide +kernel, by decide +kernel, alike⟩

end Recognizer
end ExitGesture
