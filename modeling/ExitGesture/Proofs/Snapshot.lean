import ExitGesture.Proofs.Touch
import ExitGesture.Proofs.Validation
import Mathlib.Data.List.Induction

/-!
# The configuration snapshot

A recognizer works from the configuration that it loaded last.  What its provider keeps may change
at any time; nobody looks at it before the next reload, and a reload happens between attempts, as a
whole or not at all.

**Results.**
* `outcomes_filter`: without a reload, a run goes as if the provider had kept what it served.
* `snapshot_isolated`: the snapshot of every session, and what a reload does to it.
-/

namespace ExitGesture

/-! ### What a load can fail with -/

theorem Provider.cases_of_config_error {p : Provider} {e : ConfigError}
    (refused : p.config = .error e) : (∃ d, e = .invalidDensity d) ∨
      ∃ c : Config, c.fault? = some e := by
  cases p with
  | fixed config header => cases refused
  | stored settings display header =>
      rcases Config.cases_of_ofSettings_error refused with ⟨_, eq⟩ | ⟨_, fault⟩
      · exact Or.inl ⟨_, eq⟩
      · exact Or.inr ⟨_, fault⟩

theorem Provider.header_update_header (p : Provider) (r : Rect) :
    (p.update (.header r)).header = r := by
  cases p <;> rfl

theorem Host.validate_of_load {h : Host} {c : Config} (loaded : h.load = .ok c) :
    c.validate = .ok () := by
  cases served : h.config with
  | error e => simp [Host.load, served] at loaded
  | ok c' =>
      cases valid : c'.validate with
      | error e => simp [Host.load, served, valid] at loaded
      | ok u =>
          simp only [Host.load, served, valid] at loaded
          split at loaded
          · cases loaded
          · rw [← Except.ok.inj loaded]
            exact valid

namespace Recognizer

/-- A reload leaves a configuration that is valid. -/
theorem validate_after {r : Recognizer} (valid : r.config.validate = .ok ()) (m : Moment) :
    (r.after m).config.validate = .ok () := by
  obtain ⟨h, q⟩ := m
  cases q with
  | touch t =>
      show (r.touch h t).state.config.validate = .ok ()
      rw [config_touch]
      exact valid
  | tick now =>
      show (r.tick h now).state.config.validate = .ok ()
      rw [config_tick]
      exact valid
  | reset =>
      show (Recognizer.reset r).state.config.validate = .ok ()
      simpa [Recognizer.reset] using valid
  | reload =>
      show (r.reload h).state.config.validate = .ok ()
      have course := reload_course r h
      generalize r.reload h = o at course ⊢
      cases course with
      | refused => exact valid
      | failed => exact valid
      | done _ loaded => exact Host.validate_of_load loaded

theorem validate_run {r : Recognizer} (valid : r.config.validate = .ok ()) (history : List Moment) :
    (r.run history).config.validate = .ok () := by
  induction history generalizing r with
  | nil => exact valid
  | cons m rest ih => exact ih (validate_after valid m)

end Recognizer

namespace Session

/-- Everything that can be wrong when a session loads a configuration. -/
theorem cases_of_load_error {s : Session} {e : ConfigError} (failed : s.host.load = .error e) :
    (∃ d, e = .invalidDensity d) ∨ (∃ c : Config, c.fault? = some e) ∨ ∃ r, e = .emptyHeader r := by
  cases served : s.host.config with
  | error e' =>
      simp only [Host.load, served, Except.error.injEq] at failed
      subst failed
      exact (Provider.cases_of_config_error served).imp_right Or.inl
  | ok c =>
      cases valid : c.validate with
      | error e' =>
          simp only [Host.load, served, valid, Except.error.injEq] at failed
          subst failed
          exact Or.inr (Or.inl ⟨c, Config.validate_eq_error_iff.1 valid⟩)
      | ok u =>
          simp only [Host.load, served, valid] at failed
          split at failed
          · exact Or.inr (Or.inr ⟨_, (Except.error.inj failed).symm⟩)
          · cases failed

theorem load_ne_gestureInProgress (s : Session) : s.host.load ≠ .error .gestureInProgress := by
  intro failed
  rcases cases_of_load_error failed with ⟨d, eq⟩ | ⟨c, fault⟩ | ⟨r, eq⟩
  · cases eq
  · rcases Config.cases_of_fault? fault with ⟨_, eq⟩ | ⟨_, ⟨g, eq⟩ | ⟨t, eq⟩⟩
    · cases eq
    · cases eq
    · cases eq
  · cases eq

/-! ### Reloads -/

/-- A log entry reaches nobody who would do anything about it. -/
theorem state_deliver_of_log {α : Type} {o : Outcome Recognizer α} {entry : LogEntry} (s : Session)
    (logged : o.signals = [.log entry]) :
    (s.deliver o).state = { s with recognizer := o.state } := by
  simp [deliver, logged, Listener.reactsTo, Listener.hearAll, Listener.hear]

/-- What a reload of a session answers, and what it leaves. -/
theorem reload_cases (s : Session) :
    (s.recognizer.stage ≠ .idle ∧ s.reload.answer = .error .gestureInProgress ∧
      s.reload.state = s) ∨
    (s.recognizer.stage = .idle ∧ ∃ e, s.host.load = .error e ∧ s.reload.answer = .error e ∧
      s.reload.state = s) ∨
    (s.recognizer.stage = .idle ∧ ∃ c, s.host.load = .ok c ∧ s.reload.answer = .ok () ∧
      s.reload.state = { s with recognizer := s.recognizer.configured c }) := by
  have course := Recognizer.reload_course s.recognizer s.host
  unfold reload
  generalize s.recognizer.reload s.host = o at course ⊢
  cases course with
  | refused begun => exact Or.inl ⟨begun, rfl, state_deliver_of_log s rfl⟩
  | failed idle unusable =>
      exact Or.inr (Or.inl ⟨idle, _, unusable, rfl, state_deliver_of_log s rfl⟩)
  | done idle loaded =>
      exact Or.inr (Or.inr ⟨idle, _, loaded, rfl, state_deliver_of_log s rfl⟩)

section Reload

variable {s : Session}

theorem reload_refused_iff :
    s.reload.answer = .error .gestureInProgress ↔ s.recognizer.stage ≠ .idle := by
  rcases reload_cases s with
    ⟨begun, answer, _⟩ | ⟨idle, e, failed, answer, _⟩ | ⟨idle, c, _, answer, _⟩
  · simp [answer, begun]
  · -- a provider never blames an attempt
    have other : e ≠ .gestureInProgress := by
      rintro rfl
      exact s.load_ne_gestureInProgress failed
    simp [answer, idle, other]
  · simp [answer, idle]

theorem reload_ok_iff :
    s.reload.answer = .ok () ↔ s.recognizer.stage = .idle ∧ ∃ c, s.host.load = .ok c := by
  rcases reload_cases s with
    ⟨begun, answer, _⟩ | ⟨idle, e, failed, answer, _⟩ | ⟨idle, c, loaded, answer, _⟩
  · simp [answer, begun]
  · simp [answer, failed]
  · simp [answer, idle, loaded]

theorem state_reload_of_error {e : ConfigError} (failed : s.reload.answer = .error e) :
    s.reload.state = s := by
  rcases reload_cases s with ⟨_, _, state⟩ | ⟨_, _, _, _, state⟩ | ⟨_, c, _, answer, _⟩
  · exact state
  · exact state
  · simp [answer] at failed

theorem state_reload_of_ok {c : Config} (loaded : s.host.load = .ok c)
    (succeeded : s.reload.answer = .ok ()) :
    s.reload.state = { s with recognizer := s.recognizer.configured c } := by
  rcases reload_cases s with ⟨_, answer, _⟩ | ⟨_, e, _, answer, _⟩ | ⟨_, c', loaded', _, state⟩
  · simp [answer] at succeeded
  · simp [answer] at succeeded
  · have same : c' = c := by simpa [loaded] using loaded'.symm
    rw [state, same]

end Reload

/-- The configuration that the last load of a run produced: the load that the run started from, or
a reload that succeeded. -/
inductive LastLoad (s : Session) : List Op → Config → Prop
  | started {c : Config} (loaded : s.host.load = .ok c) : LastLoad s [] c
  | reloaded {ops : List Op} {c : Config} (loaded : (s.run ops).state.host.load = .ok c)
      (succeeded : (s.run ops).state.reload.answer = .ok ()) :
      LastLoad s (ops ++ [.reload]) c
  | kept {ops : List Op} {op : Op} {c : Config} (last : LastLoad s ops c)
      (none_loaded : op = .reload → (s.run ops).state.reload.answer ≠ .ok ()) :
      LastLoad s (ops ++ [op]) c

theorem LastLoad.validate {s : Session} {ops : List Op} {c : Config} (last : LastLoad s ops c) :
    c.validate = .ok () := by
  induction last with
  | started loaded => exact Host.validate_of_load loaded
  | reloaded loaded _ => exact Host.validate_of_load loaded
  | kept _ _ ih => exact ih

theorem config_perform (s : Session) {op : Op} (other : op ≠ .reload) :
    (s.perform op).state.recognizer.config = s.recognizer.config := by
  cases op with
  | touch t => exact Recognizer.config_touch
  | tick now => exact Recognizer.config_tick
  | reset => simp [perform, reset, deliver, Recognizer.reset, Outcome.answering]
  | reload => exact absurd rfl other
  | explore active => rfl
  | provide change => rfl

theorem lastLoad_run {s : Session} (loaded : s.host.load = .ok s.recognizer.config)
    (ops : List Op) : LastLoad s ops (s.run ops).state.recognizer.config := by
  -- a run grows at its end, and only a reload that succeeds there loads anything
  induction ops using List.reverseRecOn with
  | nil => exact .started loaded
  | append_singleton ops op last =>
      rw [run_append]
      show LastLoad s (ops ++ [op]) ((s.run ops).state.perform op).state.recognizer.config
      by_cases reload : op = .reload
      · subst reload
        show LastLoad s (ops ++ [.reload]) (s.run ops).state.reload.state.recognizer.config
        cases answer : (s.run ops).state.reload.answer with
        | error e =>
            rw [state_reload_of_error answer]
            exact last.kept fun _ succeeded => by simp [answer] at succeeded
        | ok u =>
            obtain ⟨_, c, loaded⟩ := reload_ok_iff.1 answer
            rw [state_reload_of_ok loaded answer]
            exact .reloaded loaded answer
      · rw [config_perform _ reload]
        exact last.kept fun same => absurd same reload

end Session

/-! ### Changes of what is served -/

/-- Every request but a reload looks at the header of the host and at its exploration switch, and at
nothing else. -/
theorem Recognizer.serve_of_same_sight (r : Recognizer) {h h' : Host} {q : Request}
    (exploring : h.exploring = h'.exploring) (header : h.header = h'.header)
    (other : q ≠ .reload) : r.serve ⟨h, q⟩ = r.serve ⟨h', q⟩ := by
  have view : r.view h = r.view h' := by simp [Recognizer.view, header]
  cases q with
  | touch t =>
      have motion (r : Recognizer) (k : Touch.Motion) : r.motion h t k = r.motion h' t k := by
        simp [Recognizer.motion, Recognizer.view, header]
      simp [serve, Recognizer.touch, exploring, motion]
  | tick now => simp [serve, Recognizer.tick, exploring, view]
  | reset => rfl
  | reload => exact absurd rfl other

namespace Session

/-- Two sessions that differ at most in the configuration that is served. -/
structure Alike (s s' : Session) : Prop where
  recognizer : s.recognizer = s'.recognizer
  exploring : s.exploring = s'.exploring
  listener : s.listener = s'.listener
  header : s.provider.header = s'.provider.header

theorem Alike.refl (s : Session) : s.Alike s := ⟨rfl, rfl, rfl, rfl⟩

theorem Alike.trans {s s' s'' : Session} (alike : s.Alike s') (alike' : s'.Alike s'') :
    s.Alike s'' where
  recognizer := alike.recognizer.trans alike'.recognizer
  exploring := alike.exploring.trans alike'.exploring
  listener := alike.listener.trans alike'.listener
  header := alike.header.trans alike'.header

/-- Whether an operation changes the configuration that is served. -/
def Op.retunes : Op → Bool
  | .provide (.settings _) | .provide (.display _) | .provide (.config _) => true
  | .provide (.header _) | .touch _ | .tick _ | .reset | .reload | .explore _ => false

/-- A change of what is served is not perceived. -/
theorem alike_of_retunes {s : Session} {op : Op} (retunes : op.retunes = true) :
    (s.perform op).state.Alike s := by
  cases op with
  | provide change =>
      refine ⟨rfl, rfl, rfl, Provider.header_update ?_⟩
      rintro r rfl
      cases retunes
  | touch t => cases retunes
  | tick now => cases retunes
  | reset => cases retunes
  | reload => cases retunes
  | explore active => cases retunes

theorem Alike.perform {s s' : Session} (alike : s.Alike s') {op : Op}
    (kept : op.retunes = false) (other : op ≠ .reload) :
    (s.perform op).answer = (s'.perform op).answer ∧
      (s.perform op).signals = (s'.perform op).signals ∧
      (s.perform op).state.Alike (s'.perform op).state := by
  cases asks : op.request? with
  | some q =>
      have no_reload : q ≠ .reload := by
        rintro rfl
        cases op <;> simp [Op.request?] at asks
        exact other rfl
      have same : s.recognizer.serve ⟨s.host, q⟩ = s'.recognizer.serve ⟨s'.host, q⟩ := by
        rw [alike.recognizer]
        exact s'.recognizer.serve_of_same_sight alike.exploring alike.header no_reload
      rw [perform_of_request asks, perform_of_request asks, same]
      refine ⟨rfl, rfl, rfl, ?_, ?_, alike.header⟩
      · simp [deliver, alike.exploring, alike.listener]
      · simp [deliver, alike.listener]
  | none =>
      cases op with
      | explore active => exact ⟨rfl, rfl, alike.recognizer, rfl, alike.listener, alike.header⟩
      | provide change =>
          cases change with
          | header r =>
              refine ⟨rfl, rfl, alike.recognizer, alike.exploring, alike.listener, ?_⟩
              exact (Provider.header_update_header _ _).trans
                (Provider.header_update_header _ _).symm
          | settings settings => cases kept
          | display display => cases kept
          | config config => cases kept
      | touch t => cases asks
      | tick now => cases asks
      | reset => cases asks
      | reload => cases asks

/-- What the recognizer does at each operation of a run. -/
def outcomes (s : Session) : List Op → List (Op × Outcome Recognizer Reply)
  | [] => []
  | op :: rest =>
      let o := s.perform op
      (op, ⟨o.answer, o.state.recognizer, o.signals⟩) :: o.state.outcomes rest

theorem Alike.outcomes_filter {s s' : Session} (alike : s.Alike s') {ops : List Op}
    (no_reload : ∀ op ∈ ops, op ≠ .reload) :
    (s.outcomes ops).filter (fun entry => !entry.1.retunes) =
      s'.outcomes (ops.filter fun op => !op.retunes) := by
  induction ops generalizing s s' with
  | nil => rfl
  | cons op rest ih =>
      obtain ⟨other, later⟩ := List.forall_mem_cons.1 no_reload
      cases retunes : op.retunes with
      | true =>
          have still : (s.perform op).state.Alike s' := (alike_of_retunes retunes).trans alike
          simp [outcomes, retunes, ih still later]
      | false =>
          obtain ⟨answer, signals, still⟩ := alike.perform retunes other
          simp [outcomes, retunes, ih still later, answer, signals, still.recognizer]

/-- A session works from what it loaded last, which is valid and fits its surface and its tracker.
A reload is refused exactly during an attempt, changes nothing when it fails, and otherwise replaces
the snapshot and what is derived from it.  Between reloads a run goes, operation by operation, as it
goes without the changes of what is served. -/
theorem snapshot_isolated (provider : Provider) (exploring : Bool) (listener : Listener)
    {o : Outcome Session Unit} (started : start provider exploring listener = .ok o)
    (ops : List Op) :
    let s := (o.state.run ops).state
    let r := s.recognizer
    (LastLoad o.state ops r.config ∧ r.config.validate = .ok () ∧
        r.surface = .ofConfig r.config ∧ r.tracker.gesture = r.config.gesture) ∧
      (s.reload.answer = .error .gestureInProgress ↔ r.stage ≠ .idle) ∧
      (∀ e, s.reload.answer = .error e → s.reload.state = s) ∧
      (s.reload.answer = .ok () ↔ r.stage = .idle ∧ ∃ c, s.host.load = .ok c) ∧
      (∀ c, s.host.load = .ok c → s.reload.answer = .ok () →
        s.reload.state =
          { s with
            recognizer :=
              { r with
                config := c
                surface := .ofConfig c
                tracker :=
                  if c.gesture = r.config.gesture then r.tracker else .ofGesture c.gesture } }) ∧
      ∀ more : List Op, (∀ op ∈ more, op ≠ .reload) →
        (s.outcomes more).filter (fun entry => !entry.1.retunes) =
          s.outcomes (more.filter fun op => !op.retunes) := by
  intro s r
  obtain ⟨c₀, loaded, new⟩ := state_of_start started
  have wf : r.WellFormed := by
    refine wellFormed_run ?_ ops
    rw [new]
    exact .ofConfig c₀
  have last : LastLoad o.state ops r.config := by
    refine lastLoad_run ?_ ops
    rw [new]
    exact loaded
  refine ⟨⟨last, last.validate, wf.surface, wf.gesture⟩, reload_refused_iff,
    fun _ failed => state_reload_of_error failed, reload_ok_iff, ?_, ?_⟩
  · intro c loaded succeeded
    exact state_reload_of_ok loaded succeeded
  · intro more no_reload
    exact (Alike.refl s).outcomes_filter no_reload

/-- A phone serves the taps from the middle of a press on, and a third configuration while a pair is
held.  The reload during the press is refused, and the pair fires by the first configuration. -/
theorem snapshot_isolated_corners :
    ∃ o, start (.phone .oppositeCornersHold) false .recorder = .ok o ∧
      let ops : List Op :=
        [.reload, .touch ⟨.down, 0, ⟨10, 10⟩, 0⟩,
          .provide (.config (.forScreen .tripleTapDebug 1080 1920)), .reload]
      let more : List Op :=
        [.touch ⟨.pointerDown, 1, ⟨1070, 1910⟩, 50⟩,
          .provide (.config (.forScreen .twoFingerHeaderHold 720 1280)), .tick 2550]
      let s := (o.state.run ops).state
      s.recognizer.stage = .pending ∧
        s.recognizer.config = .forScreen .oppositeCornersHold 1080 1920 ∧
        LastLoad o.state ops s.recognizer.config ∧
        s.reload.answer = .error .gestureInProgress ∧ s.reload.state = s ∧
        (s.run more).state.listener.triggers = 1 ∧
        (s.outcomes more).filter (fun entry => !entry.1.retunes) =
          s.outcomes (more.filter fun op => !op.retunes) := by
  refine ⟨_, rfl, ?_⟩
  intro ops more s
  have isolated := snapshot_isolated (.phone .oppositeCornersHold) false .recorder rfl ops
  obtain ⟨⟨last, _⟩, refused, unchanged, _, _, alone⟩ := isolated
  have pending : s.recognizer.stage = .pending := by decide +kernel
  have begun : s.recognizer.stage ≠ .idle := by simp [pending]
  have answer : s.reload.answer = .error .gestureInProgress := refused.2 begun
  refine ⟨pending, by decide +kernel, last, answer, unchanged _ answer, by decide +kernel, ?_⟩
  refine alone more fun op mem => ?_
  rcases List.mem_cons.1 mem with rfl | mem
  · exact Op.noConfusion
  · rcases List.mem_cons.1 mem with rfl | mem
    · exact Op.noConfusion
    · rw [List.mem_singleton.1 mem]
      exact Op.noConfusion

end Session
end ExitGesture
