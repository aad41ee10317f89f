import ExitGesture.Proofs.Touch
import Mathlib.Data.List.Induction

/-!
# What a history tells about a tracker

A tracker keeps little of what it has perceived: a contact or two, and a timer.  What must have
happened for it to be where it is can still be told, because every moment either leaves it idle,
passes it by, or moves it by one stimulus that lasts.
-/

namespace ExitGesture

namespace Moment

/-- What a tracker can perceive of the moment: nothing while exploration owns the input. -/
def stimulus? (m : Moment) : Option Stimulus :=
  if m.host.exploring then none
  else
    match m.request with
    | .touch t => t.kind.motion?.map fun k => .motion k t.contact
    | .tick now => some (.tick now)
    | .reset | .reload => none

/-- A contact lands. -/
def Lands (m : Moment) (c : Contact) : Prop := m.stimulus? = some (.motion .land c)

/-- A pointer lands, the host cancels the stream, or it asks for a reset. -/
def Interrupts (m : Moment) : Prop :=
  m.request = .reset ∨
    m.host.exploring = false ∧
      ∃ t, m.request = .touch t ∧ (t.kind.isDown = true ∨ t.kind = .cancel)

/-- Nothing interrupts, and what is perceived is as `P` says. -/
structure Keeps (P : Stimulus → Prop) (m : Moment) : Prop where
  goes_on : ¬ m.Interrupts
  perceived : ∀ s, m.stimulus? = some s → P s

variable {P Q : Stimulus → Prop} {m : Moment} {s : Stimulus}

theorem keeps_of_unheard (unheard : m.stimulus? = none) (goes_on : ¬ m.Interrupts) :
    m.Keeps P := by
  refine ⟨goes_on, ?_⟩
  intro s heard
  simp [unheard] at heard

theorem keeps_of_heard (heard : m.stimulus? = some s) (none_lands : s.LandsNone) (kept : P s) :
    m.Keeps P := by
  constructor
  · rintro (reset | ⟨listening, t, touch, lands | cancels⟩)
    · simp [stimulus?, reset] at heard
    · have landing : t.kind.motion? = some .land := by simpa [Touch.Kind.isDown] using lands
      simp only [stimulus?, listening, touch, landing, Option.map_some, Bool.false_eq_true,
        if_false, Option.some.injEq] at heard
      rw [← heard] at none_lands
      exact none_lands
    · simp [stimulus?, listening, touch, cancels, Touch.Kind.motion?] at heard
  · intro s' heard'
    rw [heard, Option.some.injEq] at heard'
    rw [← heard']
    exact kept

theorem up_of_lift {b : Contact} (heard : m.stimulus? = some (.motion .lift b)) :
    ∃ t, m.request = .touch t ∧ t.kind.isUp = true := by
  obtain ⟨h, q⟩ := m
  cases exploring : h.exploring with
  | true => simp [stimulus?, exploring] at heard
  | false =>
      cases q with
      | tick now => simp [stimulus?, exploring] at heard
      | reset => simp [stimulus?, exploring] at heard
      | reload => simp [stimulus?, exploring] at heard
      | touch t =>
          obtain ⟨k, motion, eq⟩ : ∃ k, t.kind.motion? = some k ∧
              Stimulus.motion k t.contact = .motion .lift b := by
            simpa [stimulus?, exploring] using heard
          cases eq
          exact ⟨t, rfl, by simpa [Touch.Kind.isUp] using motion⟩

theorem Keeps.imp (keeps : m.Keeps P) (weaker : ∀ s, P s → Q s) : m.Keeps Q :=
  ⟨keeps.goes_on, fun s heard => weaker s (keeps.perceived s heard)⟩

end Moment

/-! ### Since -/

/-- A moment was as `P` says after what came before it, and every moment since is as `Q` says. -/
def Since (P : List Moment → Moment → Prop) (Q : Moment → Prop) (history : List Moment) : Prop :=
  ∃ before d after, history = before ++ d :: after ∧ P before d ∧ ∀ n ∈ after, Q n

section Since

variable {P : List Moment → Moment → Prop} {Q : Moment → Prop} {history : List Moment} {m : Moment}

theorem since_of_now (now : P history m) : Since P Q (history ++ [m]) := by
  refine ⟨history, m, [], rfl, now, ?_⟩
  intro n mem
  cases mem

theorem Since.concat (since : Since P Q history) (kept : Q m) : Since P Q (history ++ [m]) := by
  obtain ⟨before, d, after, rfl, at_d, after_d⟩ := since
  refine ⟨before, d, after ++ [m], by simp, at_d, ?_⟩
  exact List.forall_mem_append.2 ⟨after_d, List.forall_mem_singleton.2 kept⟩

end Since

/-- A moment was as `P` says after what came before it, and every history from it on has been as `Q`
says. -/
def EverSince (P : List Moment → Moment → Prop) (Q : List Moment → Prop)
    (history : List Moment) : Prop :=
  ∃ earlier e later, history = earlier ++ e :: later ∧ P earlier e ∧
    ∀ part, part <+: later → Q (earlier ++ e :: part)

section EverSince

variable {P : List Moment → Moment → Prop} {Q : List Moment → Prop} {history : List Moment}
  {m : Moment}

theorem everSince_of_now (now : P history m) (holds : Q (history ++ [m])) :
    EverSince P Q (history ++ [m]) := by
  refine ⟨history, m, [], rfl, now, ?_⟩
  intro part within
  rw [List.prefix_nil.1 within]
  exact holds

theorem EverSince.concat (since : EverSince P Q history) (holds : Q (history ++ [m])) :
    EverSince P Q (history ++ [m]) := by
  obtain ⟨earlier, e, later, rfl, at_e, after_e⟩ := since
  refine ⟨earlier, e, later ++ [m], by simp, at_e, ?_⟩
  intro part within
  rcases List.prefix_concat_iff.1 within with rfl | within
  · simpa using holds
  · exact after_e part within

theorem EverSince.now (since : EverSince P Q history) : Q history := by
  obtain ⟨earlier, e, later, rfl, _, after_e⟩ := since
  exact after_e later (List.prefix_refl later)

end EverSince

/-- Where a pointer was reported last. -/
def lastPlace? (p : PointerId) (history : List Moment) : Option Point :=
  history.foldl (fun last n => (n.stimulus?.bind (Stimulus.place? p)).or last) none

theorem lastPlace?_concat (p : PointerId) (history : List Moment) (m : Moment) :
    lastPlace? p (history ++ [m]) =
      (m.stimulus?.bind (Stimulus.place? p)).or (lastPlace? p history) := by
  simp [lastPlace?]

/-- What a tracker sees that works from a configuration. -/
def Host.view (h : Host) (c : Config) : View := ⟨c, .ofConfig c, h.header⟩

namespace Recognizer

variable {r : Recognizer} {m : Moment}

theorem WellFormed.view (wf : r.WellFormed) (h : Host) : r.view h = h.view r.config := by
  simp [Recognizer.view, Host.view, wf.surface]

/-- What a moment does to the attempt. -/
inductive Effect (r : Recognizer) (m : Moment) (r' : Recognizer) : Prop
  /-- There is none afterwards. -/
  | ended (idle : r'.stage = .idle)
  /-- It is passed by. -/
  | unheard (silent : m.stimulus? = none) (goes_on : ¬ m.Interrupts)
      (config : r'.config = r.config) (tracker : r'.tracker = r.tracker)
  /-- It is moved by a stimulus that lasts; a new stream moves a cleared tracker instead. -/
  | heard {τ : Tracker} {s : Stimulus} (readied : τ = r.tracker ∨ τ.stage = .idle)
      (perceived : m.stimulus? = some s)
      (lasts : (τ.react (m.host.view r.config) s).2.lasts = true)
      (config : r'.config = r.config)
      (tracker : r'.tracker = (τ.react (m.host.view r.config) s).1)

/-- A step of a tracker that is ready for a stimulus ends the attempt or moves it. -/
theorem effect_advance {ready : Recognizer} {s : Stimulus}
    (readied : ready.tracker = r.tracker ∨ ready.tracker.stage = .idle)
    (config : ready.config = r.config) (perceived : m.stimulus? = some s) (now : Time)
    (ends : Bool) :
    Effect r m
      (ready.advance (ready.tracker.react (m.host.view r.config) s) now ends).state := by
  rcases (ready.tracker.react (m.host.view r.config) s).2.cases_lasts with
    lasts | complete | ⟨reason, abandoned⟩
  · rw [state_advance_of_lasts _ _ _ _ lasts]
    exact .heard readied perceived lasts config rfl
  · rw [state_advance_of_complete _ _ _ _ complete]
    exact .ended (Tracker.stage_cleared _)
  · rw [state_advance_of_abandon _ _ _ _ abandoned]
    exact .ended (stage_abandon _ _)

theorem effect_touch (wf : r.WellFormed) (h : Host) (t : Touch) :
    Effect r ⟨h, .touch t⟩ (r.touch h t).state := by
  have course := touch_course r h t
  generalize r.touch h t = o at course ⊢
  cases course with
  | explored exploring =>
      refine .unheard ?_ ?_ rfl rfl
      · simp [Moment.stimulus?, exploring]
      · simp [Moment.Interrupts, exploring]
  | heldBack _ latched =>
      -- the latch is only ever closed over an idle tracker
      exact .ended (wf.resting latched)
  | cancelled => exact .ended (stage_abandon _ _)
  | crowded _ _ _ _ _ state =>
      rw [state]
      exact .ended (stage_abandon _ _)
  | @seen _ k step listening _ motion _ stepped _ state =>
      have perceived : Moment.stimulus? ⟨h, .touch t⟩ = some (.motion k t.contact) := by
        simp [Moment.stimulus?, listening, motion]
      have ready : ((r.counted t).readied t).tracker = r.tracker ∨
          ((r.counted t).readied t).tracker.stage = .idle := (r.counted t).tracker_readied
      have config : ((r.counted t).readied t).config = r.config := config_readied _ t
      rw [state, stepped, wf.view h]
      exact effect_advance ready config perceived t.time _

theorem effect_tick (wf : r.WellFormed) (h : Host) (now : Time) :
    Effect r ⟨h, .tick now⟩ (r.tick h now).state := by
  rcases tick_cases r h now with ⟨latched | exploring, eq⟩ | ⟨_, listening, eq⟩
  · rw [eq]
    exact .ended (wf.resting latched)
  · rw [eq]
    refine .unheard ?_ ?_ rfl rfl
    · simp [Moment.stimulus?, exploring]
    · simp [Moment.Interrupts]
  · rw [eq, wf.view h]
    have perceived : Moment.stimulus? ⟨h, .tick now⟩ = some (.tick now) := by
      simp [Moment.stimulus?, listening]
    exact effect_advance (Or.inl rfl) rfl perceived now false

theorem effect_reload (r : Recognizer) (h : Host) :
    Effect r ⟨h, .reload⟩ (r.reload h).state := by
  obtain ⟨_, eq | ⟨idle, c, eq⟩⟩ := reload_cases r h
  · rw [eq]
    refine .unheard ?_ ?_ rfl rfl
    · simp [Moment.stimulus?]
    · simp [Moment.Interrupts]
  · rw [eq]
    exact .ended (stage_configured idle c)

theorem effect_after (wf : r.WellFormed) (m : Moment) : Effect r m (r.after m) := by
  obtain ⟨h, q⟩ := m
  cases q with
  | touch t => exact effect_touch wf h t
  | tick now => exact effect_tick wf h now
  | reset => exact .ended (stage_abandon _ _)
  | reload => exact effect_reload r h

/-- A configuration is only ever taken over without an attempt. -/
theorem config_after_of_begun (wf : r.WellFormed) (begun : (r.after m).stage ≠ .idle) :
    (r.after m).config = r.config := by
  cases effect_after wf m with
  | ended idle => exact absurd idle begun
  | unheard _ _ config _ => exact config
  | heard _ _ _ config _ => exact config

/-- A moment fires by a stimulus that completes the attempt. -/
theorem complete_of_fires (wf : r.WellFormed) (fires : r.Fires m) :
    ∃ s, m.stimulus? = some s ∧ (r.tracker.react (m.host.view r.config) s).2 = .complete := by
  rcases touch_or_tick_of_fires fires with ⟨t, asked, fires⟩ | ⟨now, asked, fires⟩
  · obtain ⟨listening, k, motion, complete⟩ := complete_of_touch_fires fires
    rw [wf.view m.host] at complete
    refine ⟨.motion k t.contact, ?_, complete⟩
    simp [Moment.stimulus?, asked, listening, motion]
  · obtain ⟨_, listening, complete⟩ := complete_of_tick_fires fires
    rw [wf.view m.host] at complete
    refine ⟨.tick now, ?_, complete⟩
    simp [Moment.stimulus?, asked, listening]

end Recognizer

/-! ### Explanations -/

/-- `S` tells of every history what it must have been for a tracker to be where it is: an idle
tracker needs none, and every moment keeps to it. -/
structure Explains (S : Config → List Moment → Tracker → Prop) : Prop where
  idle : ∀ {c history τ}, τ.stage = .idle → S c history τ
  unheard : ∀ {c history τ} {m : Moment}, S c history τ → m.stimulus? = none → ¬ m.Interrupts →
    S c (history ++ [m]) τ
  heard : ∀ {c history τ} {m : Moment} {s : Stimulus}, S c history τ → m.stimulus? = some s →
    (τ.react (m.host.view c) s).2.lasts = true →
      S c (history ++ [m]) (τ.react (m.host.view c) s).1

namespace Explains

variable {S : Config → List Moment → Tracker → Prop}

theorem holds_after (explains : Explains S) {r : Recognizer} (wf : r.WellFormed)
    {history : List Moment} (told : S r.config history r.tracker) (m : Moment) :
    S (r.after m).config (history ++ [m]) (r.after m).tracker := by
  cases Recognizer.effect_after wf m with
  | ended idle => exact explains.idle idle
  | unheard silent goes_on config tracker =>
      rw [config, tracker]
      exact explains.unheard told silent goes_on
  | @heard τ s readied perceived lasts config tracker =>
      have told' : S r.config history τ := by
        rcases readied with rfl | idle
        · exact told
        · exact explains.idle idle
      rw [config, tracker]
      exact explains.heard told' perceived lasts

theorem holds_of_run (explains : Explains S) (c : Config) (history : List Moment) :
    S ((Recognizer.ofConfig c).run history).config history
      ((Recognizer.ofConfig c).run history).tracker := by
  -- a history grows at its end, and so does what it tells
  induction history using List.reverseRecOn with
  | nil => exact explains.idle (Tracker.stage_ofGesture c.gesture)
  | append_singleton history m told =>
      rw [Recognizer.run_concat]
      exact explains.holds_after ((Recognizer.WellFormed.ofConfig c).run history) told m

/-- Behind a moment that fires is a history that explains the attempt it completes. -/
theorem holds_of_fires (explains : Explains S) {c : Config} {history : List Moment} {m : Moment}
    (fires : ((Recognizer.ofConfig c).run history).Fires m) :
    let used := ((Recognizer.ofConfig c).run history).config
    ∃ τ s, τ.gesture = used.gesture ∧ S used history τ ∧ m.stimulus? = some s ∧
      (τ.react (m.host.view used) s).2 = .complete := by
  have wf := (Recognizer.WellFormed.ofConfig c).run history
  obtain ⟨s, heard, complete⟩ := Recognizer.complete_of_fires wf fires
  exact ⟨_, s, wf.gesture, explains.holds_of_run c history, heard, complete⟩

end Explains
end ExitGesture
