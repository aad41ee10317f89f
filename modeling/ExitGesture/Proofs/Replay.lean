import ExitGesture.Proofs.Pointers.Basic
import ExitGesture.Replay.Bench
import Mathlib.Data.List.Perm.Subperm

/-!
# Replays keep the standard invariants

Each standard check walks a trace with a memory of its own that starts empty, while the recognizer
may be anywhere: in the middle of an attempt, latched, with pointers down that the trace never saw
land.  A walk is therefore tied to the session by a relation between its memory and the recognizer
that holds at the start of every replay and is kept by every touch.

**The relations.**
* A walk that remembers a trigger is followed by a recognizer that is latched.
* A walk that remembers the stage remembers the stage of the recognizer.
* A walk that counts pointers counts some of those that the recognizer counts, and while an attempt
  is under way no more than the gesture takes.

**Results.**
* `Session.Settled.standard_holds`: no replay of a settled session breaks a standard invariant.
* `Bench.standard_holds_of_run`: however a bench has been used, its next replay passes the check.
-/

namespace ExitGesture

namespace Listener

theorem cue_hearAll (l : Listener) (signals : List Signal) : (l.hearAll signals).cue = l.cue := by
  induction signals generalizing l with
  | nil => rfl
  | cons s rest ih =>
      have heard : (l.hear s).cue = l.cue := by
        cases s with
        | log entry => rfl
        | pulse held => by_cases h : l.hearsPulses <;> simp [hear, h]
        | triggered => rfl
      exact (ih (l.hear s)).trans heard

theorem reactsTo_of_no_cue {l : Listener} (calm : l.cue = none) (s : Signal) :
    l.reactsTo s = false := by
  cases s <;> simp [reactsTo, calm]

end Listener

namespace Session

/-- A session whose recognizer is well formed and whose listener leaves exploration alone. -/
structure Settled (s : Session) : Prop where
  wellFormed : s.recognizer.WellFormed
  no_cue : s.listener.cue = none

namespace Settled

variable {s : Session}

theorem exploring_deliver {α : Type} (settled : s.Settled) (o : Outcome Recognizer α) :
    (s.deliver o).state.exploring = s.exploring := by
  have deaf : o.signals.any s.listener.reactsTo = false := by
    simp [Listener.reactsTo_of_no_cue settled.no_cue]
  simp [deliver, deaf]

theorem no_cue_deliver {α : Type} (settled : s.Settled) (o : Outcome Recognizer α) :
    (s.deliver o).state.listener.cue = none :=
  (Listener.cue_hearAll _ _).trans settled.no_cue

theorem perform (settled : s.Settled) (op : Op) : (s.perform op).state.Settled where
  wellFormed := wellFormed_perform settled.wellFormed op
  no_cue := by
    cases op with
    | touch t => exact settled.no_cue_deliver _
    | tick now => exact settled.no_cue_deliver _
    | reset => exact settled.no_cue_deliver _
    | reload => exact settled.no_cue_deliver _
    | explore active => exact settled.no_cue
    | provide change => exact settled.no_cue

theorem observe (settled : s.Settled) (t : Touch) : (s.observe t).state.Settled where
  wellFormed := settled.wellFormed.touch s.host t
  no_cue := settled.no_cue_deliver _

theorem observeAll (settled : s.Settled) (touches : List Touch) :
    (s.observeAll touches).state.Settled := by
  induction touches generalizing s with
  | nil => exact settled
  | cons t rest ih => exact ih (settled.observe t)

end Settled

variable {s : Session} {t : Touch}

theorem triggered_observe :
    (s.observe t).answer.triggered = true ↔
      Signal.triggered ∈ (s.recognizer.touch s.host t).signals := by
  have count := Recognizer.triggers_touch (r := s.recognizer) (h := s.host) (t := t)
  have noted : (s.observe t).answer.triggered = true ↔
      s.recognizer.triggers < (s.recognizer.touch s.host t).state.triggers :=
    decide_eq_true_iff
  rw [noted, count]
  by_cases fires : Signal.triggered ∈ (s.recognizer.touch s.host t).signals <;> simp [fires]

end Session

namespace Walk

variable {σ : Type} {w : Walk σ} {I : σ → Session → Prop}

/-- A relation ties the memory of a walk to a session: while it holds no touch is at fault, and
every touch keeps it. -/
structure Follows (w : Walk σ) (I : σ → Session → Prop) : Prop where
  clean : ∀ {memory s} (t : Touch), I memory s → w.fault? memory (s.observe t).answer = none
  keeps : ∀ {memory s} (t : Touch), I memory s →
    I (w.next memory (s.observe t).answer) (s.observe t).state

theorem Follows.firstFinding_eq_none (follows : w.Follows I) (memory : σ) (s : Session)
    (start : I memory s) (touches : List Touch) (index : Nat) :
    w.firstFinding memory index (s.observeAll touches).answer = none := by
  induction touches generalizing memory s index with
  | nil => rfl
  | cons t rest ih =>
      have clean := follows.clean t start
      have rest_clean := ih _ _ (follows.keeps t start) (index + 1)
      show w.firstFinding memory index
        ((s.observe t).answer :: ((s.observe t).state.observeAll rest).answer) = none
      rw [firstFinding, clean]
      exact rest_clean

end Walk

namespace Invariant

theorem triggerWalk_follows :
    triggerWalk.Follows fun fired s => fired = true → s.recognizer.latched = true where
  clean {fired s} t latched := by
    by_cases second : (s.observe t).answer.triggered = true ∧ fired = true ∧ t.kind ≠ .down
    · obtain ⟨triggered, fired, other⟩ := second
      exact absurd (Session.triggered_observe.1 triggered)
        (Recognizer.not_fires_of_latched (latched fired) other)
    · have same : (s.observe t).answer.touch = t := rfl
      simp only [triggerWalk, same]
      rw [if_neg]
      simpa [and_assoc] using second
  keeps {fired s} t latched := by
    intro remembered
    have same : (s.observe t).answer.touch = t := rfl
    simp only [triggerWalk, same, Bool.and_eq_true, Bool.or_eq_true, Bool.not_eq_true',
      decide_eq_true_eq] at remembered
    obtain ⟨⟨fired, other⟩ | triggered, stays⟩ := remembered
    · exact Recognizer.latched_of_latched (latched fired) other stays
    · exact Recognizer.latched_of_fires (Session.triggered_observe.1 triggered) stays

theorem explorationWalk_follows :
    explorationWalk.Follows fun previous s => previous = s.recognizer.stage where
  clean {previous s} t same := by
    cases explored : s.exploring with
    | false => simp [explorationWalk, Session.observe, Outcome.answering, explored]
    | true =>
        have passed := Recognizer.touch_exploring (r := s.recognizer) (h := s.host) (t := t)
          explored
        have consumed : (s.observe t).answer.consumed = false := by
          show (s.recognizer.touch s.host t).answer = false
          rw [passed]
          rfl
        have stage : (s.observe t).answer.stage = s.recognizer.stage := by
          show (s.recognizer.touch s.host t).state.stage = s.recognizer.stage
          rw [passed]
          rfl
        have quiet : (s.observe t).answer.triggered = false := by
          rw [← Bool.not_eq_true, Session.triggered_observe, passed]
          simp [Outcome.silent]
        simp [explorationWalk, consumed, stage, quiet, same]
  keeps t _ := rfl

theorem consumptionWalk_follows : consumptionWalk.Follows fun _ _ => True where
  clean {_ s} t _ := by
    cases consumed : (s.observe t).answer.consumed with
    | false => simp [consumptionWalk, consumed]
    | true =>
        have engaged : engaged (s.observe t).answer = true := by
          rcases Recognizer.engaged_of_answer (r := s.recognizer) (h := s.host) (t := t)
            consumed with fires | active | edge
          · simp [engaged, Session.triggered_observe.2 fires]
          · have stage : (s.observe t).answer.stage = .active := active
            simp [engaged, stage]
          · have awaiting : (s.observe t).answer.awaiting = some .edge := edge
            simp [engaged, awaiting]
        simp [consumptionWalk, engaged]
  keeps _ _ := trivial

theorem cancelWalk_follows : cancelWalk.Follows fun _ s => s.recognizer.WellFormed where
  clean {_ s} t wf := by
    by_cases heard : t.kind = .cancel ∧ s.exploring = false
    · obtain ⟨answer, idle⟩ := Recognizer.idle_of_cancel (h := s.host) wf heard.2 heard.1
      have consumed : (s.observe t).answer.consumed = false := answer
      have stage : (s.observe t).answer.stage = .idle := idle
      simp [cancelWalk, consumed, stage]
    · have same : (s.observe t).answer.touch = t := rfl
      have exploring : (s.observe t).answer.exploring = s.exploring := rfl
      simp only [not_and, Bool.not_eq_false] at heard
      by_cases cancels : t.kind = .cancel
      · simp [cancelWalk, exploring, heard cancels]
      · simp [cancelWalk, same, cancels]
  keeps t wf := wf.touch _ t

/-! ### Counting pointers -/

/-- The pointers that a walk counts are on the surface, and while an attempt is under way they are
no more than the gesture takes. -/
structure Counts (limit : Nat) (down : List PointerId) (s : Session) : Prop where
  settled : s.Settled
  limited : s.recognizer.config.gesture.maxPointers = limit
  nodup : down.Nodup
  counted : down ⊆ s.recognizer.onSurface
  few : s.exploring = false → s.recognizer.stage ≠ .idle → down.length ≤ limit

variable {down : List PointerId} {s : TraceStep}

theorem landed_of_not_down (other : s.touch.kind.isDown = false) : landed down s = down := by
  unfold landed
  cases kind : s.touch.kind with
  | down => simp [kind, Touch.Kind.isDown, Touch.Kind.motion?] at other
  | pointerDown => simp [kind, Touch.Kind.isDown, Touch.Kind.motion?] at other
  | move => rfl
  | up => rfl
  | pointerUp => rfl
  | cancel => rfl

/-- A walk counts the pointers of a touch as a recognizer does. -/
theorem lifted_landed (down : List PointerId) (s : TraceStep) :
    lifted (landed down s) s = Recognizer.pointersAfter down s.touch := by
  unfold lifted landed Recognizer.pointersAfter
  cases s.touch.kind with
  | down => rfl
  | pointerDown => rfl
  | move => rfl
  | up => rfl
  | pointerUp => rfl
  | cancel => rfl

theorem pointerWalk_follows (limit : Nat) : (pointerWalk limit).Follows (Counts limit) where
  clean {down s} t counts := by
    by_cases triggered : (s.observe t).answer.triggered = true
    · obtain ⟨listening, begun, other⟩ :=
        Recognizer.begun_of_fires (Session.triggered_observe.1 triggered)
      have same : landed down (s.observe t).answer = down := landed_of_not_down other
      have few : ¬ limit < down.length := Nat.not_lt.2 (counts.few listening begun)
      simp [pointerWalk, same, few]
    · simp [pointerWalk, triggered]
  keeps {down s} t counts := by
    have counts_alike : (pointerWalk limit).next down (s.observe t).answer =
        Recognizer.pointersAfter down t := lifted_landed _ _
    have nodup : (Recognizer.pointersAfter down t).Nodup :=
      Recognizer.nodup_pointersAfter counts.nodup t
    have counted : Recognizer.pointersAfter down t ⊆
        (s.observe t).state.recognizer.onSurface := by
      show _ ⊆ (s.recognizer.touch s.host t).state.onSurface
      rw [Recognizer.onSurface_touch]
      exact Recognizer.pointersAfter_subset counts.nodup counts.counted t
    have limited : (s.observe t).state.recognizer.config.gesture.maxPointers = limit := by
      show (s.recognizer.touch s.host t).state.config.gesture.maxPointers = limit
      rw [Recognizer.config_touch]
      exact counts.limited
    rw [counts_alike]
    refine ⟨counts.settled.observe t, limited, nodup, counted, ?_⟩
    intro exploring begun
    have listening : s.exploring = false :=
      (counts.settled.exploring_deliver _).symm.trans exploring
    -- a landing is judged by the surface, any other touch by what was counted before it
    cases lands : t.kind.isDown with
    | true =>
        have few := Recognizer.few_of_landed (h := s.host) counts.settled.wellFormed listening
          lands begun
        have fewer := (List.subperm_of_subset nodup counted).length_le
        calc
          (Recognizer.pointersAfter down t).length
            ≤ (s.observe t).state.recognizer.onSurface.length := fewer
          _ ≤ (s.observe t).state.recognizer.config.gesture.maxPointers := Nat.not_lt.1 few
          _ = limit := limited
    | false =>
        have before := counts.few listening (Recognizer.begun_of_not_landed lands begun)
        exact Nat.le_trans (Recognizer.length_pointersAfter_le lands) before

end Invariant

/-! ### Benches -/

namespace Session.Settled

/-- No replay of a settled session breaks a standard invariant. -/
theorem standard_holds {s : Session} (settled : s.Settled) (touches : List Touch) :
    ∀ i ∈ Registry.standard, i.check (s.replay touches).answer = none := by
  have counts : Invariant.Counts s.recognizer.config.gesture.maxPointers [] s :=
    ⟨settled, rfl, List.nodup_nil, List.nil_subset _, fun _ _ => Nat.zero_le _⟩
  have trigger := Invariant.triggerWalk_follows.firstFinding_eq_none false s
    (fun fired => absurd fired Bool.false_ne_true) touches 0
  have exploration := Invariant.explorationWalk_follows.firstFinding_eq_none _ s rfl touches 0
  have consumption := Invariant.consumptionWalk_follows.firstFinding_eq_none () s trivial touches 0
  have cancel :=
    Invariant.cancelWalk_follows.firstFinding_eq_none () s settled.wellFormed touches 0
  have pointers := (Invariant.pointerWalk_follows _).firstFinding_eq_none [] s counts touches 0
  intro i mem
  simp only [Registry.standard, List.mem_cons, List.not_mem_nil, or_false] at mem
  rcases mem with rfl | rfl | rfl | rfl | rfl
  · exact Option.map_eq_none_iff.2 trigger
  · exact Option.map_eq_none_iff.2 exploration
  · exact Option.map_eq_none_iff.2 consumption
  · exact Option.map_eq_none_iff.2 cancel
  · exact Option.map_eq_none_iff.2 pointers

end Session.Settled

namespace Bench

/-- What can be done with a bench: replay a stream, or do something to its session. -/
inductive Action
  | replay (touches : List Touch)
  | perform (op : Session.Op)

/-- The bench after an action. -/
def act (b : Bench) : Action → Bench
  | .replay touches => (b.run touches).state
  | .perform op => { b with session := (b.session.perform op).state }

variable {provider : Provider} {registry : Option Registry} {o : Outcome Bench Unit}

/-- A bench starts with a new session. -/
theorem session_of_start (started : start provider registry = .ok o) :
    ∃ p, Session.start provider false .recorder = .ok p ∧ o.state = ⟨p.state, registry⟩ := by
  unfold start at started
  cases session : Session.start provider false .recorder with
  | error e => simp [session, Except.map] at started
  | ok p =>
      simp only [session, Except.map, Except.ok.injEq] at started
      exact ⟨p, rfl, started ▸ rfl⟩

theorem settled_start (started : start provider registry = .ok o) :
    o.state.session.Settled := by
  obtain ⟨p, session, eq⟩ := session_of_start started
  obtain ⟨c, _, new⟩ := Session.state_of_start session
  rw [eq, new]
  exact ⟨.ofConfig c, rfl⟩

theorem registry_start (started : start provider registry = .ok o) :
    o.state.registry = registry := by
  obtain ⟨p, _, eq⟩ := session_of_start started
  rw [eq]

theorem settled_act {b : Bench} (settled : b.session.Settled) (a : Action) :
    (b.act a).session.Settled := by
  cases a with
  | replay touches => exact settled.observeAll touches
  | perform op => exact settled.perform op

theorem registry_act (b : Bench) (a : Action) : (b.act a).registry = b.registry := by
  cases a with
  | replay touches => rfl
  | perform op => rfl

theorem settled_actions {b : Bench} (settled : b.session.Settled) (actions : List Action) :
    (actions.foldl act b).session.Settled := by
  induction actions generalizing b with
  | nil => exact settled
  | cons a rest ih => exact ih (settled_act settled a)

theorem registry_actions (b : Bench) (actions : List Action) :
    (actions.foldl act b).registry = b.registry := by
  induction actions generalizing b with
  | nil => rfl
  | cons a rest ih => exact (ih (b.act a)).trans (registry_act b a)

/-- However a bench that checks the standard invariants has been used, the next replay passes the
check. -/
theorem standard_holds_of_run
    (started : start provider (some .standard) = .ok o) (actions : List Action)
    (touches : List Touch) :
    let b := actions.foldl act o.state
    (b.run touches).answer = .ok (b.session.replay touches).answer ∧
      ∀ i ∈ Registry.standard, i.check (b.session.replay touches).answer = none := by
  intro b
  have holds := (settled_actions (settled_start started) actions).standard_holds touches
  have checked : b.registry = some .standard :=
    (registry_actions o.state actions).trans (registry_start started)
  have quiet : b.complaint? (b.session.replay touches).answer = none := by
    simp only [complaint?, checked, Option.bind_some]
    exact Registry.complaint?_eq_none_iff.2 holds
  refine ⟨?_, holds⟩
  simp only [run, quiet]

/-- A hold across the corners in two replays, the second from the middle of the attempt. -/
theorem standard_holds_of_run_corners :
    ∃ o, start (.phone .oppositeCornersHold) (some .standard) = .ok o ∧
      let b := [Action.replay
        [⟨.down, 0, ⟨10, 10⟩, 0⟩, ⟨.pointerDown, 1, ⟨1070, 1910⟩, 50⟩]].foldl act o.state
      b.session.recognizer.stage = .active ∧
        (b.run [⟨.move, 0, ⟨10, 10⟩, 2600⟩]).answer =
          .ok (b.session.replay [⟨.move, 0, ⟨10, 10⟩, 2600⟩]).answer :=
  ⟨_, rfl, by decide +kernel,
    (@standard_holds_of_run (.phone .oppositeCornersHold) _ rfl _ _).1⟩

end Bench
end ExitGesture
