import ExitGesture.Proofs.Completeness.Basic
import ExitGesture.Proofs.Pointers.Basic
import ExitGesture.Proofs.Telling

/-!
# Late is late

An attempt that waits for a second pointer, or for another tap, waits for a limited time only.  A
tick gives it up as soon as that time is over; without ticks it is found too late by the next touch
that would go on with it.  Nobody can tell the difference.

**Simulation.**  From the tick on, the recognizer that has given its attempt up and the one that
still has it are `Lapsed`: one is idle, the attempt of the other is overdue, and both have seen the
same pointers.  Whatever both make the same attempt of, a landing above all, leaves them `Alike`:
they differ in the reason of the last abandonment only.

**Results.**
* `Lapsed.serve`: one moment, of recognizers.
* `expired_as_waiting`: all continuations, from every state of a run.
-/

namespace ExitGesture

/-- A moment is no reload, and it tells no time before `now`. -/
def Moment.Timely (now : Time) (m : Moment) : Prop :=
  m.request ≠ .reload ∧ ∀ time, m.time? = some time → now ≤ time

/-! ### Trackers -/

/-- After the pairing window a landing takes the place of the first pointer, and nothing else goes
on with it. -/
theorem PairHold.react_of_expired {v : View} {s : Stimulus} {first : Contact} (region : Region)
    (late : v.config.pairTimeout.millis < s.time - first.time) :
    let p : Phase := .awaitingSecond first
    (∃ c gap, s = .motion .land c ∧
      react region v p s = (.awaitingSecond c, .restart gap)) ∨
    s.LandsNone ∧
      (react region v p s = (p, .proceed false) ∨
        ∃ why, react region v p s = (p, .abandon why)) := by
  have expired : expired v first s.time = true := decide_eq_true late
  intro p
  cases s with
  | tick now =>
      exact Or.inr ⟨trivial, Or.inr ⟨.pairingTimeout, by simpa [p, react, tick] using expired⟩⟩
  | motion k c =>
      replace expired : PairHold.expired v first c.time = true := expired
      cases k with
      | land =>
          exact Or.inl ⟨c, c.time - first.time, rfl, by simp [p, react, step, land, expired]⟩
      | move =>
          by_cases same : c.pointer = first.pointer
          · exact Or.inr ⟨trivial, Or.inr ⟨.pairingTimeout,
              by simp [p, react, step, move, same, expired]⟩⟩
          · exact Or.inr ⟨trivial, Or.inl (by simp [p, react, step, move, same])⟩
      | lift =>
          by_cases same : c.pointer = first.pointer
          · exact Or.inr ⟨trivial, Or.inr ⟨.pointerLifted, by simp [p, react, step, lift, same]⟩⟩
          · exact Or.inr ⟨trivial, Or.inl (by simp [p, react, step, lift, same])⟩

/-- After the gap between taps a landing is a first tap, and nothing else goes on with the row. -/
theorem TripleTap.react_of_overdue {v : View} {s : Stimulus} {lastDown : Time} (anchor : Point)
    (completed : Nat) (late : v.config.tapTimeout.millis < s.time - lastDown) :
    let p : Phase := .tapping anchor lastDown completed none
    (∃ c, s = .motion .land c ∧ react v p s = (start c, .proceed false)) ∨
      s.LandsNone ∧
        (react v p s = (p, .proceed false) ∨ react v p s = (p, .abandon .tapTimeout)) := by
  have overdue : overdue v lastDown s.time = true := decide_eq_true late
  intro p
  cases s with
  | tick now => exact Or.inr ⟨trivial, Or.inr (by simpa [p, react, tick] using overdue)⟩
  | motion k c =>
      replace overdue : TripleTap.overdue v lastDown c.time = true := overdue
      cases k with
      | land => exact Or.inl ⟨c, rfl, by simp [p, react, step, land, overdue]⟩
      | move => exact Or.inr ⟨trivial, Or.inl rfl⟩
      | lift => exact Or.inr ⟨trivial, Or.inl rfl⟩

namespace Tracker

variable {v : View} {τ : Tracker} {s : Stimulus} {now : Time}

/-- What an attempt waits for would come too late. -/
inductive Overdue (c : Config) (now : Time) : Tracker → Prop
  | pair {region : PairHold.Region} {first : Contact}
      (late : c.pairTimeout.millis < now - first.time) :
      Overdue c now (.pairHold region (.awaitingSecond first))
  | taps {anchor : Point} {lastDown : Time} {completed : Nat}
      (late : c.tapTimeout.millis < now - lastDown) :
      Overdue c now (.tripleTap (.tapping anchor lastDown completed none))

/-- The attempt waits for a second pointer, or for another tap. -/
def Waits (τ : Tracker) : Prop :=
  τ.awaiting = some .secondPointer ∨ ∃ n, τ.awaiting = some (.taps n) ∧ τ.tracked = []

theorem Waits.begun (waits : τ.Waits) : τ.stage ≠ .idle := by
  intro idle
  rw [stage_eq_idle_iff.1 idle] at waits
  rcases waits with second | ⟨n, taps, _⟩
  · rcases τ with ⟨⟨⟩, p⟩ | p | p <;> cases second
  · rcases τ with ⟨⟨⟩, p⟩ | p | p <;> cases taps

/-- A tick gives up an attempt that waits exactly if it is overdue. -/
theorem Waits.tick (waits : τ.Waits) (v : View) (now : Time) :
    τ.tick v now = (τ, .proceed false) ∨
      τ.Overdue v.config now ∧ ∃ why, τ.tick v now = (τ, .abandon why) := by
  cases τ with
  | pairHold region p =>
      cases p with
      | awaitingSecond first =>
          by_cases late : v.config.pairTimeout.millis < now - first.time
          · exact Or.inr ⟨.pair late, .pairingTimeout,
              by simp [Tracker.tick, PairHold.tick, PairHold.expired, late]⟩
          · exact Or.inl (by simp [Tracker.tick, PairHold.tick, PairHold.expired, late])
      | idle => simp [Waits, awaiting, PairHold.Phase.awaiting] at waits
      | holding first second timer => simp [Waits, awaiting, PairHold.Phase.awaiting] at waits
  | edgeDrag p => cases p <;> simp [Waits, awaiting, EdgeDrag.Phase.awaiting] at waits
  | tripleTap p =>
      cases p with
      | idle => simp [Waits, awaiting, TripleTap.Phase.awaiting] at waits
      | tapping anchor lastDown completed pressed =>
          cases pressed with
          | some press =>
              simp [Waits, awaiting, TripleTap.Phase.awaiting, tracked, TripleTap.Phase.tracked?]
                at waits
          | none =>
              by_cases late : v.config.tapTimeout.millis < now - lastDown
              · exact Or.inr ⟨.taps late, .tapTimeout,
                  by simp [Tracker.tick, TripleTap.tick, TripleTap.overdue, late]⟩
              · exact Or.inl (by simp [Tracker.tick, TripleTap.tick, TripleTap.overdue, late])

/-- The attempt is neither held nor on its way to an edge. -/
def Unengaged (τ : Tracker) : Prop := τ.stage ≠ .active ∧ τ.awaiting ≠ some .edge

theorem unengaged_landed (c : Contact) (g : Gesture) : (landed c g).Unengaged := by
  cases g <;> exact ⟨Stage.noConfusion, fun edge => by cases edge⟩

theorem unengaged_cleared (τ : Tracker) : τ.cleared.Unengaged := by
  refine ⟨by simp [stage_cleared], ?_⟩
  rcases τ with ⟨⟨⟩, p⟩ | p | p <;> exact fun edge => by cases edge

theorem Overdue.unengaged {c : Config} (overdue : τ.Overdue c now) : τ.Unengaged := by
  cases overdue <;> exact ⟨Stage.noConfusion, fun edge => by cases edge⟩

/-- A landing begins another attempt in the place of an overdue one; anything else is passed by or
gives it up. -/
theorem Overdue.react_cases (overdue : τ.Overdue v.config now) (after : now ≤ s.time) :
    (∃ c w, s = .motion .land c ∧ τ.react v s = (landed c τ.gesture, w) ∧ w.lasts = true ∧
      w.tells = []) ∨
    s.LandsNone ∧ (τ.react v s = (τ, .proceed false) ∨ ∃ why, τ.react v s = (τ, .abandon why)) := by
  cases overdue with
  | @pair region first late =>
      rcases PairHold.react_of_expired region
        (Nat.lt_of_lt_of_le late (Nat.sub_le_sub_right after _))
        with ⟨c, gap, rfl, replaces⟩ | ⟨none_lands, passes | ⟨why, gives_up⟩⟩
      · refine Or.inl ⟨c, .restart gap, rfl, ?_, rfl, rfl⟩
        rw [PairHold.tracker_react_eq replaces]
        cases region <;> rfl
      · exact Or.inr ⟨none_lands, Or.inl (PairHold.tracker_react_eq passes)⟩
      · exact Or.inr ⟨none_lands, Or.inr ⟨why, PairHold.tracker_react_eq gives_up⟩⟩
  | @taps anchor lastDown completed late =>
      rcases TripleTap.react_of_overdue anchor completed
        (Nat.lt_of_lt_of_le late (Nat.sub_le_sub_right after _))
        with ⟨c, rfl, begins⟩ | ⟨none_lands, passes | gives_up⟩
      · exact Or.inl ⟨c, .proceed false, rfl, TripleTap.tracker_react_eq begins, rfl, rfl⟩
      · exact Or.inr ⟨none_lands, Or.inl (TripleTap.tracker_react_eq passes)⟩
      · exact Or.inr ⟨none_lands, Or.inr ⟨.tapTimeout, TripleTap.tracker_react_eq gives_up⟩⟩

/-- A stimulus tells nothing of an overdue attempt.  It takes it to where it takes none at all, or
leaves both as they are. -/
theorem Overdue.react (overdue : τ.Overdue v.config now) (after : now ≤ s.time) :
    (τ.react v s).2.tells = [] ∧
      ((∃ τ', τ'.Unengaged ∧ settled (τ.react v s) = τ' ∧ settled (τ.cleared.react v s) = τ') ∨
        settled (τ.react v s) = τ ∧ settled (τ.cleared.react v s) = τ.cleared) := by
  have rests (none_lands : s.LandsNone) : settled (τ.cleared.react v s) = τ.cleared := by
    rw [react_of_idle (stage_cleared τ) none_lands]
    rfl
  rcases overdue.react_cases after with
    ⟨c, w, rfl, lands, lasts, untold⟩ | ⟨none_lands, passes | ⟨why, gives_up⟩⟩
  · refine ⟨by rw [lands]; exact untold, Or.inl ⟨_, unengaged_landed c τ.gesture, ?_, ?_⟩⟩
    · rw [lands, settled_of_lasts lasts]
    · show settled (τ.cleared.step v .land c) = _
      rw [cleared, land_ofGesture]
      rfl
  · rw [passes]
    exact ⟨rfl, Or.inr ⟨rfl, rests none_lands⟩⟩
  · rw [gives_up]
    exact ⟨rfl, Or.inl ⟨_, unengaged_cleared τ, rfl, rests none_lands⟩⟩

end Tracker

/-! ### Recognizers -/

namespace Recognizer

variable {r eager lazy : Recognizer} {c : Config} {τ : Tracker} {now : Time} {m : Moment} {h : Host}
  {t : Touch}

/-- Two recognizers that differ in the reason of the last abandonment at most. -/
def Alike (eager lazy : Recognizer) : Prop := ∃ reason, eager = { lazy with lastAbandon := reason }

/-- The reason of the last abandonment decides nothing. -/
theorem Alike.serve (alike : eager.Alike lazy) (m : Moment) :
    (eager.serve m).answer = (lazy.serve m).answer ∧
      (eager.serve m).signals = (lazy.serve m).signals ∧ (eager.after m).Alike (lazy.after m) := by
  obtain ⟨reason, rfl⟩ := alike
  -- both are one recognizer without a record, with two pasts
  let core := { lazy with triggers := 0, lastAbandon := none }
  have at_lazy := serve_following lazy core m
  have at_eager := serve_following { lazy with lastAbandon := reason } core m
  have eager_eq : following { lazy with lastAbandon := reason } core =
      { lazy with lastAbandon := reason } := rfl
  have lazy_eq : following lazy core = lazy := rfl
  rw [eager_eq] at at_eager
  rw [lazy_eq] at at_lazy
  rw [after, after, at_eager, at_lazy]
  exact ⟨rfl, rfl, _, rfl⟩

theorem alike_of_pursues (at_eager : eager.Pursues c τ) (at_lazy : lazy.Pursues c τ)
    (counted : eager.onSurface = lazy.onSurface) (triggers : eager.triggers = lazy.triggers) :
    eager.Alike lazy := by
  have config := at_eager.config.trans at_lazy.config.symm
  have measured : eager.surface = lazy.surface := by
    rw [at_eager.wellFormed.surface, at_lazy.wellFormed.surface, config]
  have tracker := at_eager.tracker.trans at_lazy.tracker.symm
  have opened := at_eager.opened.trans at_lazy.opened.symm
  refine ⟨eager.lastAbandon, ?_⟩
  cases eager
  cases lazy
  simp_all

/-- One recognizer has given an attempt up that is overdue, and the other one still has it. -/
structure Lapsed (now : Time) (c : Config) (τ : Tracker) (eager lazy : Recognizer) : Prop where
  overdue : τ.Overdue c now
  at_eager : eager.Pursues c τ.cleared
  at_lazy : lazy.Pursues c τ
  onSurface : eager.onSurface = lazy.onSurface
  triggers : eager.triggers = lazy.triggers

theorem not_fires_of_untold (untold : told (r.serve m).signals = []) : ¬ r.Fires m := by
  intro fires
  have mem : Signal.triggered ∈ told (r.serve m).signals := (mem_told_iff rfl).2 fires
  rw [untold] at mem
  cases mem

theorem triggers_of_untold (untold : told (r.serve m).signals = []) :
    (r.after m).triggers = r.triggers := by
  rw [triggers_after, count_triggered_serve, if_neg (not_fires_of_untold untold), Nat.add_zero]

/-- A touch of a recognizer that is left unengaged, and does not fire, is not consumed. -/
theorem answer_of_unengaged (untold : told (r.serve ⟨h, .touch t⟩).signals = [])
    (unengaged : (r.after ⟨h, .touch t⟩).tracker.Unengaged) : (r.touch h t).answer = false := by
  by_contra consumed
  rw [Bool.not_eq_false] at consumed
  rcases engaged_of_answer consumed with fires | active | edge
  · exact not_fires_of_untold untold fires
  · exact unengaged.1 active
  · exact unengaged.2 edge

namespace Pursues

/-- What exploration owns leaves an attempt as it is. -/
theorem explored (pursues : r.Pursues c τ) (exploring : h.exploring = true) :
    (∀ t, (r.after ⟨h, .touch t⟩).Pursues c τ) ∧ ∀ time, (r.after ⟨h, .tick time⟩).Pursues c τ := by
  obtain ⟨wf, config, opened, tracker⟩ := pursues
  constructor
  · intro t
    have eq : r.after ⟨h, .touch t⟩ = { r with onSurface := pointersAfter r.onSurface t } := by
      show (r.touch h t).state = _
      rw [touch_exploring exploring]
      rfl
    exact ⟨wf.after _, by rw [eq]; exact config, by rw [eq]; exact opened,
      by rw [eq]; exact tracker⟩
  · intro time
    have eq : r.after ⟨h, .tick time⟩ = r := by
      show (r.tick h time).state = _
      rw [tick_exploring exploring]
      rfl
    rw [eq]
    exact ⟨wf, config, opened, tracker⟩

theorem reset (pursues : r.Pursues c τ) (h : Host) :
    (r.after ⟨h, .reset⟩).Pursues c τ.cleared := by
  have state : r.after ⟨h, .reset⟩ =
      ({ r with onSurface := [], latched := false }.abandon .requested).state := rfl
  refine ⟨pursues.wellFormed.after _, ?_, ?_, ?_⟩
  · rw [state, state_abandon]
    exact pursues.config
  · rw [state, state_abandon]
  · rw [state, state_abandon]
    exact congrArg Tracker.cleared pursues.tracker

end Pursues

/-- The first landing of a stream takes the place of an attempt that is overdue. -/
theorem steps_of_overdue (pursues : lazy.Pursues c τ) (overdue : τ.Overdue c now)
    (down : t.kind = .down) (after : now ≤ t.time) (h : Host) :
    ((lazy.counted t).readied t).tracker.step (h.view lazy.config) .land t.contact =
      (.landed t.contact c.gesture, .proceed false) := by
  have wf := pursues.wellFormed
  cases overdue with
  | @pair region first late =>
      have tracked : lazy.tracked ≠ [] := by
        rw [Recognizer.tracked, pursues.tracker]
        exact List.cons_ne_nil _ _
      rw [readied_of_down wf (Or.inr tracked) down, pursues.config]
      exact Tracker.land_ofGesture c.gesture (h.view c) t.contact
  | @taps anchor lastDown completed late =>
      have untracked : (lazy.counted t).tracked = [] := by
        show lazy.tracker.tracked = []
        rw [pursues.tracker]
        rfl
      have gesture : c.gesture = .tripleTapDebug := by
        rw [← pursues.config, ← wf.gesture, pursues.tracker]
        rfl
      have overdue : TripleTap.overdue (h.view c) lastDown t.contact.time = true :=
        decide_eq_true (Nat.lt_of_lt_of_le late (Nat.sub_le_sub_right after _))
      rw [readied, if_neg (fun both => both.2 untracked), pursues.config, gesture]
      show lazy.tracker.step (h.view c) .land t.contact = _
      rw [pursues.tracker]
      simp [Tracker.step, TripleTap.step, TripleTap.land, overdue, Tracker.landed]

/-- Where a moment leaves both: with one attempt, or where they were. -/
def Leaves (c : Config) (τ : Tracker) (eager lazy : Recognizer) : Prop :=
  (∃ τ', τ'.Unengaged ∧ eager.Pursues c τ' ∧ lazy.Pursues c τ') ∨
    eager.Pursues c τ.cleared ∧ lazy.Pursues c τ

theorem leaves_of_cleared (at_eager : eager.Pursues c τ.cleared.cleared)
    (at_lazy : lazy.Pursues c τ.cleared) : Leaves c τ eager lazy := by
  have twice : τ.cleared.cleared = τ.cleared := by
    rw [Tracker.cleared, Tracker.gesture_cleared]
    rfl
  exact Or.inl ⟨_, Tracker.unengaged_cleared τ, twice ▸ at_eager, at_lazy⟩

namespace Lapsed

variable (lapsed : Lapsed now c τ eager lazy)
include lapsed

theorem untold (timely : m.Timely now) :
    told (eager.serve m).signals = [] ∧ told (lazy.serve m).signals = [] := by
  obtain ⟨overdue, at_eager, at_lazy, _⟩ := lapsed
  rw [told_serve at_eager.wellFormed, told_serve at_lazy.wellFormed]
  cases heard : m.stimulus? with
  | none => exact ⟨rfl, rfl⟩
  | some s =>
      have after : now ≤ s.time := timely.2 _ (Moment.time?_of_heard heard)
      rw [at_eager.tracker, at_eager.config, at_lazy.tracker, at_lazy.config]
      constructor
      · rw [Option.elim_some, Tracker.proceed_of_idle (Tracker.stage_cleared τ)]
        rfl
      · exact (overdue.react (v := m.host.view c) after).1

/-- A stimulus that both hear in the stream that is under way. -/
theorem perceive {s : Stimulus} (timely : m.Timely now) (heard : m.stimulus? = some s)
    (joins : m.Joins eager) (joins' : m.Joins lazy) :
    Leaves c τ (eager.after m) (lazy.after m) := by
  obtain ⟨overdue, at_eager, at_lazy, _⟩ := lapsed
  obtain ⟨untold, settled⟩ := overdue.react (v := m.host.view c)
    (timely.2 _ (Moment.time?_of_heard heard))
  have silent : (τ.react (m.host.view c) s).2 ≠ .complete := by
    intro complete
    simp [complete, Verdict.tells] at untold
  have silent' : (τ.cleared.react (m.host.view c) s).2 ≠ .complete := by
    simp [Tracker.proceed_of_idle (Tracker.stage_cleared τ)]
  have settled_eager := at_eager.settles heard joins silent'
  have settled_lazy := at_lazy.settles heard joins' silent
  rcases settled with ⟨τ', unengaged, eq, eq'⟩ | ⟨eq, eq'⟩
  · exact Or.inl ⟨τ', unengaged, eq' ▸ settled_eager, eq ▸ settled_lazy⟩
  · exact Or.inr ⟨eq' ▸ settled_eager, eq ▸ settled_lazy⟩

/-- The first landing of a stream begins one attempt for both. -/
theorem land_down (listening : h.exploring = false) (down : t.kind = .down) (after : now ≤ t.time) :
    Leaves c τ (eager.after ⟨h, .touch t⟩) (lazy.after ⟨h, .touch t⟩) := by
  obtain ⟨overdue, at_eager, at_lazy, _⟩ := lapsed
  have idle : eager.stage = .idle := by
    rw [Recognizer.stage, at_eager.tracker]
    exact Tracker.stage_cleared τ
  have steps : ((eager.counted t).readied t).tracker.step (h.view eager.config) .land
      t.contact = (.landed t.contact c.gesture, .proceed false) := by
    rw [readied_of_down at_eager.wellFormed (Or.inl idle) down, at_eager.config]
    exact Tracker.land_ofGesture _ _ _
  have begun := (pursues_down at_eager.wellFormed listening down steps).2.2
  have begun' := (pursues_down at_lazy.wellFormed listening down
    (steps_of_overdue at_lazy overdue down after h)).2.2
  rw [at_eager.config] at begun
  rw [at_lazy.config] at begun'
  exact Or.inl ⟨_, Tracker.unengaged_landed _ _, begun, begun'⟩

theorem hear_touch (timely : Moment.Timely now ⟨h, .touch t⟩) (listening : h.exploring = false) :
    Leaves c τ (eager.after ⟨h, .touch t⟩) (lazy.after ⟨h, .touch t⟩) := by
  have crowded_iff : (eager.counted t).Crowded ↔ (lazy.counted t).Crowded := by
    simp only [Crowded, Recognizer.counted, lapsed.onSurface, lapsed.at_eager.config,
      lapsed.at_lazy.config]
  rcases Moment.joins_cases eager h t with down | ends | ⟨k, motion, joins⟩
  · exact lapsed.land_down listening down (timely.2 _ rfl)
  · have ends' : t.kind = .cancel ∨ t.kind = .pointerDown ∧ (lazy.counted t).Crowded := by
      rwa [crowded_iff] at ends
    exact leaves_of_cleared (lapsed.at_eager.given_up listening ends).2
      (lapsed.at_lazy.given_up listening ends').2
  · have heard : Moment.stimulus? ⟨h, .touch t⟩ = some (.motion k t.contact) := by
      simp [Moment.stimulus?, listening, motion]
    refine lapsed.perceive timely heard joins ?_
    rintro _ ⟨⟩
    obtain ⟨not_down, few⟩ := joins t rfl
    exact ⟨not_down, fun further many => few further (crowded_iff.2 many)⟩

theorem leaves (timely : m.Timely now) : Leaves c τ (eager.after m) (lazy.after m) := by
  have at_eager := lapsed.at_eager
  have at_lazy := lapsed.at_lazy
  obtain ⟨h, q⟩ := m
  cases q with
  | reset => exact leaves_of_cleared (at_eager.reset h) (at_lazy.reset h)
  | reload => exact absurd rfl timely.1
  | touch t =>
      cases exploring : h.exploring with
      | true => exact Or.inr ⟨(at_eager.explored exploring).1 t, (at_lazy.explored exploring).1 t⟩
      | false => exact lapsed.hear_touch timely exploring
  | tick time =>
      cases exploring : h.exploring with
      | true =>
          exact Or.inr ⟨(at_eager.explored exploring).2 time, (at_lazy.explored exploring).2 time⟩
      | false =>
          have heard : Moment.stimulus? ⟨h, .tick time⟩ = some (.tick time) := by
            simp [Moment.stimulus?, exploring]
          exact lapsed.perceive timely heard (fun t asked => by cases asked)
            fun t asked => by cases asked

theorem onSurface_serve (m : Moment) : (eager.after m).onSurface = (lazy.after m).onSurface := by
  rw [onSurface_after, onSurface_after, lapsed.onSurface]

theorem unengaged (timely : m.Timely now) :
    (eager.after m).tracker.Unengaged ∧ (lazy.after m).tracker.Unengaged := by
  rcases lapsed.leaves timely with ⟨τ', unengaged, at_eager, at_lazy⟩ | ⟨at_eager, at_lazy⟩
  · rw [at_eager.tracker, at_lazy.tracker]
    exact ⟨unengaged, unengaged⟩
  · rw [at_eager.tracker, at_lazy.tracker]
    exact ⟨Tracker.unengaged_cleared τ, lapsed.overdue.unengaged⟩

theorem answer_serve (timely : m.Timely now) :
    (eager.serve m).answer = (lazy.serve m).answer := by
  obtain ⟨untold, untold'⟩ := lapsed.untold timely
  obtain ⟨unengaged, unengaged'⟩ := lapsed.unengaged timely
  obtain ⟨h, q⟩ := m
  cases q with
  | touch t =>
      show Session.Reply.consumed (eager.touch h t).answer = .consumed (lazy.touch h t).answer
      rw [answer_of_unengaged untold unengaged, answer_of_unengaged untold' unengaged']
  | tick time =>
      have silent : (eager.tick h time).answer = false := by
        simpa using mt (tick_fires eager h time).1.1 (not_fires_of_untold untold)
      have silent' : (lazy.tick h time).answer = false := by
        simpa using mt (tick_fires lazy h time).1.1 (not_fires_of_untold untold')
      show Session.Reply.fired (eager.tick h time).answer = .fired (lazy.tick h time).answer
      rw [silent, silent']
  | reset => rfl
  | reload => exact absurd rfl timely.1

/-- One moment: nobody can tell which of the two has been asked. -/
theorem serve (timely : m.Timely now) :
    (eager.serve m).answer = (lazy.serve m).answer ∧
      told (eager.serve m).signals = told (lazy.serve m).signals ∧
      ((eager.after m).Alike (lazy.after m) ∨
        Lapsed now c τ (eager.after m) (lazy.after m)) := by
  obtain ⟨untold, untold'⟩ := lapsed.untold timely
  have counted := lapsed.onSurface_serve m
  have triggers : (eager.after m).triggers = (lazy.after m).triggers := by
    rw [triggers_of_untold untold, triggers_of_untold untold', lapsed.triggers]
  refine ⟨lapsed.answer_serve timely, untold.trans untold'.symm, ?_⟩
  rcases lapsed.leaves timely with ⟨τ', _, at_eager, at_lazy⟩ | ⟨at_eager, at_lazy⟩
  · exact Or.inl (alike_of_pursues at_eager at_lazy counted triggers)
  · exact Or.inr ⟨lapsed.overdue, at_eager, at_lazy, counted, triggers⟩

end Lapsed

/-- Two recognizers that nobody can tell apart from `now` on. -/
def Indistinct (now : Time) (eager lazy : Recognizer) : Prop :=
  eager.Alike lazy ∨ ∃ c τ, Lapsed now c τ eager lazy

namespace Indistinct

theorem serve (indistinct : Indistinct now eager lazy) (timely : m.Timely now) :
    (eager.serve m).answer = (lazy.serve m).answer ∧
      told (eager.serve m).signals = told (lazy.serve m).signals ∧
      Indistinct now (eager.after m) (lazy.after m) := by
  rcases indistinct with alike | ⟨c, τ, lapsed⟩
  · obtain ⟨answer, signals, still⟩ := alike.serve m
    exact ⟨answer, congrArg told signals, Or.inl still⟩
  · obtain ⟨answer, untold, left⟩ := lapsed.serve timely
    exact ⟨answer, untold, left.imp_right fun still => ⟨c, τ, still⟩⟩

theorem run (indistinct : Indistinct now eager lazy) {later : List Moment}
    (timely : ∀ m ∈ later, m.Timely now) : Indistinct now (eager.run later) (lazy.run later) := by
  induction later generalizing eager lazy with
  | nil => exact indistinct
  | cons m rest ih =>
      obtain ⟨timely_now, timely_later⟩ := List.forall_mem_cons.1 timely
      exact ih (indistinct.serve timely_now).2.2 timely_later

theorem counts (indistinct : Indistinct now eager lazy) :
    eager.triggers = lazy.triggers ∧ eager.onSurface = lazy.onSurface := by
  rcases indistinct with ⟨reason, rfl⟩ | ⟨c, τ, lapsed⟩
  · exact ⟨rfl, rfl⟩
  · exact ⟨lapsed.triggers, lapsed.onSurface⟩

end Indistinct

/-- A tick that ends an attempt that waits leaves nobody a way to tell. -/
theorem indistinct_of_tick (wf : r.WellFormed) (waits : r.tracker.Waits)
    (given_up : (r.after ⟨h, .tick now⟩).stage = .idle) :
    Indistinct now (r.after ⟨h, .tick now⟩) r := by
  replace given_up : (r.tick h now).state.stage = .idle := given_up
  rcases tick_cases r h now with ⟨_, eq⟩ | ⟨opened, listening, _⟩
  · rw [eq] at given_up
    exact absurd given_up waits.begun
  · have at_lazy : r.Pursues r.config r.tracker := ⟨wf, rfl, opened, rfl⟩
    rcases waits.tick (h.view r.config) now with passes | ⟨overdue, why, gives_up⟩
    · have silent : (r.tracker.tick (h.view r.config) now).2 ≠ .complete := by simp [passes]
      have stays := at_lazy.settled_tick listening silent
      rw [passes] at stays
      rw [Recognizer.stage, stays.tracker] at given_up
      exact absurd given_up waits.begun
    · have silent : (r.tracker.tick (h.view r.config) now).2 ≠ .complete := by simp [gives_up]
      have at_eager := at_lazy.settled_tick listening silent
      have untold : told (r.serve ⟨h, .tick now⟩).signals = [] := by
        rw [told_serve wf]
        simp [Moment.stimulus?, listening, Tracker.react, gives_up, Verdict.tells]
      rw [gives_up] at at_eager
      exact Or.inr ⟨_, _, overdue, at_eager, at_lazy, onSurface_tick, triggers_of_untold untold⟩

/-- It makes no difference when an attempt that waits for a second pointer, or for another tap, is
found to be too late.  If a tick gives it up, then whatever follows and tells no earlier time is
answered as it is without the tick, and the listener is told the same. -/
theorem expired_as_waiting (c : Config) (history : List Moment) {h : Host} {now : Time}
    (waits : ((ofConfig c).run history).tracker.Waits)
    (given_up : (((ofConfig c).run history).after ⟨h, .tick now⟩).stage = .idle)
    {later : List Moment} {n : Moment} (timely : ∀ m ∈ later ++ [n], m.Timely now) :
    let r := (ofConfig c).run history
    let eager := (r.after ⟨h, .tick now⟩).run later
    let lazy := r.run later
    (eager.serve n).answer = (lazy.serve n).answer ∧
      told (eager.serve n).signals = told (lazy.serve n).signals ∧
      (eager.after n).triggers = (lazy.after n).triggers ∧
      (eager.after n).onSurface = (lazy.after n).onSurface := by
  intro r eager lazy
  have wf : r.WellFormed := (WellFormed.ofConfig c).run history
  obtain ⟨timely_later, timely_n⟩ := List.forall_mem_append.1 timely
  have indistinct : Indistinct now eager lazy :=
    (indistinct_of_tick wf waits given_up).run timely_later
  obtain ⟨answer, tells, still⟩ := indistinct.serve (timely_n n (List.mem_singleton_self n))
  exact ⟨answer, tells, still.counts⟩

/-- A first pointer is given up by a tick.  Its partner lands late and is a first pointer itself,
and the pair that it makes with the next one fires. -/
theorem expired_as_waiting_corners :
    let host : Host := .phone .oppositeCornersHold
    let c : Config := .forScreen .oppositeCornersHold 1080 1920
    let history := host.touches [⟨.down, 0, ⟨10, 10⟩, 0⟩]
    let later := host.touches
      [⟨.pointerDown, 1, ⟨1070, 1910⟩, 260⟩, ⟨.pointerUp, 0, ⟨10, 10⟩, 270⟩,
        ⟨.pointerDown, 2, ⟨10, 10⟩, 300⟩]
    let n : Moment := ⟨host, .tick 2800⟩
    let r := (ofConfig c).run history
    let eager := (r.after ⟨host, .tick 260⟩).run later
    let lazy := r.run later
    r.tracker.Waits ∧ (r.after ⟨host, .tick 260⟩).stage = .idle ∧
      (∀ m ∈ later ++ [n], m.Timely 260) ∧ lazy.Fires n ∧
      (eager.serve n).answer = (lazy.serve n).answer ∧
      told (eager.serve n).signals = told (lazy.serve n).signals ∧
      (eager.after n).triggers = (lazy.after n).triggers ∧
      (eager.after n).onSurface = (lazy.after n).onSurface := by
  intro host c history later n r eager lazy
  have waits : r.tracker.Waits := Or.inl (by decide +kernel)
  have given_up : (r.after ⟨host, .tick 260⟩).stage = .idle := by decide +kernel
  have timely : ∀ m ∈ later ++ [n], m.Timely 260 := by
    simp [later, n, Host.touches, Moment.Timely, Moment.time?, Touch.time]
  exact ⟨waits, given_up, timely, by decide +kernel,
    expired_as_waiting c history waits given_up timely⟩

end Recognizer
end ExitGesture
