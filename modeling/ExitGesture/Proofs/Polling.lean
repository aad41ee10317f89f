import ExitGesture.Proofs.Completeness.Basic
import ExitGesture.Proofs.Protocol
import ExitGesture.Proofs.Renewal

/-!
# Ticks cost no trigger

A host may let time pass by ticks, or leave it to the next touch to tell the time.  Ticks make a
difference: one may give up a first pointer whose partner is late, and one may complete a hold.  A
recognizer that is not polled finds out later, and the two drift apart.

**Simulation.**  From the first landing of a stream until the polled recognizer fires, the other one
`Trails` it: both are in one phase, but for the time of the last pulse, or the polled one has given
up a first pointer that is overdue and the other one still has it.  A late partner replaces an
overdue pointer, so that it is a first pointer for both.

**Results.**
* `blank_of_ends`: the end of a stream leaves nothing to disagree about.
* `fires_polled`: no trigger is lost by ticks, for every script and all ways to poll.
-/

namespace ExitGesture

/-! ### Phases -/

namespace PairHold

/-- The phase of a recognizer that is polled, and the phase that it would be in without. -/
inductive Trails (c : Config) (now : Time) : Phase → Phase → Prop
  | same (p : Phase) : Trails c now p p
  | held {first second : Contact} {timer timer' : HoldTimer} (since : timer'.since = timer.since) :
      Trails c now (.holding first second timer) (.holding first second timer')
  | overdue {first : Contact} (late : c.pairTimeout.millis < now - first.time) :
      Trails c now .idle (.awaitingSecond first)

/-- Where a verdict leaves the phase that has come to it. -/
def settled (step : Phase × Verdict) : Phase := if step.2.lasts then step.1 else .idle

theorem tracker_settled (region : Region) (step : Phase × Verdict) :
    Tracker.settled (step.map (.pairHold region) id) = .pairHold region (settled step) := by
  unfold Tracker.settled settled
  by_cases lasts : step.2.lasts = true
  · simp [lasts]
  · cases region <;> simp [lasts, Tracker.cleared, Tracker.gesture, Tracker.ofGesture]

namespace Trails

variable {v : View} {now : Time} {p q : Phase}

theorem later (trails : Trails v.config now p q) {now' : Time} (after : now ≤ now') :
    Trails v.config now' p q := by
  cases trails with
  | same => exact .same p
  | held since => exact .held since
  | overdue late => exact .overdue (Nat.lt_of_lt_of_le late (Nat.sub_le_sub_right after _))

/-- A pointer that is overdue stays overdue. -/
theorem expired_of_late {first : Contact} (late : v.config.pairTimeout.millis < now - first.time)
    {time : Time} (after : now ≤ time) : expired v first time = true :=
  decide_eq_true (Nat.lt_of_lt_of_le late (Nat.sub_le_sub_right after _))

end Trails

/-- Two steps that cost no trigger: what fires without ticks fires with them, and until then the one
goes on to trail the other. -/
structure Matched (c : Config) (now : Time) (polled plain : Phase × Verdict) : Prop where
  fires : plain.2 = .complete → polled.2 = .complete
  trails : polled.2 ≠ .complete → Trails c now (settled polled) (settled plain)

namespace Matched

variable {v : View} {now : Time} {p q : Phase}

theorem of_quiet {c : Config} {w w' : Verdict} (quiet : w' ≠ .complete)
    (trails : Trails c now (settled (p, w)) (settled (q, w'))) :
    Matched c now (p, w) (q, w') where
  fires complete := absurd complete quiet
  trails _ := trails

/-- Two looks at the clock of two holds that began together. -/
theorem advance (first second : Contact) {timer timer' : HoldTimer}
    (since : timer'.since = timer.since) (time : Time) :
    Matched v.config time
      (.holding first second (timer.advance v.config time).1, (timer.advance v.config time).2)
      (.holding first second (timer'.advance v.config time).1,
        (timer'.advance v.config time).2) := by
  have together : (timer'.advance v.config time).2 = .complete ↔
      (timer.advance v.config time).2 = .complete := by
    rw [HoldTimer.advance_complete_iff, HoldTimer.advance_complete_iff, since]
  refine ⟨together.1, fun silent => ?_⟩
  have lasts := HoldTimer.lasts_advance silent
  have lasts' := HoldTimer.lasts_advance (mt together.1 silent)
  rw [settled, settled, if_pos lasts, if_pos lasts']
  exact .held (by rw [HoldTimer.advance_since, HoldTimer.advance_since, since])

end Matched

namespace Trails

variable {v : View} {now : Time} {p q : Phase}

/-- One motion of both. -/
theorem step (trails : Trails v.config now p q) (region : Region) (k : Touch.Motion) {c : Contact}
    (after : now ≤ c.time) :
    Matched v.config c.time (PairHold.step region v p k c) (PairHold.step region v q k c) := by
  cases trails with
  | same => exact ⟨id, fun _ => .same _⟩
  | @held first second timer timer' since =>
      cases k with
      | land => exact .of_quiet (by simp) (.same .idle)
      | move =>
          by_cases strayed : ([first, second].find? (·.pointer = c.pointer)).any
              (fun anchor => v.strays (anchor.drift c)) = true
          · simp only [PairHold.step, move, strayed, if_true]
            exact .of_quiet (by simp) (.same .idle)
          · simp only [PairHold.step, move, strayed, Bool.false_eq_true, if_false]
            exact .advance first second since c.time
      | lift =>
          by_cases touched : c.pointer = first.pointer ∨ c.pointer = second.pointer
          · simp only [PairHold.step, lift, touched, if_true]
            exact .of_quiet (by simp) (.same .idle)
          · simp only [PairHold.step, lift, touched, if_false]
            exact .of_quiet (by simp) (.held since)
  | @overdue first late =>
      have expired : expired v first c.time = true := expired_of_late late after
      have goes_on : Trails v.config c.time .idle (.awaitingSecond first) :=
        (Trails.overdue late).later after
      cases k with
      | land =>
          -- the late partner takes the place of the overdue pointer
          simp only [PairHold.step, land, expired, or_true, if_true]
          exact .of_quiet (by simp) (.same (.awaitingSecond c))
      | move =>
          by_cases same : c.pointer = first.pointer
          · simp only [PairHold.step, move, same, expired, ne_eq, not_true_eq_false, if_true,
              if_false]
            exact .of_quiet (by simp) (.same .idle)
          · simp only [PairHold.step, move, same, ne_eq, not_false_eq_true, if_true]
            exact .of_quiet (by simp) goes_on
      | lift =>
          by_cases same : c.pointer = first.pointer
          · simp only [PairHold.step, lift, same, if_true]
            exact .of_quiet (by simp) (.same .idle)
          · simp only [PairHold.step, lift, same, if_false]
            exact .of_quiet (by simp) goes_on

/-- A tick of the polled one. -/
theorem tick (trails : Trails v.config now p q) {time : Time} (after : now ≤ time)
    (silent : (PairHold.tick v time p).2 ≠ .complete) :
    Trails v.config time (settled (PairHold.tick v time p)) q := by
  have held {first second : Contact} {timer timer' : HoldTimer}
      (since : timer'.since = timer.since)
      (silent : (PairHold.tick v time (.holding first second timer)).2 ≠ .complete) :
      Trails v.config time (settled (PairHold.tick v time (.holding first second timer)))
        (.holding first second timer') := by
    have lasts := HoldTimer.lasts_advance silent
    simp only [PairHold.tick, settled, lasts, if_true]
    exact .held (by rw [HoldTimer.advance_since, since])
  cases trails with
  | same =>
      cases p with
      | idle => exact .same .idle
      | awaitingSecond first =>
          by_cases late : expired v first time = true
          · simp only [PairHold.tick, late, if_true]
            exact .overdue (of_decide_eq_true late)
          · simp only [PairHold.tick, late, Bool.false_eq_true, if_false]
            exact .same _
      | holding first second timer => exact held rfl silent
  | held since => exact held since silent
  | overdue late => exact (Trails.overdue late).later after

end Trails
end PairHold

/-! ### Recognizers -/

theorem Tracker.landed_of_pairs {g : Gesture} (pairs : g.pairsPointers = true) :
    ∃ region, ∀ c, landed c g = .pairHold region (.awaitingSecond c) := by
  cases g with
  | oppositeCornersHold => exact ⟨.oppositeCorners, fun _ => rfl⟩
  | twoFingerHeaderHold => exact ⟨.header, fun _ => rfl⟩
  | singleFingerEdgeDragHold => cases pairs
  | tripleTapDebug => cases pairs

theorem Gesture.holds_of_pairs {g : Gesture} (pairs : g.pairsPointers = true) :
    g ≠ .tripleTapDebug := by
  rintro rfl
  cases pairs

namespace Moment

/-- A history without its ticks. -/
def unpolled (history : List Moment) : List Moment := history.filter fun m => m.touch?.isSome

/-- From a time on there are touches and ticks alone, in the order of their times, and exploration
never owns the input. -/
structure Attends (now : Time) (history : List Moment) : Prop where
  listening : ∀ m ∈ history, m.host.exploring = false
  timed : ∀ m ∈ history, m.time?.isSome = true
  ordered : (now :: history.filterMap time?).Pairwise (· ≤ ·)

namespace Attends

variable {now : Time} {m : Moment} {history part : List Moment}

theorem sublist (attends : Attends now history) (within : part.Sublist history) :
    Attends now part where
  listening m mem := attends.listening m (within.subset mem)
  timed m mem := attends.timed m (within.subset mem)
  ordered := attends.ordered.sublist ((within.filterMap time?).cons_cons now)

theorem unpolled (attends : Attends now history) : Attends now (Moment.unpolled history) :=
  attends.sublist List.filter_sublist

theorem of_cons (attends : Attends now (m :: history)) :
    m.host.exploring = false ∧
      ∃ time, m.time? = some time ∧ now ≤ time ∧ Attends time history := by
  obtain ⟨listening, timed, ordered⟩ := attends
  obtain ⟨listening_now, listening_later⟩ := List.forall_mem_cons.1 listening
  obtain ⟨timed_now, timed_later⟩ := List.forall_mem_cons.1 timed
  obtain ⟨time, told⟩ := Option.isSome_iff_exists.1 timed_now
  rw [List.filterMap_cons_some told] at ordered
  obtain ⟨after, ordered_later⟩ := List.pairwise_cons.1 ordered
  exact ⟨listening_now, time, told, after time List.mem_cons_self, listening_later, timed_later,
    ordered_later⟩

end Attends

theorem unpolled_concat (history : List Moment) {m : Moment} {t : Touch}
    (asked : m.request = .touch t) : unpolled (history ++ [m]) = unpolled history ++ [m] := by
  simp [unpolled, touch?, asked]

theorem stream_unpolled (history : List Moment) : stream (unpolled history) = stream history := by
  rw [stream, unpolled, List.filterMap_filter]
  refine List.filterMap_congr fun m _ => ?_
  cases m.touch? <;> rfl

end Moment

namespace Recognizer

/-- A recognizer that is polled, and the one that it would be without. -/
structure Trails (c : Config) (now : Time) (polled plain : Recognizer) : Prop where
  onSurface : polled.onSurface = plain.onSurface
  phases : ∃ region p q, polled.Pursues c (.pairHold region p) ∧
    plain.Pursues c (.pairHold region q) ∧ PairHold.Trails c now p q

namespace Trails

variable {c : Config} {now : Time} {polled plain : Recognizer} {h : Host} {t : Touch}

theorem crowded_iff (trails : Trails c now polled plain) (t : Touch) :
    (polled.counted t).Crowded ↔ (plain.counted t).Crowded := by
  obtain ⟨surface, _, _, _, at_p, at_q, _⟩ := trails
  simp only [Crowded, counted, surface, at_p.config, at_q.config]

/-- The first landing of a stream brings both together, whatever was before. -/
theorem of_down (pairs : c.gesture.pairsPointers = true) (wf : polled.WellFormed)
    (wf' : plain.WellFormed) (config : polled.config = c) (config' : plain.config = c)
    (listening : h.exploring = false) (down : t.kind = .down) :
    Trails c t.time (polled.after ⟨h, .touch t⟩) (plain.after ⟨h, .touch t⟩) := by
  obtain ⟨region, landed⟩ := Tracker.landed_of_pairs pairs
  have holds := Gesture.holds_of_pairs pairs
  obtain ⟨surface, at_p⟩ := pursues_landed wf (config.symm ▸ holds) listening down
  obtain ⟨surface', at_q⟩ := pursues_landed wf' (config'.symm ▸ holds) listening down
  rw [config, landed] at at_p
  rw [config', landed] at at_q
  exact ⟨surface.trans surface'.symm, region, _, _, at_p, at_q, .same _⟩

/-- One touch of both.  What fires without ticks fires with them. -/
theorem touch (trails : Trails c now polled plain) (pairs : c.gesture.pairsPointers = true)
    (listening : h.exploring = false) (after : now ≤ t.time) :
    (plain.Fires ⟨h, .touch t⟩ → polled.Fires ⟨h, .touch t⟩) ∧
      (¬ polled.Fires ⟨h, .touch t⟩ →
        Trails c t.time (polled.after ⟨h, .touch t⟩) (plain.after ⟨h, .touch t⟩)) := by
  obtain ⟨surface, region, p, q, at_p, at_q, phases⟩ := id trails
  have surface_after :
      (polled.after ⟨h, .touch t⟩).onSurface = (plain.after ⟨h, .touch t⟩).onSurface := by
    rw [onSurface_after, onSurface_after, surface]
  rcases Moment.joins_cases polled h t with down | ends | ⟨k, motion, joins_p⟩
  · have silent : ¬ plain.Fires ⟨h, .touch t⟩ := fun fires => not_down_of_fires fires down
    exact ⟨fun fires => absurd fires silent, fun _ =>
      of_down pairs at_p.wellFormed at_q.wellFormed at_p.config at_q.config listening down⟩
  · have ends' : t.kind = .cancel ∨ t.kind = .pointerDown ∧ (plain.counted t).Crowded := by
      rwa [trails.crowded_iff] at ends
    obtain ⟨_, gone_p⟩ := at_p.given_up listening ends
    obtain ⟨silent, gone_q⟩ := at_q.given_up listening ends'
    refine ⟨fun fires => absurd fires silent, fun _ => ⟨surface_after, region, .idle, .idle, ?_⟩⟩
    cases region <;> exact ⟨gone_p, gone_q, .same .idle⟩
  · have joins_q : Moment.Joins plain ⟨h, .touch t⟩ := by
      rintro _ ⟨⟩
      obtain ⟨not_down, few⟩ := joins_p t rfl
      exact ⟨not_down, fun further many => few further ((trails.crowded_iff t).2 many)⟩
    have fires_p := (at_p.seen_touch listening motion joins_p).2.2
    have fires_q := (at_q.seen_touch listening motion joins_q).2.2
    obtain ⟨no_later, keeps⟩ :=
      PairHold.Trails.step (v := h.view c) phases region k (c := t.contact) after
    refine ⟨fun fires => fires_p.2 (no_later (fires_q.1 fires)), fun silent => ?_⟩
    have silent_p := mt fires_p.2 silent
    have silent_q := mt no_later silent_p
    have settled_p := at_p.settled_touch listening motion joins_p silent_p
    have settled_q := at_q.settled_touch listening motion joins_q silent_q
    have pair_p := PairHold.tracker_settled region (PairHold.step region (h.view c) p k t.contact)
    have pair_q := PairHold.tracker_settled region (PairHold.step region (h.view c) q k t.contact)
    exact ⟨surface_after, region, _, _, pair_p ▸ settled_p, pair_q ▸ settled_q, keeps silent_p⟩

/-- A tick of the polled one. -/
theorem tick (trails : Trails c now polled plain) (listening : h.exploring = false) {time : Time}
    (after : now ≤ time) (silent : ¬ polled.Fires ⟨h, .tick time⟩) :
    Trails c time (polled.after ⟨h, .tick time⟩) plain := by
  obtain ⟨surface, region, p, q, at_p, at_q, phases⟩ := trails
  have silent_p := mt (at_p.seen_tick time listening).2.2 silent
  have settled_p := at_p.settled_tick listening silent_p
  have pair_p := PairHold.tracker_settled region (PairHold.tick (h.view c) time p)
  have keeps := PairHold.Trails.tick (v := h.view c) phases after silent_p
  refine ⟨?_, region, _, _, pair_p ▸ settled_p, at_q, keeps⟩
  rw [onSurface_after]
  exact surface

end Trails

/-! ### Runs -/

variable {c : Config} {now : Time} {history : List Moment}

theorem config_run_of_attends (attends : Moment.Attends now history) (r : Recognizer) :
    (r.run history).config = r.config := by
  induction history generalizing now r with
  | nil => rfl
  | cons m rest ih =>
      obtain ⟨h, q⟩ := m
      obtain ⟨_, time, told, _, later⟩ := attends.of_cons
      refine (ih later (r.after ⟨h, q⟩)).trans ?_
      rcases Moment.time?_eq_some_iff.1 told with ⟨t, rfl, _⟩ | rfl
      · exact config_touch
      · exact config_tick

/-- A stream that fires without ticks has fired with them. -/
theorem Trails.run {polled plain : Recognizer} {inside : List Moment} {e : Moment} {t : Touch}
    (trails : Trails c now polled plain) (pairs : c.gesture.pairsPointers = true)
    (attends : Moment.Attends now (inside ++ [e])) (asked : e.request = .touch t)
    (fires : (plain.run (Moment.unpolled inside)).Fires e) :
    Signal.triggered ∈ polled.signals (inside ++ [e]) := by
  induction inside generalizing now polled plain with
  | nil =>
      obtain ⟨h, q⟩ := e
      obtain rfl : q = .touch t := asked
      obtain ⟨listening, _, ⟨⟩, after, _⟩ := attends.of_cons
      exact triggered_mem_signals_cons.2 (Or.inl ((trails.touch pairs listening after).1 fires))
  | cons m rest ih =>
      obtain ⟨h, q⟩ := m
      obtain ⟨listening, time, told, after, later⟩ := attends.of_cons
      refine triggered_mem_signals_cons.2 (or_iff_not_imp_left.2 fun silent => ?_)
      rcases Moment.time?_eq_some_iff.1 told with ⟨u, rfl, rfl⟩ | rfl
      · exact ih ((trails.touch pairs listening after).2 silent) later fires
      · exact ih (trails.tick listening after silent) later fires

/-- The end of a stream leaves a recognizer that always listens with nothing but its record. -/
theorem blank_of_ends {e : Moment} {t : Touch} (holds : c.gesture ≠ .tripleTapDebug)
    (attends : Moment.Attends now (history ++ [e]))
    (orderly : Touch.Orderly (Moment.stream (history ++ [e]))) (asked : e.request = .touch t)
    (ends : t.kind.endsStream = true) :
    let r := (ofConfig c).run (history ++ [e])
    r = r.following (ofConfig c) := by
  intro r
  have wf : r.WellFormed := (WellFormed.ofConfig c).run _
  have config : r.config = c := config_run_of_attends attends _
  have none_down : Touch.downAfter (Moment.stream (history ++ [e])) = [] := by
    have touch : e.touch? = some t := by simp [Moment.touch?, asked]
    rw [Moment.stream_concat, touch]
    exact (Touch.downAfter_concat _ t).trans (pointersAfter_of_endsStream ends)
  have empty : r.onSurface = [] :=
    List.subset_nil.1 (none_down ▸ onSurface_subset_downAfter c (history ++ [e]))
  have none_tracked : r.tracked = [] :=
    List.subset_nil.1 (none_down ▸ tracked_subset_downAfter c orderly attends.listening)
  have idle : r.stage = .idle := by
    by_contra begun
    have gesture : r.tracker.gesture = c.gesture := wf.gesture.trans (congrArg _ config)
    exact Tracker.tracked_ne_nil_of_begun (gesture ▸ holds) begun none_tracked
  have opened : r.latched = false := by
    obtain ⟨h, q⟩ := e
    obtain rfl : q = .touch t := asked
    have listening : h.exploring = false := attends.listening ⟨h, .touch t⟩ (by simp)
    show ((ofConfig c).run (history ++ [⟨h, .touch t⟩])).latched = false
    rw [run_concat]
    exact opened_of_endsStream listening ends
  have blank := eq_following_of_blank wf idle empty opened
  rwa [config] at blank

/-- Ticks cost no trigger.  The touches of a script are delivered to a new recognizer for a gesture
of two pointers, with ticks between them in any way and without.  A stream that fires without ticks
has fired by the same touch with them.  At the end of a stream the two differ in nothing but their
records. -/
theorem fires_polled {c : Config} (pairs : c.gesture.pairsPointers = true) {start : Time}
    {ops : List Script.Op} {s : Script} (played : (Script.startingAt start).run ops = .ok s)
    {history : List Moment} (delivered : Moment.stream history <+: s.touches)
    (attends : Moment.Attends 0 history) :
    (∀ before d inside e, before ++ d :: (inside ++ [e]) <+: history →
      (∃ t, d.request = .touch t ∧ t.kind = .down) → (∃ t, e.request = .touch t) →
      ((ofConfig c).run (Moment.unpolled (before ++ d :: inside))).Fires e →
        Signal.triggered ∈ ((ofConfig c).run (before ++ [d])).signals (inside ++ [e])) ∧
      ∀ front e t, front ++ [e] <+: history → e.request = .touch t → t.kind.endsStream = true →
        let polled := (ofConfig c).run (front ++ [e])
        let plain := (ofConfig c).run (Moment.unpolled (front ++ [e]))
        polled =
          { plain with triggers := polled.triggers, lastAbandon := polled.lastAbandon } := by
  have holds := Gesture.holds_of_pairs pairs
  have orderly {front : List Moment} (within : front <+: history) :
      Touch.Orderly (Moment.stream front) :=
    ((Script.speaks_startingAt start).run played).orderly.of_prefix
      ((within.filterMap Moment.touch?).trans delivered)
  constructor
  · rintro before ⟨h, q⟩ inside e within ⟨t, rfl, down⟩ ⟨u, asked⟩ fires
    -- both come to the landing as they like, and it brings them together
    have attends := attends.sublist within.sublist
    have attends_before := attends.sublist (List.sublist_append_left before _)
    have config := config_run_of_attends attends_before (ofConfig c)
    have config' := config_run_of_attends attends_before.unpolled (ofConfig c)
    obtain ⟨listening, _, ⟨⟩, _, later⟩ :=
      (attends.sublist (List.sublist_append_right before _)).of_cons
    have trails := Trails.of_down pairs ((WellFormed.ofConfig c).run before)
      ((WellFormed.ofConfig c).run (Moment.unpolled before)) config config' listening down
    rw [run_concat]
    refine trails.run pairs later asked ?_
    have unpolled : Moment.unpolled (before ++ ⟨h, .touch t⟩ :: inside) =
        Moment.unpolled before ++ ⟨h, .touch t⟩ :: Moment.unpolled inside := List.filter_append ..
    rw [unpolled] at fires
    simpa [Recognizer.run] using fires
  · intro front e t within asked ends polled plain
    have attends := attends.sublist within.sublist
    have blank : polled = polled.following (ofConfig c) :=
      blank_of_ends holds attends (orderly within) asked ends
    have blank' : plain = plain.following (ofConfig c) := by
      have attends' := attends.unpolled
      have orderly' := orderly within
      rw [← Moment.stream_unpolled] at orderly'
      simp only [plain]
      rw [Moment.unpolled_concat front asked] at attends' orderly' ⊢
      exact blank_of_ends holds attends' orderly' asked ends
    rw [blank, blank']
    rfl

/-- The partner of a first pointer is late.  One tick gives the first pointer up before that, and
another one completes the hold of the pair that lands instead.  Without ticks the late partner takes
the first pointer's place, and the next move completes the hold. -/
theorem fires_polled_corners :
    let host : Host := .phone .oppositeCornersHold
    let c : Config := .forScreen .oppositeCornersHold 1080 1920
    let ops : List Script.Op :=
      [.down 0 ⟨10, 10⟩, .advance 300, .down 1 ⟨1070, 1910⟩, .up 0, .advance 50, .down 2 ⟨10, 10⟩,
        .hold 3000 3000, .up 1, .up 2]
    let landing : Moment := ⟨host, .touch ⟨.down, 0, ⟨10, 10⟩, 0⟩⟩
    let inside : List Moment :=
      ⟨host, .tick 200⟩ :: host.touches
        [⟨.pointerDown, 1, ⟨1070, 1910⟩, 300⟩, ⟨.pointerUp, 0, ⟨10, 10⟩, 300⟩,
          ⟨.pointerDown, 2, ⟨10, 10⟩, 350⟩] ++ [⟨host, .tick 2900⟩]
    let move : Moment := ⟨host, .touch ⟨.move, 1, ⟨1070, 1910⟩, 3350⟩⟩
    let front := landing :: (inside ++ [move]) ++ host.touches
      [⟨.move, 2, ⟨10, 10⟩, 3350⟩, ⟨.pointerUp, 1, ⟨1070, 1910⟩, 3350⟩]
    let last : Moment := ⟨host, .touch ⟨.up, 2, ⟨10, 10⟩, 3350⟩⟩
    let polled := (ofConfig c).run (front ++ [last])
    let plain := (ofConfig c).run (Moment.unpolled (front ++ [last]))
    (Script.startingAt 0).run ops = .ok ⟨3350, Moment.stream (front ++ [last]), []⟩ ∧
      ((ofConfig c).run (Moment.unpolled (landing :: inside))).Fires move ∧
      Signal.triggered ∈ ((ofConfig c).run [landing]).signals (inside ++ [move]) ∧
      polled =
        { plain with triggers := polled.triggers, lastAbandon := polled.lastAbandon } ∧
      polled.lastAbandon ≠ plain.lastAbandon := by
  intro host c ops landing inside move front last polled plain
  have played : (Script.startingAt 0).run ops =
      .ok ⟨3350, Moment.stream (front ++ [last]), []⟩ := by decide +kernel
  have fires : ((ofConfig c).run (Moment.unpolled (landing :: inside))).Fires move := by
    decide +kernel
  have attends : Moment.Attends 0 (front ++ [last]) :=
    ⟨by decide +kernel, by decide +kernel, by decide +kernel⟩
  obtain ⟨in_time, at_end⟩ := fires_polled (c := c) rfl played (List.prefix_refl _) attends
  refine ⟨played, fires, ?_, ?_, by decide +kernel⟩
  · exact in_time [] landing inside move ⟨_, rfl⟩ ⟨_, rfl, rfl⟩ ⟨_, rfl⟩ fires
  · exact at_end front last _ (List.prefix_refl _) rfl rfl

end Recognizer
end ExitGesture
