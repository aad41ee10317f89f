import ExitGesture.Proofs.Abandonment
import ExitGesture.Proofs.Pointers.Loss

/-!
# Scripts speak the recognizer's protocol

A script chooses the kinds of its touches by its fingers, and a recognizer counts pointers by the
kinds of its touches.  The two keep in step, whatever is asked of the script: what the recognizer
counts are the script's fingers, and it never sees a stream begin while another one is tracked.

**Invariants.**  The touches of a script are in the order of their times and none is ahead of its
clock (`Timely`).  Its fingers are listed by ascending identifier (`Sorted`).

**Results.**
* `tracked_subset_downAfter`, `not_restarted`: what a recognizer that always listens tracks.
* `protocol_of_run`: all of it for every script.
-/

namespace ExitGesture

namespace Script

variable {s s' : Script} {t : Touch}

/-! ### Emitting -/

/-- A script emits a touch: a landing is the first of its stream exactly if no finger was down, and
a lift is the last exactly if none is left. -/
structure Emits (s : Script) (t : Touch) (s' : Script) : Prop where
  touches : s'.touches = s.touches ++ [t]
  time : t.time = s.now
  now : s'.now = s.now
  first : t.kind.isDown = true → (t.kind = .down ↔ s.fingers = [])
  last : t.kind.isUp = true → (t.kind = .up ↔ s'.fingers = [])

theorem emits_down (s : Script) (id : PointerId) (p : Point) :
    ∃ t, Emits s t (s.down id p) ∧ t.kind.isDown = true ∧ t.pointer = id := by
  refine ⟨_, ⟨rfl, rfl, rfl, fun _ => ?_, fun lifts => ?_⟩, ?_, rfl⟩
  · by_cases none : s.fingers = [] <;> simp [none]
  · by_cases none : s.fingers = [] <;>
      simp [none, Touch.Kind.isUp, Touch.Kind.motion?] at lifts
  · by_cases none : s.fingers = [] <;> simp [none, Touch.Kind.isDown, Touch.Kind.motion?]

theorem emits_up (s : Script) (id : PointerId) :
    ∃ t, Emits s t (s.up id) ∧ t.kind.isUp = true ∧ t.pointer = id := by
  refine ⟨_, ⟨rfl, rfl, rfl, fun lands => ?_, fun _ => ?_⟩, ?_, rfl⟩
  · by_cases none : s.fingers.lift id = [] <;>
      simp [none, Touch.Kind.isDown, Touch.Kind.motion?] at lands
  · by_cases none : s.fingers.lift id = [] <;> simp [none, up, emit]
  · by_cases none : s.fingers.lift id = [] <;> simp [none, Touch.Kind.isUp, Touch.Kind.motion?]

theorem emits_other (s : Script) (kind : Touch.Kind) (id : PointerId) (p : Point)
    (fingers : Fingers) (neither : kind = .move ∨ kind = .cancel) :
    Emits s ⟨kind, id, p, s.now⟩ ({ s with fingers }.emit kind id p) := by
  refine ⟨rfl, rfl, rfl, fun lands => ?_, fun lifts => ?_⟩
  · rcases neither with rfl | rfl <;> simp [Touch.Kind.isDown, Touch.Kind.motion?] at lands
  · rcases neither with rfl | rfl <;> simp [Touch.Kind.isUp, Touch.Kind.motion?] at lifts

/-- A step lets time pass or emits one touch. -/
theorem step_cases (step : Step s s') :
    (s'.touches = s.touches ∧ s.now ≤ s'.now) ∨ ∃ t, Emits s t s' := by
  cases step with
  | wait later => exact Or.inl ⟨rfl, later⟩
  | down id p =>
      obtain ⟨t, emits, _⟩ := s.emits_down id p
      exact Or.inr ⟨t, emits⟩
  | moveTo id p => exact Or.inr ⟨_, s.emits_other .move id p _ (Or.inl rfl)⟩
  | report id p => exact Or.inr ⟨_, s.emits_other .move id p s.fingers (Or.inl rfl)⟩
  | up id =>
      obtain ⟨t, emits, _⟩ := s.emits_up id
      exact Or.inr ⟨t, emits⟩
  | cancel => exact Or.inr ⟨_, s.emits_other .cancel _ _ [] (Or.inr rfl)⟩

/-- Behind every touch of a script is a step that emits it. -/
theorem emits_of_prefix {start : Time} {front : List Touch} (leads : Leads (startingAt start) s)
    (within : front ++ [t] <+: s.touches) :
    ∃ s₀ s₁, Leads (startingAt start) s₀ ∧ Emits s₀ t s₁ ∧ Leads s₀ s₁ ∧ Leads s₁ s ∧
      s₀.touches = front := by
  induction leads with
  | refl => simp [startingAt] at within
  | @tail s s' leads step ih =>
      rcases step_cases step with ⟨same, _⟩ | ⟨u, emits⟩
      · rw [same] at within
        obtain ⟨s₀, s₁, to_s₀, emits, to_s₁, to_s, at_front⟩ := ih within
        exact ⟨s₀, s₁, to_s₀, emits, to_s₁, to_s.tail step, at_front⟩
      · rw [emits.touches] at within
        rcases List.prefix_concat_iff.1 within with last | within
        · obtain ⟨rfl, rfl⟩ := List.append_inj' last rfl |>.imp_right List.singleton_inj.1
          exact ⟨s, s', leads, emits, .single step, .refl, rfl⟩
        · obtain ⟨s₀, s₁, to_s₀, emits, to_s₁, to_s, at_front⟩ := ih within
          exact ⟨s₀, s₁, to_s₀, emits, to_s₁, to_s.tail step, at_front⟩

/-! ### Times -/

/-- The touches are in the order of their times, and none is ahead of the clock. -/
structure Timely (s : Script) : Prop where
  ordered : s.touches.Pairwise fun a b => a.time ≤ b.time
  past : ∀ t ∈ s.touches, t.time ≤ s.now

theorem timely_startingAt (start : Time) : (startingAt start).Timely where
  ordered := List.Pairwise.nil
  past t mem := by cases mem

theorem Timely.step (timely : s.Timely) (step : Step s s') : s'.Timely := by
  rcases step_cases step with ⟨same, later⟩ | ⟨t, emits⟩
  · constructor
    · rw [same]
      exact timely.ordered
    · rw [same]
      exact fun t mem => Nat.le_trans (timely.past t mem) later
  · constructor
    · rw [emits.touches]
      refine List.pairwise_append.2 ⟨timely.ordered, List.pairwise_singleton _ _, ?_⟩
      intro a mem b last
      rw [List.mem_singleton.1 last, emits.time]
      exact timely.past a mem
    · rw [emits.touches, emits.now]
      refine List.forall_mem_append.2 ⟨timely.past, List.forall_mem_singleton.2 ?_⟩
      exact Nat.le_of_eq emits.time

/-! ### Fingers -/

/-- The fingers are listed by ascending identifier, so each is listed once. -/
def Sorted (s : Script) : Prop := (s.fingers.map Prod.fst).Pairwise (· < ·)

theorem sorted_startingAt (start : Time) : (startingAt start).Sorted := List.Pairwise.nil

theorem pairwise_place {id : PointerId} {p : Point} {fingers : Fingers}
    (sorted : (fingers.map Prod.fst).Pairwise (· < ·)) :
    ((fingers.place id p).map Prod.fst).Pairwise (· < ·) := by
  induction fingers with
  | nil => exact List.pairwise_singleton _ _
  | cons f rest ih =>
      obtain ⟨other, q⟩ := f
      obtain ⟨least, sorted_rest⟩ := List.pairwise_cons.1 sorted
      unfold Fingers.place
      split
      next before =>
        refine List.pairwise_cons.2 ⟨List.forall_mem_cons.2 ⟨before, ?_⟩, sorted⟩
        exact fun q mem => Int.lt_trans before (least q mem)
      next not_before =>
        split
        next same =>
          rw [same]
          exact sorted
        next different =>
          refine List.pairwise_cons.2 ⟨?_, ih sorted_rest⟩
          intro q mem
          rcases Fingers.mem_place_iff.1 mem with same | mem
          · rw [same]
            exact Int.lt_iff_le_and_ne.2 ⟨Int.not_lt.1 not_before, Ne.symm different⟩
          · exact least q mem

theorem Sorted.step (sorted : s.Sorted) (step : Step s s') : s'.Sorted := by
  cases step with
  | wait => exact sorted
  | down id p => exact pairwise_place sorted
  | moveTo id p =>
      show ((s.fingers.move id p).map Prod.fst).Pairwise (· < ·)
      rw [Fingers.map_fst_move]
      exact sorted
  | report id p => exact sorted
  | up id => exact sorted.sublist (List.filter_sublist.map _)
  | cancel => exact List.Pairwise.nil

theorem Sorted.nodup (sorted : s.Sorted) : (s.fingers.map Prod.fst).Nodup :=
  sorted.imp fun less => Int.ne_of_lt less

/-! ### Releases -/

/-- The lifts of some fingers, one after another. -/
def lifts (now : Time) : Fingers → List Touch
  | [] => []
  | (id, p) :: rest => ⟨if rest = [] then .up else .pointerUp, id, p, now⟩ :: lifts now rest

theorem map_pointer_lifts (now : Time) (fingers : Fingers) :
    (lifts now fingers).map Touch.pointer = fingers.map Prod.fst := by
  induction fingers with
  | nil => rfl
  | cons f rest ih => exact congrArg (f.1 :: ·) ih

theorem map_kind_lifts (now : Time) {fingers : Fingers} (some_down : fingers ≠ []) :
    (lifts now fingers).map Touch.kind =
      List.replicate (fingers.length - 1) .pointerUp ++ [.up] := by
  induction fingers with
  | nil => exact absurd rfl some_down
  | cons f rest ih =>
      by_cases last : rest = []
      · simp [lifts, last]
      · obtain ⟨n, length⟩ : ∃ n, rest.length = n + 1 :=
          ⟨rest.length - 1, by have := List.length_pos_iff.2 last; omega⟩
        simp [lifts, last, ih last, length, List.replicate_succ]

/-- The finger with the least identifier lifts. -/
theorem up_head {now : Time} {touches : List Touch} {id : PointerId} {p : Point} {rest : Fingers}
    (least : ∀ q ∈ rest.map Prod.fst, id < q) :
    up ⟨now, touches, (id, p) :: rest⟩ id =
      ⟨now, touches ++ [⟨if rest = [] then .up else .pointerUp, id, p, now⟩], rest⟩ := by
  have others : Fingers.lift id rest = rest := by
    refine List.filter_eq_self.2 fun f mem => ?_
    have less := least f.1 (List.mem_map_of_mem mem)
    simpa using (Int.ne_of_lt less).symm
  have lifted : Fingers.lift id ((id, p) :: rest) = rest := by
    simpa [Fingers.lift] using others
  simp [up, emit, lifted, Fingers.position?]

theorem releaseAll_eq (sorted : s.Sorted) :
    s.releaseAll = { s with touches := s.touches ++ lifts s.now s.fingers, fingers := [] } := by
  obtain ⟨now, touches, fingers⟩ := s
  induction fingers generalizing touches with
  | nil => simp [releaseAll, lifts]
  | cons f rest ih =>
      obtain ⟨id, p⟩ := f
      obtain ⟨least, sorted_rest⟩ := List.pairwise_cons.1 sorted
      have released := ih (touches ++ [⟨if rest = [] then .up else .pointerUp, id, p, now⟩])
        sorted_rest
      simp only [releaseAll, List.map_cons, List.foldl_cons, up_head least] at released ⊢
      rw [released, lifts, List.append_assoc, List.singleton_append]

/-! ### What a recognizer makes of it -/

theorem perm_onSurface (c : Config) {history : List Moment} (speaks : s.Speaks) (sorted : s.Sorted)
    (delivered : Moment.stream history = s.touches)
    (never_reset : ∀ m ∈ history, m.request ≠ .reset) :
    ((Recognizer.ofConfig c).run history).onSurface.Perm (s.fingers.map Prod.fst) := by
  rw [Recognizer.onSurface_eq_downAfter c never_reset, delivered]
  exact (List.perm_ext_iff_of_nodup (Touch.nodup_downAfter _) sorted.nodup).2 speaks.down

end Script

namespace Recognizer

/-- A recognizer that always listens tracks none but the pointers that its stream left down. -/
theorem tracked_subset_downAfter (c : Config) {history : List Moment}
    (orderly : Touch.Orderly (Moment.stream history))
    (listening : ∀ m ∈ history, m.host.exploring = false) :
    ((ofConfig c).run history).tracked ⊆ Touch.downAfter (Moment.stream history) := by
  intro p tracked
  apply onSurface_subset_downAfter c history
  by_contra gone
  -- a tracked pointer leaves the surface only while exploration owns the input
  obtain ⟨earlier, e, later, rfl, ⟨⟨exploring, _⟩, _⟩, _⟩ :=
    lostUnheard_of_tracked c history orderly tracked gone
  simp [listening e (by simp)] at exploring

/-- It never gives an attempt up for a new stream. -/
theorem not_restarted (c : Config) {history : List Moment}
    (orderly : Touch.Orderly (Moment.stream history))
    (listening : ∀ m ∈ history, m.host.exploring = false) :
    Signal.log (.abandoned .streamRestarted) ∉ (ofConfig c).signals history := by
  intro logged
  obtain ⟨before, m, later, rfl, logged_then⟩ := exists_of_mem_signals logged
  obtain ⟨t, asked, down, tracked⟩ := restarts_of_logged logged_then
  have within : Moment.stream before ++ [t] <+: Moment.stream (before ++ m :: later) := by
    refine ⟨Moment.stream later, ?_⟩
    simp [Moment.stream, Moment.touch?, asked]
  -- a stream begins on an empty surface, where nothing can be tracked
  have none_down := (orderly _ t within).first down
  have subset := tracked_subset_downAfter c
    (orderly.of_prefix ((List.prefix_append _ [t]).trans within))
    (fun n mem => listening n (List.mem_append_left _ mem))
  rw [none_down] at subset
  exact tracked (List.subset_nil.1 subset)

end Recognizer

namespace Script

/-- The touches of every script are in order, and their kinds tell how many fingers are down.  A
recognizer to which they are delivered counts the script's fingers after every one of them, whatever
else happens short of a reset.  If exploration never owns the input, it tracks none but the script's
fingers, and no stream begins while an attempt is tracked. -/
theorem protocol_of_run {start : Time} {ops : List Op} {s : Script}
    (played : (startingAt start).run ops = .ok s) :
    (s.touches.Pairwise (fun a b => a.time ≤ b.time) ∧ ∀ t ∈ s.touches, t.time ≤ s.now) ∧
      (∀ id p, ∃ t, Emits s t (s.down id p) ∧ t.kind.isDown = true ∧ t.pointer = id) ∧
      (∀ id, ∃ t, Emits s t (s.up id) ∧ t.kind.isUp = true ∧ t.pointer = id) ∧
      (∃ lifts, s.releaseAll.touches = s.touches ++ lifts ∧
        lifts.map Touch.pointer = s.fingers.map Prod.fst ∧
        (s.fingers ≠ [] →
          lifts.map Touch.kind = List.replicate (s.fingers.length - 1) .pointerUp ++ [.up])) ∧
      (∀ front t, front ++ [t] <+: s.touches →
        ∃ s₀ s₁, Leads (startingAt start) s₀ ∧ Emits s₀ t s₁ ∧ Leads s₀ s₁ ∧ Leads s₁ s ∧
          s₀.touches = front) ∧
      ∀ s', Leads (startingAt start) s' → ∀ c history, Moment.stream history = s'.touches →
        let r := (Recognizer.ofConfig c).run history
        ((∀ m ∈ history, m.request ≠ .reset) → r.onSurface.Perm (s'.fingers.map Prod.fst)) ∧
          ((∀ m ∈ history, m.host.exploring = false) →
            r.tracked ⊆ s'.fingers.map Prod.fst ∧ r.lastAbandon ≠ some .streamRestarted ∧
              Signal.log (.abandoned .streamRestarted) ∉
                (Recognizer.ofConfig c).signals history) := by
  have leads := leads_of_run played
  have timely := keeps_of_leads Timely.step leads (timely_startingAt start)
  have sorted := keeps_of_leads Sorted.step leads (sorted_startingAt start)
  refine ⟨⟨timely.ordered, timely.past⟩, s.emits_down, s.emits_up, ?_, ?_, ?_⟩
  · refine ⟨lifts s.now s.fingers, ?_, map_pointer_lifts _ _, map_kind_lifts _⟩
    rw [releaseAll_eq sorted]
  · intro front t within
    exact emits_of_prefix leads within
  · intro s' leads c history delivered r
    have speaks := keeps_of_leads Speaks.step leads (speaks_startingAt start)
    have sorted := keeps_of_leads Sorted.step leads (sorted_startingAt start)
    refine ⟨perm_onSurface c speaks sorted delivered, fun listening => ?_⟩
    have orderly : Touch.Orderly (Moment.stream history) := delivered ▸ speaks.orderly
    have silent := Recognizer.not_restarted c orderly listening
    refine ⟨?_, ?_, silent⟩
    · intro p tracked
      have down := Recognizer.tracked_subset_downAfter c orderly listening tracked
      rw [delivered] at down
      exact (speaks.down p).1 down
    · intro restarted
      rcases (Recognizer.ofConfig c).records_run history with kept | ⟨why, kept, logged⟩
      · cases restarted.symm.trans kept
      · cases restarted.symm.trans kept
        exact silent logged

/-- A finger lifts that is not down, one lands twice, and another one is held beside it. -/
def misusedScript : List Op :=
  [.up 4, .down 0 ⟨10, 10⟩, .down 0 ⟨20, 20⟩, .advance 50, .down 1 ⟨1070, 1910⟩, .up 7,
    .hold 200 100]

/-- What that script emits, some of it while exploration owns the input. -/
def misusedMoments : List Moment :=
  let host : Host := .phone .oppositeCornersHold
  let exploring : Host := { host with exploring := true }
  host.touches [⟨.up, 4, ⟨0, 0⟩, 0⟩, ⟨.down, 0, ⟨10, 10⟩, 0⟩] ++
    exploring.touches [⟨.pointerDown, 0, ⟨20, 20⟩, 0⟩, ⟨.pointerDown, 1, ⟨1070, 1910⟩, 50⟩] ++
    host.touches
      [⟨.pointerUp, 7, ⟨0, 0⟩, 50⟩, ⟨.move, 0, ⟨20, 20⟩, 150⟩, ⟨.move, 1, ⟨1070, 1910⟩, 150⟩,
        ⟨.move, 0, ⟨20, 20⟩, 250⟩, ⟨.move, 1, ⟨1070, 1910⟩, 250⟩]

/-- However a script is misused, its fingers are counted. -/
theorem protocol_of_run_misused :
    let s : Script := ⟨250, Moment.stream misusedMoments, [(0, ⟨20, 20⟩), (1, ⟨1070, 1910⟩)]⟩
    let r := (Recognizer.ofConfig (.forScreen .oppositeCornersHold 1080 1920)).run misusedMoments
    (startingAt 0).run misusedScript = .ok s ∧ (∀ t ∈ s.touches, t.time ≤ 250) ∧
      r.onSurface.Perm [0, 1] := by
  intro s r
  have played : (startingAt 0).run misusedScript = .ok s := by decide +kernel
  obtain ⟨⟨_, past⟩, _, _, _, _, counted⟩ := protocol_of_run played
  have never_reset : ∀ m ∈ misusedMoments, m.request ≠ .reset := by
    simp [misusedMoments, Host.touches]
  exact ⟨played, past, (counted s (leads_of_run played) _ misusedMoments rfl).1 never_reset⟩

end Script
end ExitGesture
