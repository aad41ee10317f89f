import ExitGesture.Proofs.Run

/-!
# What the log tells

Somebody who has the log alone, line by line with its message and its named values, can say at any
time how far the recognizer has come and how often it has fired.  Two messages speak of the stage:
an attempt was given up, which leaves none, or the stage has changed to the one that is named.

Not every way back to idle passes a change of stage by name.  What is given up before the tracker is
asked tells by the first message alone, what the tracker gives up tells by both, and a trigger tells
by the second alone.

**Invariant.**  The account of the lines so far is the account of the recognizer.  Within an
operation it may lag behind: then the change of stage, which comes last, sets it right.

**Results.**
* `Account.hear_serve`: what is asked of a recognizer.
* `Session.told_by_log`: every run, line by line.
-/

namespace ExitGesture

/-! ### Reading a line -/

/-- The stage that has a name. -/
def Stage.ofName? (text : String) : Option Stage :=
  all.find? fun g => g.name = text

theorem Stage.ofName?_name (g : Stage) : ofName? g.name = some g := by
  cases g <;> rfl

namespace LogEntry

/-- The stage after a line, by its message and its named values. -/
def stageAfter (g : Stage) (e : LogEntry) : Stage :=
  if e.message = "gesture reset" then .idle
  else if e.message = "gesture state changed" then
    ((e.values.lookup "to").bind Stage.ofName?).getD g
  else g

/-- A line tells of a trigger. -/
def tellsTrigger (e : LogEntry) : Bool := e.message = "exit gesture triggered"

def telling : LogEntry → Bool
  | .abandoned _ | .stageChanged _ _ _ | .triggered _ => true
  | .ready _ | .tooManyPointers _ | .latePartner _ | .reloadRefused _ | .reloadFailed _
  | .reloaded _ | .pulse _ | .replayed _ _ => false

end LogEntry

/-- What a log tells of a recognizer: how far its attempt has come, and how often it has fired. -/
structure Account where
  stage : Stage
  triggers : Nat

namespace Account

variable {a : Account}

/-- What is there to tell of a recognizer. -/
def of (r : Recognizer) : Account := ⟨r.stage, r.triggers⟩

/-- Read a line. -/
def read (a : Account) (e : LogEntry) : Account :=
  { stage := e.stageAfter a.stage
    triggers := a.triggers + if e.tellsTrigger then 1 else 0 }

theorem read_abandoned (a : Account) (reason : AbandonReason) :
    a.read (.abandoned reason) = { a with stage := .idle } := rfl

theorem read_stageChanged (a : Account) (before after : Stage) (now : Time) :
    a.read (.stageChanged before after now) = { a with stage := after } := by
  cases after <;> rfl

theorem read_triggered (a : Account) (g : Gesture) :
    a.read (.triggered g) = { a with triggers := a.triggers + 1 } := rfl

theorem read_of_not_telling {e : LogEntry} (plain : e.telling = false) : a.read e = a := by
  cases e with
  | abandoned reason => cases plain
  | stageChanged before after now => cases plain
  | triggered g => cases plain
  | ready g => rfl
  | tooManyPointers n => rfl
  | latePartner gap => rfl
  | reloadRefused stage => rfl
  | reloadFailed error => rfl
  | reloaded g => rfl
  | pulse held => rfl
  | replayed events triggers => rfl

/-- Read what is logged of some signals.  The lines of a listener that hears pulses tell no more. -/
def hear (a : Account) (l : Listener) (signals : List Signal) : Account :=
  (l.logOf signals).foldl read a

section Hear

variable {l : Listener}

@[simp] theorem hear_nil : a.hear l [] = a := rfl

@[simp] theorem hear_append (first later : List Signal) :
    a.hear l (first ++ later) = (a.hear l first).hear l later := by
  simp [hear, Listener.logOf]

@[simp] theorem hear_log_cons (e : LogEntry) (later : List Signal) :
    a.hear l (.log e :: later) = (a.read e).hear l later := rfl

@[simp] theorem hear_triggered_cons (later : List Signal) :
    a.hear l (.triggered :: later) = a.hear l later := rfl

@[simp] theorem hear_pulse_cons (held : Nat) (later : List Signal) :
    a.hear l (.pulse held :: later) = a.hear l later := by
  cases hears : l.hearsPulses with
  | true => simp [hear, Listener.logOf, hears, read_of_not_telling (e := .pulse held) rfl]
  | false => simp [hear, Listener.logOf, hears]

/-! ### One operation -/

variable {r : Recognizer}

theorem hear_signals_abandon (reason : AbandonReason) :
    a.hear l (r.abandon reason).signals =
      if r.stage = .idle then a else { a with stage := .idle } := by
  unfold Recognizer.abandon
  split
  · rfl
  · exact read_abandoned a reason

theorem of_abandon (r : Recognizer) (reason : AbandonReason) :
    of (r.abandon reason).state = ⟨.idle, r.triggers⟩ := by
  simp [of, Recognizer.stage, Tracker.stage_cleared]

/-- An attempt that is given up is told of. -/
theorem hear_abandon (reason : AbandonReason) :
    (of r).hear l (r.abandon reason).signals = of (r.abandon reason).state := by
  rw [hear_signals_abandon, of_abandon]
  by_cases idle : r.stage = .idle
  · rw [if_pos idle, of, idle]
  · rw [if_neg idle]
    rfl

theorem hear_stageLog (before after : Stage) (now : Time) :
    a.hear l (Recognizer.stageLog before after now) =
      if before = after then a else { a with stage := after } := by
  by_cases same : before = after
  · have silent : Recognizer.stageLog before after now = [] := if_pos same
    rw [silent, if_pos same]
    rfl
  · have told : Recognizer.stageLog before after now = [.log (.stageChanged before after now)] :=
      if_neg same
    rw [told, if_neg same]
    exact read_stageChanged a before after now

/-- Before the change of stage is logged, the account has the old stage or the new one. -/
theorem hear_settle (τ : Tracker) (w : Verdict) (ends : Bool) :
    let settled := ({ r with tracker := τ } : Recognizer).settle w ends
    (of r).hear l settled.signals = ⟨r.stage, settled.state.triggers⟩ ∨
      (of r).hear l settled.signals = of settled.state := by
  intro settled
  cases w with
  | proceed consumed => exact Or.inl rfl
  | restart gap => exact Or.inl (read_of_not_telling rfl)
  | pulse held => exact Or.inl (hear_pulse_cons held [])
  | abandon reason =>
      have heard : (of r).hear l settled.signals =
          if τ.stage = .idle then of r else { of r with stage := .idle } :=
        hear_signals_abandon (r := { r with tracker := τ }) reason
      have given_up : of settled.state = ⟨.idle, r.triggers⟩ :=
        of_abandon { r with tracker := τ } reason
      have kept : settled.state.triggers = r.triggers := congrArg triggers given_up
      rw [heard, kept, given_up]
      split
      · exact Or.inl rfl
      · exact Or.inr rfl
  | complete => exact Or.inl (read_triggered _ _)

/-- A step of the tracker is told of. -/
theorem hear_advance (step : Tracker × Verdict) (now : Time) (ends : Bool) :
    (of r).hear l (r.advance step now ends).signals = of (r.advance step now ends).state := by
  have settled := hear_settle (l := l) (r := r) step.1 step.2 ends
  simp only [Recognizer.advance, hear_append, hear_stageLog]
  generalize ({ r with tracker := step.1 } : Recognizer).settle step.2 ends = o at settled ⊢
  by_cases same : r.stage = o.state.stage
  · rw [if_pos same]
    rcases settled with old | new
    · rw [old, same]
      rfl
    · exact new
  · rw [if_neg same]
    rcases settled with old | new
    · rw [old]
      rfl
    · rw [new]
      rfl

/-- What a new stream gives up is told of. -/
theorem hear_opening (t : Touch) : (of r).hear l (r.opening t) = of (r.readied t) := by
  unfold Recognizer.opening Recognizer.readied
  split
  · exact hear_abandon .streamRestarted
  · rfl

theorem hear_touch (h : Host) (t : Touch) :
    (of r).hear l (r.touch h t).signals = of (r.touch h t).state := by
  have course := Recognizer.touch_course r h t
  generalize r.touch h t = o at course ⊢
  cases course with
  | explored => rfl
  | heldBack => rfl
  | cancelled => exact hear_abandon (r := r.counted t) .cancelled
  | crowded _ _ _ _ _ state signals =>
      rw [signals, state, hear_append, hear_log_cons]
      have opened : (of r).hear l ((r.counted t).opening t) = of ((r.counted t).readied t) :=
        hear_opening (r := r.counted t) t
      rw [opened, read_of_not_telling rfl]
      exact hear_abandon .extraPointer
  | seen _ _ _ _ _ _ state signals =>
      rw [signals, state, hear_append]
      have opened : (of r).hear l ((r.counted t).opening t) = of ((r.counted t).readied t) :=
        hear_opening (r := r.counted t) t
      rw [opened]
      exact hear_advance _ _ _

theorem hear_tick (h : Host) (now : Time) :
    (of r).hear l (r.tick h now).signals = of (r.tick h now).state := by
  rcases Recognizer.tick_cases r h now with ⟨_, eq⟩ | ⟨_, _, eq⟩
  · rw [eq]
    rfl
  · rw [eq]
    exact hear_advance _ now false

theorem hear_reload (h : Host) :
    (of r).hear l (r.reload h).signals = of (r.reload h).state := by
  have course := Recognizer.reload_course r h
  generalize r.reload h = o at course ⊢
  cases course with
  | refused => exact read_of_not_telling rfl
  | failed => exact read_of_not_telling rfl
  | @done c idle =>
      have idle_after : of (r.configured c) = ⟨.idle, r.triggers⟩ := by
        rw [of, Recognizer.stage_configured idle]
        rfl
      rw [idle_after, ← idle]
      exact read_of_not_telling rfl

/-- Whatever is asked of a recognizer, the log tells what becomes of it. -/
theorem hear_serve (r : Recognizer) (m : Moment) :
    (of r).hear l (r.serve m).signals = of (r.after m) := by
  obtain ⟨h, q⟩ := m
  cases q with
  | touch t => exact hear_touch h t
  | tick now => exact hear_tick h now
  | reset => exact hear_abandon (r := { r with onSurface := [], latched := false }) .requested
  | reload => exact hear_reload h

end Hear

/-! ### Many lines -/

theorem foldl_read (a : Account) (log : List LogEntry) :
    log.foldl read a =
      ⟨log.foldl LogEntry.stageAfter a.stage, a.triggers + log.countP LogEntry.tellsTrigger⟩ := by
  induction log generalizing a with
  | nil => rfl
  | cons e rest ih =>
      rw [List.foldl_cons, ih]
      simp only [read, List.foldl_cons, List.countP_cons]
      rw [Nat.add_right_comm, Nat.add_assoc]

end Account

/-! ### Runs -/

namespace Session

/-- All that is logged in the course of a run. -/
def logged (s : Session) : List Op → List LogEntry
  | [] => []
  | op :: rest => s.listener.logOf (s.perform op).signals ++ (s.perform op).state.logged rest

theorem foldl_read_perform (s : Session) (op : Op) :
    (s.listener.logOf (s.perform op).signals).foldl Account.read (.of s.recognizer) =
      .of (s.perform op).state.recognizer := by
  rw [recognizer_perform]
  cases asks : op.request? with
  | some q =>
      rw [perform_of_request asks]
      exact Account.hear_serve s.recognizer ⟨s.host, q⟩
  | none =>
      cases op with
      | explore active => rfl
      | provide change => rfl
      | touch t => cases asks
      | tick now => cases asks
      | reset => cases asks
      | reload => cases asks

/-- The log of a run tells what has become of the recognizer. -/
theorem foldl_read_logged (s : Session) (ops : List Op) :
    (s.logged ops).foldl Account.read (.of s.recognizer) = .of (s.run ops).state.recognizer := by
  induction ops generalizing s with
  | nil => rfl
  | cons op rest ih =>
      rw [logged, List.foldl_append, foldl_read_perform]
      exact ih _

/-- A session starts with one line, which tells nothing yet. -/
theorem foldl_read_started {provider : Provider} {exploring : Bool} {listener : Listener}
    {o : Outcome Session Unit} (started : start provider exploring listener = .ok o) :
    (listener.logOf o.signals).foldl Account.read ⟨.idle, 0⟩ = .of o.state.recognizer := by
  obtain ⟨c, _, rfl⟩ := cases_of_start started
  have new : Account.of (.ofConfig c) = ⟨.idle, 0⟩ := by
    rw [Account.of, Recognizer.stage]
    exact congrArg (Account.mk · 0) (Tracker.stage_ofGesture c.gesture)
  rw [new]
  exact Account.read_of_not_telling rfl

/-- Whatever has been done with a session, its log tells the stage of the recognizer and how often
it has fired. -/
theorem told_by_log {provider : Provider} {exploring : Bool} {listener : Listener}
    {o : Outcome Session Unit} (started : start provider exploring listener = .ok o)
    (ops : List Op) :
    let log := listener.logOf o.signals ++ o.state.logged ops
    let r := (o.state.run ops).state.recognizer
    log.foldl LogEntry.stageAfter .idle = r.stage ∧
      log.countP LogEntry.tellsTrigger = r.triggers := by
  intro log r
  have read : log.foldl Account.read ⟨.idle, 0⟩ = .of r := by
    rw [List.foldl_append, foldl_read_started started]
    exact o.state.foldl_read_logged ops
  rw [Account.foldl_read, Nat.zero_add] at read
  exact ⟨congrArg Account.stage read, congrArg Account.triggers read⟩

/-- A pair is given up for a new stream, whose pair fires on a tick. -/
theorem told_by_log_corners :
    ∃ o, start (.phone .oppositeCornersHold) false .recorder = .ok o ∧
      let ops : List Op :=
        [.touch ⟨.down, 0, ⟨10, 10⟩, 0⟩, .touch ⟨.pointerDown, 1, ⟨1070, 1910⟩, 50⟩,
          .touch ⟨.down, 2, ⟨10, 10⟩, 100⟩, .reload, .touch ⟨.pointerDown, 3, ⟨1070, 1910⟩, 150⟩,
          .tick 2650]
      let log := Listener.recorder.logOf o.signals ++ o.state.logged ops
      log.map LogEntry.message =
        ["exit gesture recognizer ready", "gesture state changed", "gesture state changed",
          "gesture reset", "gesture state changed", "configuration reload refused",
          "gesture state changed", "exit gesture triggered", "gesture state changed"] ∧
        log.foldl LogEntry.stageAfter .idle = .idle ∧ log.countP LogEntry.tellsTrigger = 1 := by
  refine ⟨_, rfl, ?_⟩
  intro ops log
  obtain ⟨stage, triggers⟩ := @told_by_log (.phone .oppositeCornersHold) _ _ _ rfl ops
  exact ⟨by decide +kernel, stage.trans (by decide +kernel), triggers.trans (by decide +kernel)⟩

end Session
end ExitGesture
