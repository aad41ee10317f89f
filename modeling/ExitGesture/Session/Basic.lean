import ExitGesture.Recognizer
import ExitGesture.Session.Listener
import ExitGesture.Session.Provider

/-!
# Sessions

A session is a recognizer in its surroundings: the provider of its configuration, the position of
the touch exploration switch, and the listener.  What the recognizer signals reaches the listener,
and a listener that turns exploration on is obeyed from the next operation on.

**Operations.**  `Op` lists all that can happen to a session, `perform` does it, and `run` does
one after another.
-/

namespace ExitGesture

/-- A recognizer and its surroundings. -/
structure Session where
  recognizer : Recognizer
  provider : Provider
  exploring : Bool
  listener : Listener

namespace Session

/-- What the recognizer sees of its surroundings. -/
def host (s : Session) : Host := ⟨s.provider.config, s.exploring, s.provider.header⟩

variable {α : Type}

/-- The surroundings after an operation of the recognizer. -/
def deliver (s : Session) (o : Outcome Recognizer α) : Outcome Session α where
  answer := o.answer
  state :=
    { s with
      recognizer := o.state
      exploring := s.exploring || o.signals.any s.listener.reactsTo
      listener := s.listener.hearAll o.signals }
  signals := o.signals

/-- A session with an idle recognizer, if the provider serves a configuration that can be used. -/
def start (provider : Provider) (exploring : Bool) (listener : Listener) :
    Except ConfigError (Outcome Session Unit) :=
  (Recognizer.start ⟨provider.config, exploring, provider.header⟩).map fun o =>
    ⟨(), ⟨o.state, provider, exploring, listener⟩, o.signals⟩

def touch (s : Session) (t : Touch) : Outcome Session Bool :=
  s.deliver (s.recognizer.touch s.host t)

def tick (s : Session) (now : Time) : Outcome Session Bool :=
  s.deliver (s.recognizer.tick s.host now)

def reset (s : Session) : Outcome Session Unit :=
  s.deliver s.recognizer.reset

/-- Take over the configuration that is served now. -/
def reload (s : Session) : Outcome Session (Except ConfigError Unit) :=
  s.deliver (s.recognizer.reload s.host)

/-- Something that can happen to a session. -/
inductive Op
  | touch (touch : Touch)
  | tick (now : Time)
  | reset
  | reload
  /-- Touch exploration is switched on or off. -/
  | explore (active : Bool)
  /-- The provider keeps something else from now on. -/
  | provide (change : Provider.Change)

/-- What an operation answers. -/
inductive Reply
  | done
  | consumed (value : Bool)
  | fired (value : Bool)
  | reloaded (result : Except ConfigError Unit)

/-- Do one operation. -/
def perform (s : Session) : Op → Outcome Session Reply
  | .touch t => let o := s.touch t; o.answering (.consumed o.answer)
  | .tick now => let o := s.tick now; o.answering (.fired o.answer)
  | .reset => s.reset.answering .done
  | .reload => let o := s.reload; o.answering (.reloaded o.answer)
  | .explore active => .silent { s with exploring := active } .done
  | .provide change => .silent { s with provider := s.provider.update change } .done

/-- Do operations in order; the answer lists their replies. -/
def run (s : Session) : List Op → Outcome Session (List Reply)
  | [] => .silent s []
  | op :: rest =>
      (s.perform op).bind fun s reply =>
        let o := run s rest
        o.answering (reply :: o.answer)

def clear (s : Session) : Session := { s with listener := s.listener.clear }

theorem run_append (s : Session) (ops more : List Op) :
    (s.run (ops ++ more)).state = ((s.run ops).state.run more).state := by
  induction ops generalizing s with
  | nil => rfl
  | cons op rest ih => exact ih _

end Session
end ExitGesture
