import ExitGesture.Proofs.Log
import ExitGesture.Replay.Trace

/-!
# What the transitions tell

Somebody who has the transitions of a trace as a text, and the stage it began with, can say at every
touch how far the attempt had come, and how many touches have completed the gesture.

A step is listed if it changed the stage or completed the gesture.  The listing compares a step with
the last one that it listed, and not with the step just before, which it may have left out.

**Invariant.**  The stage that was listed last is the stage so far: what is left out has not changed
it.  So it makes no difference which of the two a step is compared with.
-/

namespace ExitGesture

/-! ### Reading a text -/

/-- The lines of a text in which every line is ended. -/
def linesOf (text : String) : List String :=
  ((text.split '\n').toList.map String.Slice.copy).dropLast

/-- The words of a line. -/
def wordsOf (line : String) : List String :=
  (line.split ' ').toList.map String.Slice.copy

/-- Nothing in a text ends a word or a line. -/
def Unbroken (text : String) : Prop := ∀ c ∈ text.toList, c.isWhitespace = false

theorem splitOn_flatMap_concat (ls : List (List Char)) (unended : ∀ l ∈ ls, '\n' ∉ l) :
    (ls.flatMap fun l => l ++ ['\n']).splitOn '\n' = ls ++ [[]] := by
  induction ls with
  | nil => rfl
  | cons l rest ih =>
      have here : '\n' ∉ l := unended l List.mem_cons_self
      have later := ih fun l' later => unended l' (List.mem_cons_of_mem l later)
      rw [List.flatMap_cons, List.append_assoc, List.singleton_append,
        List.splitOn_append_cons_self_of_not_mem here, later, List.cons_append]

/-- Lines that are put together, each with its end, are read back. -/
theorem linesOf_join (lines : List String) (unended : ∀ l ∈ lines, '\n' ∉ l.toList) :
    linesOf (String.join (lines.map fun l => l ++ "\n")) = lines := by
  have text : (String.join (lines.map fun l => l ++ "\n")).toList =
      (lines.map String.toList).flatMap fun l => l ++ ['\n'] := by
    simp [List.flatMap_map]
  have split := splitOn_flatMap_concat (lines.map String.toList) (by simpa using unended)
  rw [linesOf, String.toList_split_char, text, split]
  simp

/-- Words that are put together with blanks are read back. -/
theorem wordsOf_intercalate {words : List String} (some_word : words ≠ [])
    (unbroken : ∀ w ∈ words, Unbroken w) : wordsOf (" ".intercalate words) = words := by
  have apart : ∀ l ∈ words.map String.toList, ' ' ∉ l := by
    intro l listed blank
    obtain ⟨w, mem, rfl⟩ := List.mem_map.1 listed
    exact absurd (unbroken w mem ' ' blank) (by decide)
  have split := List.splitOn_intercalate ' ' apart (by simpa using some_word)
  rw [wordsOf, String.toList_split_char, String.toList_intercalate,
    show " ".toList = [' '] from rfl, split]
  simp

/-! ### A line -/

instance (text : String) : Decidable (Unbroken text) :=
  decidable_of_iff (text.toList.all fun c => !c.isWhitespace) (by simp [Unbroken])

theorem Unbroken.append {text more : String} (h : Unbroken text) (h' : Unbroken more) :
    Unbroken (text ++ more) := by
  intro c mem
  rw [String.toList_append, List.mem_append] at mem
  exact mem.elim (h c) (h' c)

theorem not_isWhitespace_of_isDigit {c : Char} (digit : c.isDigit = true) :
    c.isWhitespace = false := by
  rw [Bool.eq_false_iff]
  intro blank
  simp only [Char.isWhitespace, Bool.or_eq_true, decide_eq_true_eq] at blank
  rcases blank with ((rfl | rfl) | rfl) | rfl <;> exact absurd digit (by decide)

theorem unbroken_natRepr (n : Nat) : Unbroken n.repr := by
  intro c mem
  rw [Nat.toList_repr] at mem
  exact not_isWhitespace_of_isDigit (Nat.isDigit_of_mem_toDigits (by decide) (by decide) mem)

theorem unbroken_intRepr (i : Int) : Unbroken i.repr := by
  cases i with
  | ofNat n => exact unbroken_natRepr n
  | negSucc n =>
      have minus : Unbroken "-" := by decide
      exact minus.append (unbroken_natRepr n.succ)

namespace Change

variable (c : Change)

def words : List String :=
  [c.time.repr ++ "ms", c.kind.name, "#" ++ c.pointer.repr, "->", c.stage.name] ++
    if c.triggered then ["triggered"] else []

theorem line_eq_intercalate : c.line = " ".intercalate c.words := by
  cases triggered : c.triggered <;> simp [line, words, triggered, ← String.toList_inj]

theorem unbroken_of_mem_words : ∀ w ∈ c.words, Unbroken w := by
  have kind : Unbroken c.kind.name := by cases c.kind <;> decide
  have stage : Unbroken c.stage.name := by cases c.stage <;> decide
  have time : Unbroken (c.time.repr ++ "ms") := (unbroken_natRepr c.time).append (by decide)
  have sharp : Unbroken "#" := by decide
  have pointer : Unbroken ("#" ++ c.pointer.repr) := sharp.append (unbroken_intRepr c.pointer)
  have arrow : Unbroken "->" := by decide
  have trigger : Unbroken "triggered" := by decide
  cases triggered : c.triggered <;>
    simp [words, triggered, kind, stage, time, pointer, arrow, trigger]

/-- A line is read back word by word. -/
theorem wordsOf_line : wordsOf c.line = c.words := by
  rw [line_eq_intercalate]
  exact wordsOf_intercalate (by simp [words]) c.unbroken_of_mem_words

/-- A line has no end in it. -/
theorem unended_line : '\n' ∉ c.line.toList := by
  have unended : ∀ w ∈ c.words, '\n' ∉ w.toList := by
    intro w mem ends
    exact absurd (c.unbroken_of_mem_words w mem '\n' ends) (by decide)
  cases triggered : c.triggered <;>
    simpa [line, words, triggered, not_or, and_assoc] using unended

/-- What a line ends in. -/
theorem toList_line : ∃ front, c.line.toList =
    front ++ (c.stage.name.toList ++ if c.triggered then " triggered".toList else []) := by
  refine ⟨(c.time.repr ++ "ms " ++ c.kind.name ++ " #" ++ c.pointer.repr ++ " -> ").toList, ?_⟩
  cases triggered : c.triggered <;> simp [line, triggered]

/-- A line ends in the word for a trigger exactly if there was one: no stage has a name that
does. -/
theorem endsWith_line : c.line.endsWith "triggered" = c.triggered := by
  rw [Bool.eq_iff_iff, String.endsWith_eq_endsWith_toSlice, String.Slice.endsWith_string_iff,
    String.copy_toSlice]
  obtain ⟨front, line⟩ := c.toList_line
  rw [line]
  cases c.triggered with
  | true => exact iff_of_true ⟨front ++ c.stage.name.toList ++ [' '], by simp⟩ rfl
  | false =>
      refine iff_of_false ?_ Bool.false_ne_true
      rintro ⟨rest, eq⟩
      have last := congrArg List.getLast? eq
      cases stage : c.stage <;> simp [stage, Stage.name] at last

end Change

/-- The stage on a line: the word that follows the arrow. -/
def stageOn? (line : String) : Option Stage := (wordsOf line)[4]?.bind Stage.ofName?

theorem stageOn?_line (c : Change) : stageOn? c.line = some c.stage := by
  rw [stageOn?, Change.wordsOf_line]
  exact Stage.ofName?_name c.stage

/-- The stage that lines end with, if the stage before them was `initial`. -/
def stageToldBy? (initial : Stage) (lines : List String) : Option Stage :=
  match lines.getLast? with
  | none => some initial
  | some line => stageOn? line

theorem stageToldBy?_lines (initial : Stage) (changes : List Change) :
    stageToldBy? initial (changes.map Change.line) =
      some ((changes.getLast?.map Change.stage).getD initial) := by
  rw [stageToldBy?, List.getLast?_map]
  cases changes.getLast? with
  | none => rfl
  | some c => exact stageOn?_line c

/-! ### A trace -/

namespace Trace

/-- Steps, each with the stage just before it: that of the step before, or `initial` for the
first. -/
def withStageBefore (initial : Stage) (steps : List TraceStep) : List (Stage × TraceStep) :=
  (initial :: steps.map TraceStep.stage).zip steps

/-- A step completed the gesture, or changed the stage that was there just before. -/
def isListed (x : Stage × TraceStep) : Bool := x.2.triggered || x.2.stage ≠ x.1

/-- The first `n` steps of a trace. -/
def upTo (t : Trace) (n : Nat) : Trace := { t with steps := t.steps.take n }

/-- How many of the first `n` steps are listed. -/
def listedWithin (t : Trace) (n : Nat) : Nat :=
  ((withStageBefore t.initial t.steps).take n).countP isListed

theorem withStageBefore_cons (initial : Stage) (s : TraceStep) (rest : List TraceStep) :
    withStageBefore initial (s :: rest) = (initial, s) :: withStageBefore s.stage rest := rfl

theorem isListed_eq_false_iff {initial : Stage} {s : TraceStep} :
    isListed (initial, s) = false ↔ s.stage = initial ∧ s.triggered = false := by
  simp [isListed, and_comm]

/-- What is left out has not changed the stage, so that the stage that was listed last is the stage
just before. -/
theorem changesFrom_eq_filter (initial : Stage) (steps : List TraceStep) :
    changesFrom initial steps =
      ((withStageBefore initial steps).filter isListed).map fun x => x.2.change := by
  induction steps generalizing initial with
  | nil => rfl
  | cons s rest ih =>
      rw [changesFrom, withStageBefore_cons]
      by_cases left_out : s.stage = initial ∧ s.triggered = false
      · rw [if_pos left_out, List.filter_cons_of_neg (by simp [isListed_eq_false_iff.2 left_out]),
          ih, left_out.1]
      · have listed : isListed (initial, s) = true := by
          rwa [← Bool.not_eq_false, isListed_eq_false_iff]
        rw [if_neg left_out, List.filter_cons_of_pos listed, List.map_cons, ih]

/-- The last change has the stage so far. -/
theorem stage_getLast?_changesFrom (initial : Stage) (steps : List TraceStep) :
    ((changesFrom initial steps).getLast?.map Change.stage).getD initial =
      stageAfter initial steps := by
  induction steps generalizing initial with
  | nil => rfl
  | cons s rest ih =>
      rw [changesFrom, stageAfter, ← ih]
      by_cases left_out : s.stage = initial ∧ s.triggered = false
      · rw [if_pos left_out, left_out.1]
      · rw [if_neg left_out, List.getLast?_cons]
        cases (changesFrom s.stage rest).getLast? with
        | none => rfl
        | some last => rfl

/-- Listing can be interrupted: what is listed later compares with the stage so far. -/
theorem changesFrom_append (initial : Stage) (steps more : List TraceStep) :
    changesFrom initial (steps ++ more) =
      changesFrom initial steps ++ changesFrom (stageAfter initial steps) more := by
  induction steps generalizing initial with
  | nil => rfl
  | cons s rest ih =>
      rw [List.cons_append, changesFrom, changesFrom, stageAfter]
      by_cases left_out : s.stage = initial ∧ s.triggered = false
      · rw [if_pos left_out, if_pos left_out, left_out.1, ih]
      · rw [if_neg left_out, if_neg left_out, ih, List.cons_append]

theorem withStageBefore_take (initial : Stage) (steps : List TraceStep) (n : Nat) :
    withStageBefore initial (steps.take n) = (withStageBefore initial steps).take n := by
  induction steps generalizing initial n with
  | nil => simp [withStageBefore]
  | cons s rest ih =>
      cases n with
      | zero => rfl
      | succ n => rw [List.take_succ_cons, withStageBefore_cons, withStageBefore_cons, ih,
          List.take_succ_cons]

/-- The changes among the first steps are the first of the changes. -/
theorem take_changes (t : Trace) (n : Nat) :
    t.changes.take (t.listedWithin n) = (t.upTo n).changes := by
  have split : t.changes = (t.upTo n).changes ++
      changesFrom (t.upTo n).finalStage (t.steps.drop n) := by
    rw [changes, ← List.take_append_drop n t.steps, changesFrom_append, List.take_append_drop]
    rfl
  have length : (t.upTo n).changes.length = t.listedWithin n := by
    rw [changes, changesFrom_eq_filter, List.length_map, ← List.countP_eq_length_filter,
      listedWithin, ← withStageBefore_take]
    rfl
  rw [split, ← length, List.take_left]

theorem linesOf_transitions (t : Trace) : linesOf t.transitions = t.changes.map Change.line := by
  have text : t.transitions = String.join ((t.changes.map Change.line).map fun l => l ++ "\n") := by
    rw [transitions, List.map_map]
    rfl
  rw [text]
  refine linesOf_join _ fun l listed => ?_
  obtain ⟨c, _, rfl⟩ := List.mem_map.1 listed
  exact c.unended_line

/-- The transitions of every trace have one line for each step that completed the gesture or changed
the stage that was there just before, in order.  After any number of steps the stage is the one on
the last of their lines, or the initial one if they have none, and as many lines end in the word for
a trigger as there were triggers. -/
theorem told_by_transitions (t : Trace) :
    let lines := linesOf t.transitions
    lines = ((withStageBefore t.initial t.steps).filter isListed).map (fun x => x.2.change.line) ∧
      (∀ n, stageToldBy? t.initial (lines.take (t.listedWithin n)) = some (t.upTo n).finalStage) ∧
      lines.countP (fun l => l.endsWith "triggered") = t.triggers := by
  intro lines
  have told : lines = t.changes.map Change.line := t.linesOf_transitions
  refine ⟨?_, fun n => ?_, ?_⟩
  · rw [told, changes, changesFrom_eq_filter, List.map_map]
    rfl
  · rw [told, ← List.map_take, take_changes, stageToldBy?_lines]
    exact congrArg some (stage_getLast?_changesFrom t.initial (t.upTo n).steps)
  · have ends : (fun l => l.endsWith "triggered") ∘ Change.line = Change.triggered :=
      funext Change.endsWith_line
    rw [told, List.countP_map, ends]
    exact countP_triggered_changesFrom t.initial t.steps

/-- A trigger has its line also where it leaves the stage as it was, and a step that does neither
has none. -/
example :
    let step (kind : Touch.Kind) (time : Time) (stage : Stage) (triggered : Bool) : TraceStep :=
      ⟨⟨kind, 0, ⟨10, 10⟩, time⟩, true, stage, none, triggered, false⟩
    (ofSteps [step .down 0 .pending false, step .move 20 .pending false,
      step .move 40 .pending true, step .up 60 .idle false]).transitions =
        "0ms Down #0 -> Pending\n40ms Move #0 -> Pending triggered\n60ms Up #0 -> Idle\n" := by
  decide +kernel

end Trace
end ExitGesture
