import CommandShell.Proofs.Outcome
import CommandShell.Request

/-!
# A conversation is its lines, one after the other

A conversation reads a line, interprets it and starts again.  It is ended by its first *stop*: the
end of the input, or a line that leaves the shell.  Its readings are those of the input up to the
first stop; where the input holds none, they are all of the input, and the end of it that comes next
(`Reads`).

* `Line.interpretAll` interprets lines in order, however each of them ends.
* `Reading.trace` is what takes place at one reading: the prompt, what its line does, and the end of
  the line on the screen where there was no line or an interrupt.
* `converse_append` says that readings which are no stops only add their traces, and leave the world
  that their lines leave in order.

From this, `converse_eq_fold` reads off how a conversation ends, how far it reads, what it does to
the world and what it writes.
-/

namespace CommandShell

namespace Run

variable {α : Type}

/-- Whether a run was interrupted. -/
def isInterrupted (run : Run α) : Bool :=
  match run.outcome with
  | .error .interrupt => true
  | _ => false

theorem isInterrupted_of_ok {run : Run α} {a : α} (h : run.outcome = .ok a) :
    run.isInterrupted = false := by
  simp [isInterrupted, h]

theorem isInterrupted_of_interrupt {run : Run α} (h : run.outcome = .error .interrupt) :
    run.isInterrupted = true := by
  simp [isInterrupted, h]

end Run

/-! ## Lines in order -/

/-- Interpret lines one after the other, however each of them ends. -/
def Line.interpretAll : List String → World → Run Unit
  | [], w => ⟨.ok (), [], w⟩
  | line :: rest, w =>
    (interpretAll rest ((interpret line).run w).world).after ((interpret line).run w).events

theorem Line.world_interpretAll_cons (line : String) (rest : List String) (w : World) :
    (interpretAll (line :: rest) w).world =
      (interpretAll rest ((interpret line).run w).world).world := by
  rw [interpretAll, Run.world_after]

namespace Reading

/-- The line that a reading gives, if it gives one. -/
def line? : Reading → Option String
  | text line => if line = "" then none else some line
  | interrupt => none

/-- The lines that readings give, in order. -/
def lines (readings : List Reading) : List String := readings.filterMap line?

/-- Interpret the lines that readings give, in order. -/
def interpretAll (readings : List Reading) (w : World) : Run Unit :=
  Line.interpretAll (lines readings) w

@[simp] theorem interpretAll_nil (w : World) : interpretAll [] w = ⟨.ok (), [], w⟩ := rfl

@[simp] theorem interpretAll_interrupt (w : World) : interpretAll [interrupt] w = ⟨.ok (), [], w⟩ :=
  rfl

@[simp] theorem interpretAll_end (w : World) : interpretAll [text ""] w = ⟨.ok (), [], w⟩ := rfl

theorem interpretAll_text {line : String} (h : line ≠ "") (w : World) :
    interpretAll [text line] w =
      ⟨.ok (), ((Line.interpret line).run w).events, ((Line.interpret line).run w).world⟩ := by
  simp [interpretAll, lines, line?, h, Line.interpretAll]

/-- The lines of readings are interpreted one reading after the other. -/
theorem interpretAll_cons (reading : Reading) (rest : List Reading) (w : World) :
    interpretAll (reading :: rest) w =
      (interpretAll rest (interpretAll [reading] w).world).after
        (interpretAll [reading] w).events := by
  cases h : reading.line? with
  | none => simp [interpretAll, lines, h, Line.interpretAll]
  | some line => simp [interpretAll, lines, h, Line.interpretAll]

theorem world_interpretAll_append (a b : List Reading) (w : World) :
    (interpretAll (a ++ b) w).world = (interpretAll b (interpretAll a w).world).world := by
  induction a generalizing w with
  | nil => rfl
  | cons reading a ih =>
    rw [List.cons_append, interpretAll_cons reading (a ++ b), interpretAll_cons reading a,
      Run.world_after, ih, Run.world_after]

/-! ## Stops -/

/-- A stop ends the conversation: it is the end of the input, or a line that leaves the shell. -/
def Stops (w : World) : Reading → Prop
  | text line => line = "" ∨ ((Line.interpret line).run w).outcome = .ok .leave
  | interrupt => False

/-- None of the readings is a stop, each of them taken in the world that the lines before it have
left. -/
def NeverStop (w : World) (readings : List Reading) : Prop :=
  ∀ before reading after, readings = before ++ reading :: after →
    ¬ reading.Stops (interpretAll before w).world

theorem neverStop_nil (w : World) : NeverStop w [] := by
  intro before reading after h
  simp at h

theorem neverStop_cons_iff {reading : Reading} {rest : List Reading} {w : World} :
    NeverStop w (reading :: rest) ↔
      ¬ reading.Stops w ∧ NeverStop (interpretAll [reading] w).world rest := by
  constructor
  · intro h
    refine ⟨h [] reading rest rfl, fun before next after hrest ↦ ?_⟩
    rw [← world_interpretAll_append]
    exact h (reading :: before) next after (by rw [hrest, List.cons_append])
  · rintro ⟨hreading, hrest⟩ before next after h
    cases before with
    | nil =>
      obtain ⟨rfl, -⟩ := List.cons.inj h
      exact hreading
    | cons first before =>
      obtain ⟨rfl, htail⟩ := List.cons.inj h
      rw [← List.singleton_append, world_interpretAll_append]
      exact hrest before next after htail

/-- The readings of a conversation, and what it leaves unread. -/
inductive Reads (w : World) (input : List Reading) : List Reading → List Reading → Prop
  /-- They end with the first stop of the input, and what comes after it is left unread. -/
  | stopped {before : List Reading} {last : Reading} {unread : List Reading} :
    input = before ++ last :: unread → NeverStop w before →
      last.Stops (interpretAll before w).world → Reads w input (before ++ [last]) unread
  /-- The input holds no stop.  All of it is read, and the end of it that comes next. -/
  | usedUp : NeverStop w input → Reads w input (input ++ [ended]) []

/-- Every input has a first stop, or none. -/
theorem exists_reads (w : World) (input : List Reading) :
    ∃ reads unread, Reads w input reads unread := by
  induction input generalizing w with
  | nil => exact ⟨_, _, .usedUp (neverStop_nil w)⟩
  | cons reading rest ih =>
    by_cases hstop : reading.Stops w
    · have hfirst : reading :: rest = [] ++ reading :: rest := rfl
      exact ⟨_, _, .stopped hfirst (neverStop_nil w) hstop⟩
    · obtain ⟨reads, unread, h⟩ := ih (interpretAll [reading] w).world
      cases h with
      | @stopped before last _ hrest hbefore hlast =>
        have hlonger : reading :: rest = (reading :: before) ++ last :: unread := by
          rw [hrest, List.cons_append]
        refine ⟨_, _, .stopped hlonger (neverStop_cons_iff.2 ⟨hstop, hbefore⟩) ?_⟩
        rwa [← List.singleton_append, world_interpretAll_append]
      | usedUp hrest => exact ⟨_, _, .usedUp (neverStop_cons_iff.2 ⟨hstop, hrest⟩)⟩

/-! ## What takes place at a reading -/

/-- Whether the end of a line is written after a reading: it is after one that gave no line, and
after a line that was interrupted. -/
def breaksLine (w : World) : Reading → Bool
  | text line => line = "" || ((Line.interpret line).run w).isInterrupted
  | interrupt => true

/-- What takes place at a reading. -/
def trace (prompt : String) (w : World) (reading : Reading) : List Event :=
  .write .diagnostics prompt :: (interpretAll [reading] w).events ++
    if reading.breaksLine w then [lineEnd] else []

/-- What takes place at readings in order. -/
def traces (prompt : String) : List Reading → World → List Event
  | [], _ => []
  | reading :: rest, w =>
    reading.trace prompt w ++ traces prompt rest (interpretAll [reading] w).world

/-- At the end of the input and at an interrupt nothing is interpreted. -/
theorem run_turn_end (prompt : String) (w : World) :
    ((text "").turn prompt).run w = ⟨.error .endOfInput, [.write .diagnostics prompt], w⟩ := rfl

theorem run_turn_interrupt (prompt : String) (w : World) :
    (interrupt.turn prompt).run w = ⟨.error .interrupt, [.write .diagnostics prompt], w⟩ := rfl

theorem run_turn_text {line : String} (h : line ≠ "") (prompt : String) (w : World) :
    ((text line).turn prompt).run w =
      ((Line.interpret line).run w).after [.write .diagnostics prompt] := by
  simp [turn, ask, Reading.line, h, Action.run_bind]

end Reading

open Reading

/-! ## Conversations -/

/-- A stop ends the conversation well, and leaves the readings after it. -/
theorem converse_cons_of_stops {reading : Reading} {w : World} (h : reading.Stops w)
    (prompt : String) (rest : List Reading) :
    converse prompt (reading :: rest) w =
      { outcome := .ok 0, events := reading.trace prompt w,
        world := (interpretAll [reading] w).world, unread := rest } := by
  cases reading with
  | text line =>
    by_cases hline : line = ""
    · subst hline
      simp [converse, run_turn_end, trace, breaksLine]
    · have hleave : ((Line.interpret line).run w).outcome = .ok .leave := h.resolve_left hline
      simp [converse, run_turn_text hline, trace, breaksLine, interpretAll_text hline, hline,
        hleave, Run.isInterrupted_of_ok hleave]
  | interrupt => exact absurd h id

/-- After any other reading the conversation goes on. -/
theorem converse_cons_of_not_stops {reading : Reading} {w : World} (h : ¬ reading.Stops w)
    (prompt : String) (rest : List Reading) :
    converse prompt (reading :: rest) w =
      (converse prompt rest (interpretAll [reading] w).world).after (reading.trace prompt w) := by
  cases reading with
  | text line =>
    obtain ⟨hline, hleave⟩ := not_or.1 h
    rcases Line.outcome_interpret line w with ⟨_ | _, hout⟩ | hout
    · simp [converse, run_turn_text hline, trace, breaksLine, interpretAll_text hline, hline, hout,
        Run.isInterrupted_of_ok hout]
    · exact absurd hout hleave
    · simp [converse, run_turn_text hline, trace, breaksLine, interpretAll_text hline, hline, hout,
        Run.isInterrupted_of_interrupt hout]
  | interrupt => simp [converse, run_turn_interrupt, trace, breaksLine]

theorem converse_nil (prompt : String) (w : World) :
    converse prompt [] w =
      { outcome := .ok 0, events := ended.trace prompt w, world := w, unread := [] } := by
  simp [converse, trace, ended, breaksLine]

/-- Readings that are no stops add what takes place at them, and the conversation goes on in the
world that their lines leave. -/
theorem converse_append {before : List Reading} {w : World} (h : NeverStop w before)
    (prompt : String) (rest : List Reading) :
    converse prompt (before ++ rest) w =
      (converse prompt rest (interpretAll before w).world).after (traces prompt before w) := by
  induction before generalizing w with
  | nil => rfl
  | cons reading before ih =>
    obtain ⟨hreading, hbefore⟩ := neverStop_cons_iff.1 h
    rw [List.cons_append, converse_cons_of_not_stops hreading, ih hbefore,
      interpretAll_cons reading before, traces]
    simp [Exchange.after, Run.after, List.append_assoc]

theorem traces_append (prompt : String) (a b : List Reading) (w : World) :
    traces prompt (a ++ b) w = traces prompt a w ++ traces prompt b (interpretAll a w).world := by
  induction a generalizing w with
  | nil => rfl
  | cons reading a ih =>
    rw [List.cons_append, traces, traces, ih, interpretAll_cons reading a, Run.world_after,
      List.append_assoc]

/-- **A conversation is its readings in order**: what takes place is what takes place at each of
them, and the world that is left is the one that their lines leave. -/
theorem converse_of_reads {w : World} {input reads unread : List Reading}
    (h : Reads w input reads unread) (prompt : String) :
    converse prompt input w =
      { outcome := .ok 0, events := traces prompt reads w,
        world := (interpretAll reads w).world, unread } := by
  cases h with
  | @stopped before last _ hinput hbefore hlast =>
    rw [hinput, converse_append hbefore, converse_cons_of_stops hlast, traces_append,
      world_interpretAll_append]
    simp [Exchange.after, Run.after, traces]
  | usedUp hinput =>
    have h := converse_append hinput prompt []
    rw [List.append_nil] at h
    rw [h, converse_nil, traces_append, world_interpretAll_append]
    simp [Exchange.after, Run.after, traces, ended]

/-- Every conversation ends well. -/
theorem outcome_converse (prompt : String) (input : List Reading) (w : World) :
    (converse prompt input w).outcome = .ok 0 := by
  obtain ⟨reads, unread, hreads⟩ := exists_reads w input
  rw [converse_of_reads hreads]

/-! ## What is seen of a conversation -/

namespace Reading

@[simp] theorem effects_trace (prompt : String) (w : World) (reading : Reading) :
    Event.effects (reading.trace prompt w) = Event.effects (interpretAll [reading] w).events := by
  by_cases h : reading.breaksLine w <;> simp [trace, h, lineEnd]

/-- Prompts and line ends apart, a conversation does what its lines do. -/
theorem effects_traces (prompt : String) (readings : List Reading) (w : World) :
    Event.effects (traces prompt readings w) = Event.effects (interpretAll readings w).events := by
  induction readings generalizing w with
  | nil => rfl
  | cons reading rest ih =>
    rw [traces, Event.effects_append, effects_trace, ih, interpretAll_cons reading rest,
      Run.events_after, Event.effects_append]

/-- What is written after the prompt of a reading: an end of the line where there is no line, and
else the diagnostics of the line, with an end of the line where the line is interrupted. -/
def remark (w : World) : Reading → String
  | interrupt => "\n"
  | text line =>
    if line = "" then "\n"
    else
      Event.textOn .diagnostics ((Line.interpret line).run w).events ++
        if ((Line.interpret line).run w).isInterrupted then "\n" else ""

/-- What is written at readings in order: at each of them the prompt, and then its remark in the
world that the lines before it have left. -/
def screen (prompt : String) : List Reading → World → String
  | [], _ => ""
  | reading :: rest, w =>
    prompt ++ reading.remark w ++ screen prompt rest (interpretAll [reading] w).world

theorem textOn_trace (prompt : String) (w : World) (reading : Reading) :
    Event.textOn .diagnostics (reading.trace prompt w) = prompt ++ reading.remark w := by
  cases reading with
  | interrupt => simp [trace, remark, breaksLine, lineEnd, Event.textOn]
  | text line =>
    by_cases hline : line = ""
    · subst hline
      simp [trace, remark, breaksLine, lineEnd, Event.textOn]
    · by_cases hout : ((Line.interpret line).run w).isInterrupted <;>
        simp [trace, remark, breaksLine, lineEnd, Event.textOn, interpretAll_text hline, hline,
          hout]

theorem textOn_traces (prompt : String) (readings : List Reading) (w : World) :
    Event.textOn .diagnostics (traces prompt readings w) = screen prompt readings w := by
  induction readings generalizing w with
  | nil => rfl
  | cons reading rest ih => rw [traces, Event.textOn_append, textOn_trace, ih, screen]

end Reading

/-- **A conversation is the fold of its lines.**  Whatever its input, it ends well.  It reads up to
the first stop, or to the end of the input, and leaves the rest unread; what comes after a stop has
no say in it.  Its world and its effects are those of its lines, interpreted in order.  At each
reading it writes the prompt, and then an end of the line, if there is no line, or else what the
line writes, with an end of the line if it is interrupted. -/
theorem converse_eq_fold (prompt : String) (input : List Reading) (w : World) :
    ∃ reads unread,
      Reads w input reads unread ∧
      (converse prompt input w).outcome = .ok 0 ∧
      (converse prompt input w).unread = unread ∧
      (converse prompt input w).world = (Line.interpretAll (lines reads) w).world ∧
      Event.effects (converse prompt input w).events =
        Event.effects (Line.interpretAll (lines reads) w).events ∧
      Event.textOn .diagnostics (converse prompt input w).events = screen prompt reads w ∧
      (input = reads ++ unread → ∀ other,
        converse prompt (reads ++ other) w = { converse prompt input w with unread := other }) := by
  obtain ⟨reads, unread, hreads⟩ := exists_reads w input
  have hrun := converse_of_reads hreads prompt
  rw [hrun]
  refine ⟨reads, unread, hreads, rfl, rfl, rfl, effects_traces prompt reads w,
    textOn_traces prompt reads w, fun hinput other ↦ ?_⟩
  cases hreads with
  | @stopped before last _ _ hbefore hlast =>
    have hother : Reads w (before ++ [last] ++ other) (before ++ [last]) other :=
      .stopped (by simp) hbefore hlast
    rw [converse_of_reads hother]
  | usedUp => simp at hinput

end CommandShell
