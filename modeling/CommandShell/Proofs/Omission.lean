import CommandShell.Proofs.Place
import CommandShell.Proofs.Status

/-!
# Leaving out a line

What one line does has a say in later lines only through where it leaves the process and the session.
Everything else that a line can change is the status, and no line looks at the status.

* `lasting_admits`: no line changes the files, the environment or the builtins.
* `Line.run_interpret_withStatus`: in worlds that differ in the status a line does the same, and the
  worlds that it leaves differ in the status at most.  `Line.run_interpret_of_setsStatus`: where the
  line sets the status they do not differ at all.
* `converse_withStatus` carries this over to conversations.

So a line that moves nothing can be left out of a conversation (`converse_omit`): the rest of the
conversation is what it was.
-/

namespace CommandShell

/-! ## What no line changes -/

namespace World

/-- The files, the environment and the builtins are what they were. -/
structure SameMeans (a b : World) : Prop where
  /-- The files of the host are the same. -/
  files : b.host.files = a.host.files
  /-- The environments are the same. -/
  environment : b.session.environment = a.session.environment
  /-- The same builtins are registered. -/
  builtins : b.builtins = a.builtins

theorem SameMeans.refl (w : World) : w.SameMeans w := ⟨rfl, rfl, rfl⟩

theorem SameMeans.trans {a b c : World} (h : a.SameMeans b) (h' : b.SameMeans c) : a.SameMeans c :=
  ⟨h'.files.trans h.files, h'.environment.trans h.environment, h'.builtins.trans h.builtins⟩

/-- To leave the files, the environment and the builtins alone is a conduct. -/
def lasting : Conduct where
  allows a _ b := a.SameMeans b
  refl := .refl
  trans := .trans

/-- No line does anything else. -/
theorem lasting_admits : lasting.Admits where
  move target w := by
    cases w.host.attempt target with
    | refused fault he =>
      rw [Action.run_moveTo_refused he]
      exact .refl w
    | lost moved he hr =>
      rw [Action.run_moveTo_lost he hr]
      exact ⟨Host.files_of_enter he, rfl, rfl⟩
    | arrived moved he hr =>
      rw [Action.run_moveTo_arrived he hr]
      exact ⟨Host.files_of_enter he, rfl, rfl⟩
  launch executable words w := .refl w
  call name arguments w := .refl w
  note text w := .refl w
  status status w := ⟨rfl, rfl, rfl⟩

@[simp] theorem withStatus_withStatus (w : World) (s t : Int) :
    (w.withStatus s).withStatus t = w.withStatus t := rfl

@[simp] theorem withStatus_status (w : World) : w.withStatus w.session.status = w := rfl

/-- Worlds with the same means and in the same places differ in the status at most. -/
theorem SameMeans.eq_withStatus {a b : World} (h : a.SameMeans b)
    (hdirectory : b.host.directory = a.host.directory) (hremoved : b.host.removed = a.host.removed)
    (hplace : b.session.directory = a.session.directory) :
    a = b.withStatus a.session.status := by
  rcases a with ⟨⟨files, directory, removed⟩, ⟨environment, place, status⟩, builtins⟩
  rcases b with ⟨⟨files', directory', removed'⟩, ⟨environment', place', status'⟩, builtins'⟩
  obtain ⟨rfl, rfl, rfl⟩ := h
  subst hdirectory hremoved hplace
  rfl

end World

/-! ## No command looks at the status -/

namespace Run

variable {α : Type}

/-- The run that leaves the given status. -/
def withStatus (run : Run α) (status : Int) : Run α :=
  { run with world := run.world.withStatus status }

@[simp] theorem outcome_withStatus (run : Run α) (status : Int) :
    (run.withStatus status).outcome = run.outcome := rfl
@[simp] theorem events_withStatus (run : Run α) (status : Int) :
    (run.withStatus status).events = run.events := rfl
@[simp] theorem world_withStatus (run : Run α) (status : Int) :
    (run.withStatus status).world = run.world.withStatus status := rfl

@[simp] theorem withStatus_mk (outcome : Except Stop α) (events : List Event) (w : World)
    (status : Int) :
    withStatus ⟨outcome, events, w⟩ status = ⟨outcome, events, w.withStatus status⟩ := rfl

@[simp] theorem withStatus_status (run : Run α) :
    run.withStatus run.world.session.status = run := rfl

/-- Settling a run that was interrupted leaves the status alone. -/
theorem settled_withStatus_of_interrupt {run : Run Next} (h : run.outcome = .error .interrupt)
    (status : Int) : (run.withStatus status).settled = run.settled.withStatus status := by
  simp [settled, withStatus, h]

/-- Settling any other run sets the status, whatever it was. -/
theorem settled_withStatus_of_ne_interrupt {run : Run Next} (hrun : Contained run.outcome)
    (h : run.outcome ≠ .error .interrupt) (status : Int) :
    (run.withStatus status).settled = run.settled := by
  rcases hrun.cases with ⟨next, hout⟩ | ⟨failure, hout⟩ | hout
  · simp [settled, withStatus, hout]
  · simp [settled, withStatus, hout]
  · exact absurd hout h

end Run

theorem Builtin.run_execute_withStatus (builtin : Builtin) (name : String)
    (arguments : List String) (w : World) (status : Int) :
    (builtin.execute name arguments).run (w.withStatus status) =
      ((builtin.execute name arguments).run w).withStatus status := by
  cases builtin with
  | changeDirectory =>
    change (changeDirectoryTo arguments).run (w.withStatus status) =
      ((changeDirectoryTo arguments).run w).withStatus status
    by_cases hlen : arguments.length = 1
    · obtain ⟨target, rfl⟩ := List.length_eq_one_iff.1 hlen
      have hhost : (w.withStatus status).host = w.host := rfl
      cases w.host.attempt target with
      | refused fault he =>
        rw [run_changeDirectoryTo_refused he, run_changeDirectoryTo_refused (hhost ▸ he)]
        rfl
      | lost moved he hr =>
        rw [run_changeDirectoryTo_lost he hr, run_changeDirectoryTo_lost (hhost ▸ he) hr]
        rfl
      | arrived moved he hr =>
        rw [run_changeDirectoryTo_arrived he hr, run_changeDirectoryTo_arrived (hhost ▸ he) hr]
        rfl
    · rw [run_changeDirectoryTo_of_length_ne hlen, run_changeDirectoryTo_of_length_ne hlen]
      rfl
  | leave => rfl
  | extension answer => cases answer <;> rfl

namespace Command

theorem run_runExternal_withStatus (command : Command) (w : World) (status : Int) :
    command.runExternal.run (w.withStatus status) =
      (command.runExternal.run w).withStatus status := by
  have hsearch : Search.program? (w.withStatus status) command.name =
      Search.program? w command.name := rfl
  cases hs : Search.program? w command.name with
  | none =>
    rw [run_runExternal_of_none hs, run_runExternal_of_none (hsearch.trans hs)]
    rfl
  | some executable =>
    rw [run_runExternal_of_some hs, run_runExternal_of_some (hsearch.trans hs)]
    rfl

theorem run_execute_withStatus (command : Command) (w : World) (status : Int) :
    command.execute.run (w.withStatus status) = (command.execute.run w).withStatus status := by
  have hbuiltins : (w.withStatus status).builtins.get? command.name =
      w.builtins.get? command.name := rfl
  cases hb : w.builtins.get? command.name with
  | none =>
    rw [run_execute_of_none hb, run_execute_of_none (hbuiltins.trans hb),
      run_runExternal_withStatus]
    rfl
  | some builtin =>
    rw [run_execute_of_some hb, run_execute_of_some (hbuiltins.trans hb),
      Builtin.run_execute_withStatus]

end Command

/-! ## Lines -/

namespace Line

theorem run_attempt_withStatus (text : String) (w : World) (status : Int) :
    (attempt text).run (w.withStatus status) = ((attempt text).run w).withStatus status := by
  rcases h : words text with kind | _ | ⟨name, arguments⟩
  · rw [attempt_of_words_error h]
    rfl
  · rw [attempt_of_words h]
    rfl
  · rw [attempt_of_words h]
    exact Command.run_execute_withStatus { name, arguments } w status

/-- A line sets the status if it is not blank and is not interrupted. -/
def SetsStatus (line : String) (w : World) : Prop :=
  Text.trim line ≠ "" ∧ ((interpret line).run w).outcome ≠ .error .interrupt

/-- Whatever the status is, a line that sets it does the same and leaves the same world. -/
theorem run_interpret_of_setsStatus {line : String} {w : World} (h : SetsStatus line w)
    (status : Int) :
    (interpret line).run (w.withStatus status) = (interpret line).run w := by
  obtain ⟨ht, hinterrupt⟩ := h
  rw [outcome_interpret_eq, Ne, Run.outcome_settled_eq_interrupt_iff] at hinterrupt
  rw [interpret_of_trim_ne_empty ht, run_carryOut, run_carryOut, run_attempt_withStatus,
    Run.settled_withStatus_of_ne_interrupt (contained_attempt _ w) hinterrupt]

/-- Whatever the status is, a line does the same, and leaves the same world but for the status. -/
theorem run_interpret_withStatus (line : String) (w : World) (status : Int) :
    ∃ left, (interpret line).run (w.withStatus status) =
      ((interpret line).run w).withStatus left := by
  by_cases ht : Text.trim line = ""
  · rw [interpret_of_trim_eq_empty ht]
    exact ⟨status, rfl⟩
  by_cases hinterrupt : ((attempt (Text.trim line)).run w).outcome = .error .interrupt
  · refine ⟨status, ?_⟩
    rw [interpret_of_trim_ne_empty ht, run_carryOut, run_carryOut, run_attempt_withStatus,
      Run.settled_withStatus_of_interrupt hinterrupt]
  · have hset : SetsStatus line w := by
      refine ⟨ht, ?_⟩
      rwa [outcome_interpret_eq, Ne, Run.outcome_settled_eq_interrupt_iff]
    refine ⟨((interpret line).run w).world.session.status, ?_⟩
    rw [run_interpret_of_setsStatus hset, Run.withStatus_status]

end Line

/-! ## Readings -/

namespace Reading

theorem stops_withStatus {reading : Reading} {w : World} {status : Int} :
    reading.Stops (w.withStatus status) ↔ reading.Stops w := by
  cases reading with
  | interrupt => exact Iff.rfl
  | text line =>
    obtain ⟨left, h⟩ := Line.run_interpret_withStatus line w status
    simp only [Stops, h, Run.outcome_withStatus]

theorem breaksLine_withStatus (reading : Reading) (w : World) (status : Int) :
    reading.breaksLine (w.withStatus status) = reading.breaksLine w := by
  cases reading with
  | interrupt => rfl
  | text line =>
    obtain ⟨left, h⟩ := Line.run_interpret_withStatus line w status
    simp only [breaksLine, h, Run.isInterrupted, Run.outcome_withStatus]

theorem interpretAll_singleton_withStatus (reading : Reading) (w : World) (status : Int) :
    ∃ left, interpretAll [reading] (w.withStatus status) =
      (interpretAll [reading] w).withStatus left := by
  cases reading with
  | interrupt => exact ⟨status, rfl⟩
  | text line =>
    by_cases hline : line = ""
    · subst hline
      exact ⟨status, rfl⟩
    · obtain ⟨left, h⟩ := Line.run_interpret_withStatus line w status
      refine ⟨left, ?_⟩
      rw [interpretAll_text hline, interpretAll_text hline, h, Run.events_withStatus,
        Run.world_withStatus, Run.withStatus_mk]

/-- Whatever the status is, readings do the same, and leave the same world but for the status. -/
theorem interpretAll_withStatus (readings : List Reading) (w : World) (status : Int) :
    ∃ left, interpretAll readings (w.withStatus status) =
      (interpretAll readings w).withStatus left := by
  induction readings generalizing w status with
  | nil => exact ⟨status, rfl⟩
  | cons reading rest ih =>
    obtain ⟨between, hfirst⟩ := interpretAll_singleton_withStatus reading w status
    obtain ⟨left, hrest⟩ := ih (interpretAll [reading] w).world between
    rw [interpretAll_cons reading rest, interpretAll_cons reading rest, hfirst,
      Run.world_withStatus, hrest]
    exact ⟨left, rfl⟩

theorem trace_withStatus (prompt : String) (reading : Reading) (w : World) (status : Int) :
    reading.trace prompt (w.withStatus status) = reading.trace prompt w := by
  obtain ⟨left, h⟩ := interpretAll_singleton_withStatus reading w status
  rw [trace, trace, h, breaksLine_withStatus, Run.events_withStatus]

theorem traces_withStatus (prompt : String) (readings : List Reading) (w : World) (status : Int) :
    traces prompt readings (w.withStatus status) = traces prompt readings w := by
  induction readings generalizing w status with
  | nil => rfl
  | cons reading rest ih =>
    obtain ⟨between, h⟩ := interpretAll_singleton_withStatus reading w status
    rw [traces, traces, trace_withStatus, h, Run.world_withStatus, ih]

theorem NeverStop.withStatus {w : World} {readings : List Reading} (h : NeverStop w readings)
    (status : Int) : NeverStop (w.withStatus status) readings := by
  intro before reading after hsplit
  obtain ⟨left, hbefore⟩ := interpretAll_withStatus before w status
  rw [hbefore, Run.world_withStatus, stops_withStatus]
  exact h before reading after hsplit

theorem Reads.withStatus {w : World} {input reads unread : List Reading}
    (h : Reads w input reads unread) (status : Int) :
    Reads (w.withStatus status) input reads unread := by
  cases h with
  | @stopped before last _ hinput hbefore hlast =>
    refine .stopped hinput (hbefore.withStatus status) ?_
    obtain ⟨left, h⟩ := interpretAll_withStatus before w status
    rwa [h, Run.world_withStatus, stops_withStatus]
  | usedUp hinput => exact .usedUp (hinput.withStatus status)

/-- A reading leaves the files, the environment and the builtins alone. -/
theorem sameMeans_interpretAll (reading : Reading) (w : World) :
    w.SameMeans (interpretAll [reading] w).world := by
  cases reading with
  | interrupt => exact .refl w
  | text line =>
    by_cases hline : line = ""
    · subst hline
      exact .refl w
    · rw [interpretAll_text hline]
      exact World.lasting_admits.keeps_interpret line w

/-- One of the readings is a line that sets the status, in the world that the lines before it have
left. -/
def SetStatus (w : World) (readings : List Reading) : Prop :=
  ∃ before line after, readings = before ++ text line :: after ∧
    Line.SetsStatus line (interpretAll before w).world

/-- If the status is set on the way, readings leave the same world whatever the status was. -/
theorem SetStatus.world_interpretAll {w : World} {readings : List Reading}
    (h : SetStatus w readings) (status : Int) :
    (interpretAll readings (w.withStatus status)).world = (interpretAll readings w).world := by
  obtain ⟨before, line, after, rfl, hline⟩ := h
  have hne : line ≠ "" := by
    rintro rfl
    exact hline.1 rfl
  obtain ⟨left, hbefore⟩ := interpretAll_withStatus before w status
  rw [world_interpretAll_append, world_interpretAll_append before, hbefore, Run.world_withStatus,
    interpretAll_cons, interpretAll_cons _ after, interpretAll_text hne, interpretAll_text hne,
    Line.run_interpret_of_setsStatus hline]

theorem SetStatus.append {w : World} {readings : List Reading} (h : SetStatus w readings)
    (more : List Reading) : SetStatus w (readings ++ more) := by
  obtain ⟨before, line, after, rfl, hline⟩ := h
  exact ⟨before, line, after ++ more, by simp, hline⟩

end Reading

open Reading

/-! ## Conversations -/

/-- The readings that a conversation has taken from its input, apart from the end of the input that
comes after all of it. -/
theorem Reading.Reads.exists_taken {w : World} {input reads unread : List Reading}
    (h : Reads w input reads unread) :
    ∃ taken, input = taken ++ unread ∧ (reads = taken ∨ reads = taken ++ [ended]) := by
  cases h with
  | @stopped before last _ hinput => exact ⟨before ++ [last], by simp [hinput], .inl rfl⟩
  | usedUp => exact ⟨input, by simp, .inr rfl⟩

/-- **A conversation does not look at the status it starts with.**  Whatever that is, it ends alike,
does the same, reads the same and leaves the same world but for the status; and no trace is left of
the status if a line has set it since. -/
theorem converse_withStatus (prompt : String) (input : List Reading) (w : World) (status : Int) :
    ∃ taken later,
      input = taken ++ (converse prompt input w).unread ∧
      converse prompt input (w.withStatus status) =
        { converse prompt input w with
          world := (converse prompt input w).world.withStatus later } ∧
      (SetStatus w taken →
        (converse prompt input (w.withStatus status)).world = (converse prompt input w).world) := by
  obtain ⟨reads, unread, hreads⟩ := exists_reads w input
  obtain ⟨taken, hinput, htaken⟩ := hreads.exists_taken
  obtain ⟨left, hleft⟩ := interpretAll_withStatus reads w status
  rw [converse_of_reads hreads, converse_of_reads (hreads.withStatus status)]
  refine ⟨taken, left, hinput, ?_, fun hset ↦ ?_⟩
  · rw [hleft, traces_withStatus]
    rfl
  · have hreadsSet : SetStatus w reads := by
      rcases htaken with rfl | rfl
      · exact hset
      · exact hset.append _
    exact hreadsSet.world_interpretAll status

/-- If a conversation has got as far as a reading, no reading before it was a stop. -/
theorem neverStop_of_unread {prompt : String} {before rest : List Reading} {w : World}
    (h : (converse prompt (before ++ rest) w).unread.length < rest.length) :
    NeverStop w before := by
  obtain ⟨reads, unread, hreads⟩ := exists_reads w before
  cases hreads with
  | usedUp hbefore => exact hbefore
  | @stopped first last _ hsplit hfirst hlast =>
    -- The conversation has ended at a stop before the reading, and left it unread.
    have hall : Reads w (before ++ rest) (first ++ [last]) (unread ++ rest) :=
      .stopped (by simp [hsplit]) hfirst hlast
    rw [converse_of_reads hall, List.length_append] at h
    omega

/-- A conversation that has got past a reading goes on in the world that this reading has left. -/
theorem converse_append_cons {before : List Reading} {reading : Reading} {w : World}
    (hbefore : NeverStop w before) (hstop : ¬ reading.Stops (interpretAll before w).world)
    (prompt : String) (after : List Reading) :
    converse prompt (before ++ reading :: after) w =
      (converse prompt after (interpretAll (before ++ [reading]) w).world).after
        (traces prompt before w ++ reading.trace prompt (interpretAll before w).world) := by
  rw [converse_append hbefore, converse_cons_of_not_stops hstop, world_interpretAll_append]
  simp [Exchange.after, Run.after]

/-- **Only a line that moves has a say in later lines.**  Take a conversation and one of the readings
it has taken, which is no stop and leaves the process and the session where they were.  Without this
reading the conversation ends as well, takes the same readings before and after, and does exactly
the same, but for what takes place at this reading.  It leaves the same world but for the status,
and that is the same too if a line after this reading sets it. -/
theorem converse_omit {prompt : String} {before after : List Reading} {omitted : Reading}
    {w : World}
    (htaken : (converse prompt (before ++ omitted :: after) w).unread.length ≤ after.length)
    (hstop : ¬ omitted.Stops (interpretAll before w).world)
    (hdirectory : (interpretAll (before ++ [omitted]) w).world.host.directory =
      (interpretAll before w).world.host.directory)
    (hremoved : (interpretAll (before ++ [omitted]) w).world.host.removed =
      (interpretAll before w).world.host.removed)
    (hplace : (interpretAll (before ++ [omitted]) w).world.session.directory =
      (interpretAll before w).world.session.directory) :
    let whole := converse prompt (before ++ omitted :: after) w
    let rest := converse prompt (before ++ after) w
    whole.outcome = .ok 0 ∧ rest.outcome = .ok 0 ∧
    ∃ taken later status,
      after = taken ++ whole.unread ∧ rest.unread = whole.unread ∧
      whole.events =
        traces prompt before w ++ omitted.trace prompt (interpretAll before w).world ++ later ∧
      rest.events = traces prompt before w ++ later ∧
      rest.world = whole.world.withStatus status ∧
      (SetStatus (interpretAll (before ++ [omitted]) w).world taken → rest.world = whole.world) := by
  have hbefore : NeverStop w before := neverStop_of_unread (Nat.lt_succ_of_le htaken)
  have hmeans : (interpretAll before w).world.SameMeans
      (interpretAll (before ++ [omitted]) w).world := by
    rw [world_interpretAll_append]
    exact omitted.sameMeans_interpretAll _
  have hstatus := hmeans.eq_withStatus hdirectory hremoved hplace
  obtain ⟨taken, status, hafter, hrest, hset⟩ :=
    converse_withStatus prompt after (interpretAll (before ++ [omitted]) w).world
      (interpretAll before w).world.session.status
  rw [← hstatus] at hrest hset
  dsimp only
  rw [converse_append_cons hbefore hstop, converse_append hbefore, Exchange.outcome_after,
    Exchange.outcome_after, outcome_converse, outcome_converse]
  refine ⟨rfl, rfl, taken, _, status, hafter, ?_, rfl, ?_, ?_, hset⟩
  · rw [Exchange.unread_after, Exchange.unread_after, hrest]
  · rw [Exchange.events_after, hrest]
  · rw [Exchange.world_after, Exchange.world_after, hrest]

/-- A conversation from which a `cd` is left out that is refused.  Its line makes the status one,
and the program that is run later makes it zero again. -/
theorem converse_omit_refused :
    let start := World.besideRemoved
    let after := [text "cd gone", text "say", text "", interrupt]
    let left := (interpretAll ([] ++ [text "cd lost"]) start).world
    (converse "$ " ([] ++ text "cd lost" :: after) start).unread.length ≤ after.length ∧
    ¬ (text "cd lost").Stops (interpretAll [] start).world ∧
    left.host.directory = (interpretAll [] start).world.host.directory ∧
    left.host.removed = (interpretAll [] start).world.host.removed ∧
    left.session.directory = (interpretAll [] start).world.session.directory ∧
    left.session.status ≠ start.session.status ∧
    (converse "$ " ([] ++ after) start).world =
      (converse "$ " ([] ++ text "cd lost" :: after) start).world := by
  dsimp only
  have hunread : (converse "$ " ([] ++ text "cd lost" ::
      [text "cd gone", text "say", text "", interrupt]) World.besideRemoved).unread =
      [interrupt] := rfl
  have hstop : ¬ (text "cd lost").Stops (interpretAll [] World.besideRemoved).world := by
    have hout : ((Line.interpret "cd lost").run World.besideRemoved).outcome = .ok .proceed := rfl
    rintro (h | h)
    · exact absurd h (by decide)
    · cases hout.symm.trans h
  obtain ⟨-, -, taken, later, status, hafter, -, -, -, -, hset⟩ :=
    converse_omit (by rw [hunread]; decide) hstop rfl rfl rfl
  refine ⟨by rw [hunread]; decide, hstop, rfl, rfl, rfl, by decide, hset ?_⟩
  rw [hunread] at hafter
  obtain rfl : [text "cd gone", text "say", text ""] = taken := List.append_cancel_right hafter
  have hout : ((Line.interpret "say").run (interpretAll [text "cd gone"]
      (interpretAll ([] ++ [text "cd lost"]) World.besideRemoved).world).world).outcome =
      .ok .proceed := rfl
  refine ⟨[text "cd gone"], "say", [text ""], rfl, by decide, ?_⟩
  rw [hout]
  simp

end CommandShell
