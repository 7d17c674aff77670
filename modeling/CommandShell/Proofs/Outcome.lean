import CommandShell.Proofs.Interpret

/-!
# What can stop a command, and what can stop a line

A command ends with a result, or it fails, or it is interrupted (`Command.contained_execute`).  By
then the fault of a system call has become a failure, and no command sees the end of the input.

A line adds the last step: it reports the failure and goes on, so that only an interrupt can stop it
(`Line.outcome_interpret`).  The file also says which commands are interrupted, and which of them
leave the shell.
-/

namespace CommandShell

/-- The three ways in which a command can end. -/
inductive Contained {α : Type} : Except Stop α → Prop
  /-- It has a result. -/
  | result (a : α) : Contained (.ok a)
  /-- It fails. -/
  | failure (failure : Failure) : Contained (.error (.failure failure))
  /-- It is interrupted. -/
  | interrupt : Contained (.error .interrupt)

theorem Contained.map {α β : Type} {outcome : Except Stop α} (h : Contained outcome) (f : α → β) :
    Contained (outcome.map f) := by
  cases h with
  | result a => exact .result (f a)
  | failure failure => exact .failure failure
  | interrupt => exact .interrupt

theorem Contained.cases {α : Type} {outcome : Except Stop α} (h : Contained outcome) :
    (∃ a, outcome = .ok a) ∨ (∃ failure, outcome = .error (.failure failure)) ∨
      outcome = .error .interrupt := by
  cases h with
  | result a => exact .inl ⟨a, rfl⟩
  | failure failure => exact .inr (.inl ⟨failure, rfl⟩)
  | interrupt => exact .inr (.inr rfl)

theorem map_eq_error_iff {α β : Type} {outcome : Except Stop α} {f : α → β} {stop : Stop} :
    outcome.map f = .error stop ↔ outcome = .error stop := by
  cases outcome <;> simp [Except.map]

theorem map_eq_ok_iff {α β : Type} {outcome : Except Stop α} {f : α → β} {b : β} :
    outcome.map f = .ok b ↔ ∃ a, outcome = .ok a ∧ f a = b := by
  cases outcome <;> simp [Except.map]

/-! ## Commands -/

/-- A builtin has a result or fails. -/
theorem Builtin.outcome_execute (builtin : Builtin) (name : String) (arguments : List String)
    (w : World) :
    (∃ next, ((builtin.execute name arguments).run w).outcome = .ok next) ∨
      ∃ failure, ((builtin.execute name arguments).run w).outcome = .error (.failure failure) := by
  cases builtin with
  | changeDirectory =>
    change (∃ next, ((changeDirectoryTo arguments).run w).outcome = .ok next) ∨
      ∃ failure, ((changeDirectoryTo arguments).run w).outcome = .error (.failure failure)
    by_cases hlen : arguments.length = 1
    · obtain ⟨target, rfl⟩ := List.length_eq_one_iff.1 hlen
      cases w.host.attempt target with
      | refused fault he => exact .inr ⟨_, by rw [run_changeDirectoryTo_refused he]⟩
      | lost moved he hr => exact .inr ⟨_, by rw [run_changeDirectoryTo_lost he hr]⟩
      | arrived moved he hr => exact .inl ⟨_, by rw [run_changeDirectoryTo_arrived he hr]⟩
    · exact .inr ⟨_, by rw [run_changeDirectoryTo_of_length_ne hlen]⟩
  | leave => exact .inl ⟨.leave, rfl⟩
  | extension answer =>
    cases answer with
    | ok next => exact .inl ⟨next, rfl⟩
    | error failure => exact .inr ⟨failure, rfl⟩

namespace Command

theorem contained_verdict (ending : Except Fault Ending) : Contained (verdict ending) := by
  rcases ending with fault | code | _
  · exact .failure (.cannotStart fault)
  · by_cases hc : code = 0
    · simpa only [verdict, hc, if_true] using .result ()
    · rw [verdict_of_exited hc]
      exact .failure _
  · exact .interrupt

/-- Only a program that is interrupted interrupts its command. -/
theorem verdict_eq_interrupt_iff {ending : Except Fault Ending} :
    verdict ending = .error .interrupt ↔ ending = .ok .interrupted := by
  rcases ending with fault | code | _
  · simp [verdict]
  · by_cases hc : code = 0 <;> simp [verdict, hc]
  · simp [verdict]

theorem contained_runExternal (command : Command) (w : World) :
    Contained (command.runExternal.run w).outcome := by
  cases hs : Search.program? w command.name with
  | none =>
    rw [run_runExternal_of_none hs]
    exact .failure _
  | some executable =>
    rw [run_runExternal_of_some hs]
    exact contained_verdict _

/-- **What a command ends with** is a result, a failure or an interrupt. -/
theorem contained_execute (command : Command) (w : World) :
    Contained (command.execute.run w).outcome := by
  cases hb : w.builtins.get? command.name with
  | none =>
    rw [run_execute_of_none hb]
    exact (contained_runExternal command w).map _
  | some builtin =>
    rw [run_execute_of_some hb]
    rcases builtin.outcome_execute command.name command.arguments w with ⟨next, h⟩ | ⟨failure, h⟩
    · rw [h]
      exact .result next
    · rw [h]
      exact .failure failure

theorem contained_executeWords (words : List String) (w : World) :
    Contained ((executeWords words).run w).outcome := by
  cases words with
  | nil => exact .result Next.proceed
  | cons name arguments => exact contained_execute { name, arguments } w

/-- The program of a command is interrupted. -/
def Interrupted (command : Command) (w : World) : Prop :=
  w.builtins.get? command.name = none ∧
    ∃ executable, Search.program? w command.name = some executable ∧
      w.host.launch executable command.words w.session.directory = .ok .interrupted

/-- A command is interrupted exactly if it runs a program and that program is interrupted. -/
theorem outcome_execute_eq_interrupt_iff {command : Command} {w : World} :
    (command.execute.run w).outcome = .error .interrupt ↔ command.Interrupted w := by
  cases hb : w.builtins.get? command.name with
  | none =>
    rw [run_execute_of_none hb, map_eq_error_iff]
    cases hs : Search.program? w command.name with
    | none => simp [run_runExternal_of_none hs, Interrupted, hs]
    | some executable =>
      simp [run_runExternal_of_some hs, verdict_eq_interrupt_iff, Interrupted, hb, hs]
  | some builtin =>
    rw [run_execute_of_some hb]
    rcases builtin.outcome_execute command.name command.arguments w with ⟨next, h⟩ | ⟨failure, h⟩
    · simp [h, Interrupted, hb]
    · simp [h, Interrupted, hb]

/-- An interrupt leaves the world as it was. -/
theorem Interrupted.world_execute {command : Command} {w : World} (h : command.Interrupted w) :
    (command.execute.run w).world = w := by
  obtain ⟨hb, executable, hs, -⟩ := h
  rw [run_execute_of_none hb, run_runExternal_of_some hs]

/-- A command leaves the shell exactly if it is carried out by a builtin that leaves it. -/
theorem outcome_execute_eq_leave_iff {command : Command} {w : World} :
    (command.execute.run w).outcome = .ok .leave ↔
      ∃ builtin, w.builtins.get? command.name = some builtin ∧
        ((builtin.execute command.name command.arguments).run w).outcome = .ok .leave := by
  cases hb : w.builtins.get? command.name with
  | none => simp [run_execute_of_none hb, map_eq_ok_iff]
  | some builtin => simp [run_execute_of_some hb]

end Command

/-! ## Lines -/

namespace Run

theorem outcome_settled_eq_interrupt_iff {run : Run Next} :
    run.settled.outcome = .error .interrupt ↔ run.outcome = .error .interrupt := by
  rcases run with ⟨(failure | fault | _ | _) | next, events, world⟩ <;> simp [settled]

theorem outcome_settled_eq_leave_iff {run : Run Next} :
    run.settled.outcome = .ok .leave ↔ run.outcome = .ok .leave := by
  rcases run with ⟨(failure | fault | _ | _) | next, events, world⟩ <;> simp [settled]

/-- Once it is settled, only an interrupt stops a run. -/
theorem outcome_settled {run : Run Next} (h : Contained run.outcome) :
    (∃ next, run.settled.outcome = .ok next) ∨ run.settled.outcome = .error .interrupt := by
  rcases run with ⟨outcome, events, world⟩
  cases h with
  | result next => exact .inl ⟨next, rfl⟩
  | failure failure => exact .inl ⟨.proceed, rfl⟩
  | interrupt => exact .inr rfl

end Run

namespace Line

theorem attempt_of_words_error {text : String} {kind : FailureKind} (h : words text = .error kind) :
    attempt text = Action.fail (.ofKind kind) := by
  simp [attempt, h]

theorem contained_attempt (text : String) (w : World) :
    Contained ((attempt text).run w).outcome := by
  cases hw : words text with
  | error kind =>
    rw [attempt_of_words_error hw]
    exact .failure _
  | ok ws =>
    rw [attempt_of_words hw]
    exact Command.contained_executeWords ws w

/-- **What a line ends with** is a result, or an interrupt. -/
theorem outcome_interpret (line : String) (w : World) :
    (∃ next, ((interpret line).run w).outcome = .ok next) ∨
      ((interpret line).run w).outcome = .error .interrupt := by
  by_cases ht : Text.trim line = ""
  · rw [interpret_of_trim_eq_empty ht]
    exact .inl ⟨.proceed, rfl⟩
  · rw [interpret_of_trim_ne_empty ht, run_carryOut]
    exact Run.outcome_settled (contained_attempt (Text.trim line) w)

end Line

end CommandShell
