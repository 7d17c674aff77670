import CommandShell.Proofs.Status

/-!
# What is seen of a line

A line does at most one thing that is more than text.  After it, and only if it fails, it writes one
piece of text among the diagnostics.

* `Command.visible` is the one thing that is seen of a command, if there is one.  The lines of which
  nothing is seen are those in `Line.Idle`.
* `Line.FailsAt` says where the failure of a line comes from.  Two places can write about a failure:
  where a program ends its exit code is told, and at the end of the line every other failure is
  reported.  `Line.events_attempt_of_failsAt` says that of the two exactly one writes, but for an
  extension that fails as a program does: its failure counts as told, and nobody has told it.

`Line.trace_interpret` puts this together.
-/

namespace CommandShell

namespace Failure

variable {failure : Failure}

theorem reported_of_kind_eq (h : failure.kind = .command) : failure.reported = [] := if_pos h

theorem reported_of_kind_ne (h : failure.kind ≠ .command) :
    failure.reported = [.write .diagnostics failure.notice] := if_neg h

end Failure

namespace Run

theorem events_settled_of_failure {run : Run Next} {failure : Failure}
    (h : run.outcome = .error (.failure failure)) :
    run.settled.events = run.events ++ failure.reported := by
  simp [settled, h]

theorem events_settled_of_not_failure {run : Run Next}
    (h : ∀ failure, run.outcome ≠ .error (.failure failure)) : run.settled.events = run.events := by
  rcases run with ⟨(failure | fault | _ | _) | next, events, world⟩
  · exact absurd rfl (h failure)
  all_goals rfl

end Run

/-! ## Builtins -/

namespace Builtin

theorem length_visible_le (builtin : Builtin) (name : String) (arguments : List String) :
    (builtin.visible name arguments).length ≤ 1 := by
  cases builtin with
  | changeDirectory => rcases arguments with _ | ⟨target, _ | ⟨next, rest⟩⟩ <;> simp [visible]
  | leave => simp [visible]
  | extension answer => simp [visible]

/-- A `cd` that fails could not change the directory, whatever it was that went wrong. -/
theorem kind_of_changeDirectoryTo {arguments : List String} {w : World} {failure : Failure}
    (h : ((changeDirectoryTo arguments).run w).outcome = .error (.failure failure)) :
    failure.kind = .directory := by
  by_cases hlen : arguments.length = 1
  · obtain ⟨target, rfl⟩ := List.length_eq_one_iff.1 hlen
    cases w.host.attempt target with
    | refused fault he =>
      rw [run_changeDirectoryTo_refused he] at h
      cases h
      rfl
    | lost moved he hr =>
      rw [run_changeDirectoryTo_lost he hr] at h
      cases h
      rfl
    | arrived moved he hr =>
      rw [run_changeDirectoryTo_arrived he hr] at h
      cases h
  · rw [run_changeDirectoryTo_of_length_ne hlen] at h
    cases h
    rfl

end Builtin

/-! ## Commands -/

namespace Command

/-- What others see of a command: what is seen of its builtin, or the start of its program. -/
def visible (command : Command) (w : World) : List Event :=
  match w.builtins.get? command.name with
  | some builtin => builtin.visible command.name command.arguments
  | none =>
    match Search.program? w command.name with
    | some executable => [.launch executable command.words w.session.directory]
    | none => []

variable {command : Command} {w : World}

theorem visible_of_builtin {builtin : Builtin}
    (h : w.builtins.get? command.name = some builtin) :
    command.visible w = builtin.visible command.name command.arguments := by
  simp [visible, h]

theorem visible_of_found {executable : String} (h : w.builtins.get? command.name = none)
    (hs : Search.program? w command.name = some executable) :
    command.visible w = [.launch executable command.words w.session.directory] := by
  simp [visible, h, hs]

theorem visible_of_not_found (h : w.builtins.get? command.name = none)
    (hs : Search.program? w command.name = none) : command.visible w = [] := by
  simp [visible, h, hs]

theorem length_visible_le (command : Command) (w : World) : (command.visible w).length ≤ 1 := by
  cases hb : w.builtins.get? command.name with
  | some builtin =>
    rw [visible_of_builtin hb]
    exact builtin.length_visible_le command.name command.arguments
  | none =>
    cases hs : Search.program? w command.name with
    | some executable => simp [visible_of_found hb hs]
    | none => simp [visible_of_not_found hb hs]

/-- What is seen of a command is all that it does but for text. -/
theorem effects_execute (command : Command) (w : World) :
    Event.effects (command.execute.run w).events = command.visible w := by
  cases hb : w.builtins.get? command.name with
  | some builtin =>
    rw [run_execute_of_some hb, Builtin.events_execute, Builtin.effects_visible,
      visible_of_builtin hb]
  | none =>
    rw [run_execute_of_none hb]
    cases hs : Search.program? w command.name with
    | some executable => simp [run_runExternal_of_some hs, visible_of_found hb hs]
    | none => simp [run_runExternal_of_none hs, visible_of_not_found hb hs]

/-- The end of a program writes about a failure exactly if nothing more is to be said about it. -/
theorem remarks_append_reported {ending : Except Fault Ending} {failure : Failure}
    (h : verdict ending = .error (.failure failure)) :
    remarks ending ++ failure.reported = [.write .diagnostics failure.notice] := by
  rcases ending with fault | code | _
  · cases h
    rfl
  · by_cases hc : code = 0
    · simp [verdict, hc] at h
    · rw [verdict_of_exited hc] at h
      cases h
      rw [remarks_of_exited hc, Failure.reported_of_kind_eq rfl, List.append_nil]
      rfl
  · cases h

/-- The end of a program that is no failure writes nothing. -/
theorem remarks_of_not_failure {ending : Except Fault Ending}
    (h : ∀ failure, verdict ending ≠ .error (.failure failure)) : remarks ending = [] := by
  rcases ending with fault | code | _
  · rfl
  · by_cases hc : code = 0
    · simp [remarks, hc]
    · exact absurd (verdict_of_exited hc) (h (.exitedWith (toldCode code)))
  · rfl

/-- About a failure of a program one thing is written, after the start of the program. -/
theorem events_runExternal_of_failure {failure : Failure}
    (h : (command.runExternal.run w).outcome = .error (.failure failure)) :
    (command.runExternal.run w).events ++ failure.reported =
      Event.effects (command.runExternal.run w).events ++
        [.write .diagnostics failure.notice] := by
  cases hs : Search.program? w command.name with
  | none =>
    rw [run_runExternal_of_none hs] at h ⊢
    cases h
    rfl
  | some executable =>
    rw [run_runExternal_of_some hs] at h ⊢
    simp [remarks_append_reported h]

/-- A command that does not fail writes nothing. -/
theorem events_execute_of_not_failure
    (h : ∀ failure, (command.execute.run w).outcome ≠ .error (.failure failure)) :
    (command.execute.run w).events = command.visible w := by
  cases hb : w.builtins.get? command.name with
  | some builtin =>
    rw [run_execute_of_some hb, Builtin.events_execute, visible_of_builtin hb]
  | none =>
    rw [run_execute_of_none hb] at h ⊢
    simp only [ne_eq, map_eq_error_iff] at h
    cases hs : Search.program? w command.name with
    | none => rw [run_runExternal_of_none hs, visible_of_not_found hb hs]
    | some executable =>
      rw [run_runExternal_of_some hs] at h
      rw [run_runExternal_of_some hs, remarks_of_not_failure h, visible_of_found hb hs]

end Command

/-! ## Lines -/

namespace Line

variable {text : String} {w : World}

/-- A text cannot be split into words, or it has none, or its words say a command. -/
theorem words_cases (text : String) :
    (∃ kind, words text = .error kind) ∨ words text = .ok [] ∨
      ∃ command : Command, words text = .ok command.words := by
  rcases h : words text with kind | _ | ⟨name, arguments⟩
  · exact .inl ⟨kind, rfl⟩
  · exact .inr (.inl rfl)
  · exact .inr (.inr ⟨{ name, arguments }, rfl⟩)

theorem attempt_of_command {command : Command} (h : words text = .ok command.words) :
    attempt text = command.execute := attempt_of_words h

theorem attempt_of_no_words (h : words text = .ok []) : attempt text = pure .proceed :=
  attempt_of_words h

/-- A line writes and does what its attempt does, and reports a failure. -/
theorem events_interpret (line : String) (w : World) :
    ((interpret line).run w).events = ((attempt (Text.trim line)).run w).settled.events := by
  by_cases ht : Text.trim line = ""
  · rw [interpret_of_trim_eq_empty ht, ht, attempt_empty]
    rfl
  · rw [interpret_of_trim_ne_empty ht, run_carryOut]

/-- Nothing but text is seen of the text: there is nothing to carry out, or it is refused before it
has any effect. -/
inductive Idle (text : String) (w : World) : Prop
  /-- There is no text. -/
  | blank : text = "" → Idle text w
  /-- It cannot be split into words. -/
  | unsplit {kind : FailureKind} : words text = .error kind → Idle text w
  /-- It has no words. -/
  | noWords : words text = .ok [] → Idle text w
  /-- It asks to move, and does not name exactly one directory. -/
  | arity {command : Command} :
    words text = .ok command.words → w.builtins.get? command.name = some .changeDirectory →
      command.arguments.length ≠ 1 → Idle text w
  /-- It leaves the shell. -/
  | leave {command : Command} :
    words text = .ok command.words → w.builtins.get? command.name = some .leave → Idle text w
  /-- There is no program for its command. -/
  | notFound {command : Command} :
    words text = .ok command.words → w.builtins.get? command.name = none →
      Search.program? w command.name = none → Idle text w

theorem effects_attempt_of_command {command : Command} (h : words text = .ok command.words) :
    Event.effects ((attempt text).run w).events = command.visible w := by
  rw [attempt_of_command h, Command.effects_execute]

theorem length_effects_attempt_le (text : String) (w : World) :
    (Event.effects ((attempt text).run w).events).length ≤ 1 := by
  rcases words_cases text with ⟨kind, h⟩ | h | ⟨command, h⟩
  · simp [attempt_of_words_error h]
  · simp [attempt_of_no_words h]
  · rw [effects_attempt_of_command h]
    exact command.length_visible_le w

/-- Nothing but text is seen exactly of what is idle. -/
theorem effects_attempt_eq_nil_iff :
    Event.effects ((attempt text).run w).events = [] ↔ Idle text w := by
  constructor
  · intro heffects
    rcases words_cases text with ⟨kind, h⟩ | h | ⟨command, h⟩
    · exact .unsplit h
    · exact .noWords h
    · rw [effects_attempt_of_command h] at heffects
      cases hb : w.builtins.get? command.name with
      | none =>
        cases hs : Search.program? w command.name with
        | none => exact .notFound h hb hs
        | some executable => simp [Command.visible_of_found hb hs] at heffects
      | some builtin =>
        rw [Command.visible_of_builtin hb] at heffects
        cases builtin with
        | changeDirectory =>
          refine .arity h hb fun hlen ↦ ?_
          obtain ⟨target, harguments⟩ := List.length_eq_one_iff.1 hlen
          simp [Builtin.visible, harguments] at heffects
        | leave => exact .leave h hb
        | extension answer => simp [Builtin.visible] at heffects
  · rintro (rfl | h | h | ⟨h, hb, hlen⟩ | ⟨h, hb⟩ | ⟨h, hb, hs⟩)
    · rfl
    · simp [attempt_of_words_error h]
    · simp [attempt_of_no_words h]
    · rw [effects_attempt_of_command h, Command.visible_of_builtin hb]
      rename_i command
      rcases harguments : command.arguments with _ | ⟨target, _ | ⟨next, rest⟩⟩
      · rfl
      · simp [harguments] at hlen
      · rfl
    · rw [effects_attempt_of_command h, Command.visible_of_builtin hb]
      rfl
    · rw [effects_attempt_of_command h, Command.visible_of_not_found hb hs]

/-! ## Where failures come from -/

/-- Where the failure of a line comes from. -/
inductive Origin where
  /-- The line is not split into words. -/
  | split
  /-- The directory is not changed. -/
  | move
  /-- A program is not found, is not started, or does not end well. -/
  | program
  /-- An extension answers that it has failed. -/
  | extension
deriving DecidableEq, Repr

/-- A text fails with a failure that comes from the given place. -/
inductive FailsAt (text : String) (w : World) : Origin → Failure → Prop
  /-- It cannot be split into words. -/
  | split {kind : FailureKind} : words text = .error kind → FailsAt text w .split (.ofKind kind)
  /-- It is a `cd` that fails. -/
  | move {command : Command} {failure : Failure} :
    words text = .ok command.words → w.builtins.get? command.name = some .changeDirectory →
      ((Builtin.changeDirectoryTo command.arguments).run w).outcome = .error (.failure failure) →
      FailsAt text w .move failure
  /-- Its command runs a program and fails. -/
  | program {command : Command} {failure : Failure} :
    words text = .ok command.words → w.builtins.get? command.name = none →
      (command.runExternal.run w).outcome = .error (.failure failure) →
      FailsAt text w .program failure
  /-- It calls an extension that fails. -/
  | extension {command : Command} {failure : Failure} :
    words text = .ok command.words →
      w.builtins.get? command.name = some (.extension (.error failure)) →
      FailsAt text w .extension failure

/-- Every failure of a text comes from one of these places. -/
theorem outcome_attempt_eq_failure_iff {failure : Failure} :
    ((attempt text).run w).outcome = .error (.failure failure) ↔
      ∃ origin, FailsAt text w origin failure := by
  constructor
  · intro houtcome
    rcases words_cases text with ⟨kind, h⟩ | h | ⟨command, h⟩
    · rw [attempt_of_words_error h] at houtcome
      cases houtcome
      exact ⟨.split, .split h⟩
    · rw [attempt_of_no_words h] at houtcome
      cases houtcome
    · rw [attempt_of_command h] at houtcome
      cases hb : w.builtins.get? command.name with
      | none =>
        rw [Command.run_execute_of_none hb, map_eq_error_iff] at houtcome
        exact ⟨.program, .program h hb houtcome⟩
      | some builtin =>
        rw [Command.run_execute_of_some hb] at houtcome
        rcases builtin with _ | _ | (failure | next)
        · exact ⟨.move, .move h hb houtcome⟩
        · cases houtcome
        · cases houtcome
          exact ⟨.extension, .extension h hb⟩
        · cases houtcome
  · rintro ⟨origin, h | ⟨h, hb, houtcome⟩ | ⟨h, hb, houtcome⟩ | ⟨h, hb⟩⟩
    · rw [attempt_of_words_error h]
      rfl
    · rw [attempt_of_command h, Command.run_execute_of_some hb]
      exact houtcome
    · rw [attempt_of_command h, Command.run_execute_of_none hb, map_eq_error_iff]
      exact houtcome
    · rw [attempt_of_command h, Command.run_execute_of_some hb]
      rfl

theorem fails_iff_exists_failsAt :
    Fails text w ↔ ∃ origin failure, FailsAt text w origin failure := by
  rw [fails_iff, exists_comm]
  simp only [outcome_attempt_eq_failure_iff]

/-- A line that cannot be split into words does not fail as a program does. -/
theorem kind_ne_command_of_words {kind : FailureKind} (h : words text = .error kind) :
    kind ≠ .command := by
  rintro rfl
  unfold words at h
  grind

/-- What is written about a failure of a text is written once, after all that the text does.
Nothing is written about an extension that fails as a program does. -/
theorem events_attempt_of_failsAt {origin : Origin} {failure : Failure}
    (h : FailsAt text w origin failure) :
    ((attempt text).run w).settled.events =
      Event.effects ((attempt text).run w).events ++
        if origin = .extension ∧ failure.kind = .command then []
        else [.write .diagnostics failure.notice] := by
  rw [Run.events_settled_of_failure (outcome_attempt_eq_failure_iff.2 ⟨origin, h⟩)]
  cases h with
  | @split kind h =>
    have hkind : (Failure.ofKind kind).kind ≠ .command := kind_ne_command_of_words h
    simp [attempt_of_words_error h, Failure.reported_of_kind_ne hkind]
  | @move command failure h hb houtcome =>
    have hkind : failure.kind ≠ .command := by simp [Builtin.kind_of_changeDirectoryTo houtcome]
    rw [attempt_of_command h, Command.run_execute_of_some hb, Builtin.events_execute,
      Failure.reported_of_kind_ne hkind]
    simp
  | @program command failure h hb houtcome =>
    rw [attempt_of_command h, Command.run_execute_of_none hb,
      Command.events_runExternal_of_failure houtcome]
    simp
  | @extension command failure h hb =>
    rw [attempt_of_command h, Command.run_execute_of_some hb, Builtin.events_execute,
      Builtin.effects_visible]
    simp [Failure.reported]

/-- A text that does not fail writes nothing. -/
theorem events_attempt_of_not_failure
    (hfails : ∀ failure, ((attempt text).run w).outcome ≠ .error (.failure failure)) :
    ((attempt text).run w).settled.events = Event.effects ((attempt text).run w).events := by
  rw [Run.events_settled_of_not_failure hfails]
  rcases words_cases text with ⟨kind, h⟩ | h | ⟨command, h⟩
  · simp [attempt_of_words_error h]
  · simp [attempt_of_no_words h]
  · rw [attempt_of_command h] at hfails ⊢
    rw [Command.effects_execute, Command.events_execute_of_not_failure hfails]

/-- What is seen of a line is what is seen of its attempt. -/
theorem effects_interpret (line : String) (w : World) :
    Event.effects ((interpret line).run w).events =
      Event.effects ((attempt (Text.trim line)).run w).events := by
  rw [events_interpret, Run.effects_events_settled]

theorem events_interpret_of_failsAt {line : String} {origin : Origin} {failure : Failure}
    (h : FailsAt (Text.trim line) w origin failure) :
    ((interpret line).run w).events =
      Event.effects ((interpret line).run w).events ++
        if origin = .extension ∧ failure.kind = .command then []
        else [.write .diagnostics failure.notice] := by
  rw [effects_interpret, events_interpret, events_attempt_of_failsAt h]

theorem events_interpret_of_not_fails {line : String} (h : ¬ Fails (Text.trim line) w) :
    ((interpret line).run w).events = Event.effects ((interpret line).run w).events := by
  rw [fails_iff, not_exists] at h
  rw [effects_interpret, events_interpret, events_attempt_of_not_failure h]

/-- A line that is interrupted does not fail. -/
theorem not_fails_of_interrupt {line : String}
    (h : ((interpret line).run w).outcome = .error .interrupt) : ¬ Fails (Text.trim line) w := by
  rw [outcome_interpret_eq, Run.outcome_settled_eq_interrupt_iff] at h
  rw [fails_iff, h]
  simp

/-- A line writes nothing but diagnostics. -/
theorem output_notMem_interpret (line : String) (w : World) (written : String) :
    .write .output written ∉ ((interpret line).run w).events := by
  have heffect : .write .output written ∉ Event.effects ((interpret line).run w).events :=
    fun h ↦ absurd (Event.mem_effects_iff.1 h).2 (by simp [Event.isEffect])
  by_cases h : Fails (Text.trim line) w
  · obtain ⟨origin, failure, hfails⟩ := fails_iff_exists_failsAt.1 h
    rw [events_interpret_of_failsAt hfails, List.mem_append]
    refine not_or.2 ⟨heffect, ?_⟩
    split <;> simp
  · rwa [events_interpret_of_not_fails h]

/-- **One line, at most one effect, and then at most one diagnostic.**  A line does at most one thing
that is more than text, and does it before it writes anything.  It does no such thing exactly if it
is idle.  If it fails, what it writes is one line about the failure among the diagnostics, unless it
is an extension that fails as a program does; if it does not fail, or is interrupted, it writes
nothing. -/
theorem trace_interpret (line : String) (w : World) :
    let trace := ((interpret line).run w).events
    let text := Text.trim line
    (Event.effects trace).length ≤ 1 ∧
    (Event.effects trace = [] ↔ Idle text w) ∧
    (∀ origin failure, FailsAt text w origin failure →
      trace = Event.effects trace ++
        if origin = .extension ∧ failure.kind = .command then []
        else [.write .diagnostics ("error: " ++ failure.message ++ "\n")]) ∧
    (Fails text w ↔ ∃ origin failure, FailsAt text w origin failure) ∧
    (¬ Fails text w → trace = Event.effects trace) ∧
    (((interpret line).run w).outcome = .error .interrupt → trace = Event.effects trace) ∧
    ∀ written, .write .output written ∉ trace := by
  dsimp only
  refine ⟨?_, ?_, fun origin failure h ↦ events_interpret_of_failsAt h, fails_iff_exists_failsAt,
    events_interpret_of_not_fails,
    fun h ↦ events_interpret_of_not_fails (not_fails_of_interrupt h),
    output_notMem_interpret line w⟩
  · rw [effects_interpret]
    exact length_effects_attempt_le (Text.trim line) w
  · rw [effects_interpret]
    exact effects_attempt_eq_nil_iff

end Line

end CommandShell
