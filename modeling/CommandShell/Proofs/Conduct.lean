import CommandShell.Proofs.Command.Run
import CommandShell.Request

/-!
# Conducts: what every run of a shell keeps to

Many things are true of all that a shell does, whatever it is asked to do.  Such a thing is a
relation between a world, the events that take place from there, and the world that is left.  If it
holds where nothing is done, and of one thing done after the other, it is a `Conduct`, and it need
only be checked of the few elementary things that a shell can do:

* an attempt to move, the start of a program and the call of an extension;
* a piece of text that is written among the diagnostics;
* a new status, and on request a new environment or a further builtin.

Then it holds of every action that is built from these (`Conduct.Admits.keeps_interpret`), of every
answer to a request (`Conduct.AdmitsRequests.answer`) and, by induction, of all that a shell goes
through (`Conduct.AdmitsRequests.leads`).
-/

namespace CommandShell

/-- A relation between a world, the events that take place from there, and the world that is left,
which holds of doing nothing, and of one thing done after the other. -/
structure Conduct where
  /-- The relation. -/
  allows : World → List Event → World → Prop
  /-- Doing nothing is allowed. -/
  refl (w : World) : allows w [] w
  /-- What is allowed may be done one after the other. -/
  trans {a b c : World} {es es' : List Event} :
    allows a es b → allows b es' c → allows a (es ++ es') c

/-! ## Actions -/

/-- Every run of the action is allowed. -/
def Action.Keeps {α : Type} (action : Action α) (C : Conduct) : Prop :=
  ∀ w, C.allows w (action.run w).events (action.run w).world

namespace Action

variable {α β : Type} {C : Conduct}

theorem keeps_pure (a : α) : (pure a : Action α).Keeps C := C.refl

theorem keeps_stop (reason : Stop) : (stop reason : Action α).Keeps C := C.refl

theorem keeps_fail (failure : Failure) : (fail failure : Action α).Keeps C := C.refl

theorem keeps_world : world.Keeps C := C.refl

theorem keeps_change {f : World → World} (h : ∀ w, C.allows w [] (f w)) : (change f).Keeps C := h

theorem keeps_emit {event : Event} (h : ∀ w, C.allows w [event] w) : (emit event).Keeps C := h

/-- What can be done one after the other is allowed if each part is. -/
theorem Keeps.bind {first : Action α} {next : α → Action β} (hfirst : first.Keeps C)
    (hnext : ∀ a, (next a).Keeps C) : (first >>= next).Keeps C := by
  intro w
  have h := hfirst w
  rcases hr : first.run w with ⟨stop | a, events, left⟩
  · rw [run_bind_of_error hr]
    simpa only [hr] using h
  · rw [hr] at h
    rw [run_bind_of_ok hr]
    exact C.trans h (hnext a left)

theorem Keeps.map {action : Action α} (h : action.Keeps C) (f : α → β) : (f <$> action).Keeps C := by
  intro w
  rw [run_map]
  exact h w

theorem Keeps.onFault {action : Action α} {handler : Fault → Action α} (h : action.Keeps C)
    (hhandler : ∀ fault, (handler fault).Keeps C) : (action.onFault handler).Keeps C := by
  intro w
  have h := h w
  rcases hr : action.run w with ⟨(failure | fault | _ | _) | a, events, left⟩ <;>
    simp only [hr] at h <;> simp only [run_onFault, hr, Run.events_after, Run.world_after]
  case error.fault => exact C.trans h (hhandler fault left)
  all_goals exact h

theorem Keeps.onFailure {action : Action α} {handler : Failure → Action α} (h : action.Keeps C)
    (hhandler : ∀ failure, (handler failure).Keeps C) : (action.onFailure handler).Keeps C := by
  intro w
  have h := h w
  rcases hr : action.run w with ⟨(failure | fault | _ | _) | a, events, left⟩ <;>
    simp only [hr] at h <;> simp only [run_onFailure, hr, Run.events_after, Run.world_after]
  case error.failure => exact C.trans h (hhandler failure left)
  all_goals exact h

theorem Keeps.silently {action : Action Unit} (h : action.Keeps C) :
    (Request.silently action).Keeps C := h.bind fun _ ↦ keeps_pure _

/-- An answer that takes nothing from the input is the run of an action. -/
theorem Keeps.answering {action : Action Reply} (h : action.Keeps C) (input : List Reading)
    (w : World) :
    C.allows w (action.answering input w).events (action.answering input w).world := h w

end Action

namespace Conduct

/-! ## The shell -/

/-- The conduct allows each elementary thing that a command or a line can do. -/
structure Admits (C : Conduct) : Prop where
  /-- An attempt to move, however it turns out. -/
  move (target : String) (w : World) :
    C.allows w [.enter target] ((Action.moveTo target).run w).world
  /-- The start of a program in the directory of the session. -/
  launch (executable : String) (words : List String) (w : World) :
    C.allows w [.launch executable words w.session.directory] w
  /-- The call of an extension. -/
  call (name : String) (arguments : List String) (w : World) : C.allows w [.call name arguments] w
  /-- A piece of text among the diagnostics. -/
  note (text : String) (w : World) : C.allows w [.write .diagnostics text] w
  /-- A new status. -/
  status (status : Int) (w : World) : C.allows w [] (w.withStatus status)

variable {C : Conduct}

namespace Admits

variable (h : C.Admits)

include h

theorem keeps_moveTo (target : String) : (Action.moveTo target).Keeps C := by
  intro w
  rw [Action.events_moveTo]
  exact h.move target w

theorem keeps_launch (executable : String) (words : List String) :
    (Command.launch executable words).Keeps C := by
  intro w
  rw [Command.run_launch]
  exact h.launch executable words w

theorem keeps_note (text : String) : (Action.write .diagnostics text).Keeps C :=
  Action.keeps_emit (h.note text)

theorem keeps_builtin (builtin : Builtin) (name : String) (arguments : List String) :
    (builtin.execute name arguments).Keeps C := by
  cases builtin with
  | changeDirectory =>
    rcases arguments with _ | ⟨target, _ | ⟨next, rest⟩⟩
    · exact Action.keeps_fail _
    · have hmove : ((Action.moveTo target).onFault fun fault ↦
          .fail (.cannotEnter target fault)).Keeps C :=
        (h.keeps_moveTo target).onFault fun _ ↦ Action.keeps_fail _
      exact hmove.bind fun _ ↦ Action.keeps_pure _
    · exact Action.keeps_fail _
  | leave => exact Action.keeps_pure _
  | extension answer =>
    refine (Action.keeps_emit (h.call name arguments)).bind fun _ ↦ ?_
    cases answer with
    | ok next => exact Action.keeps_pure _
    | error failure => exact Action.keeps_fail _

theorem keeps_runExternal (command : Command) : command.runExternal.Keeps C := by
  refine Action.keeps_world.bind fun world ↦ ?_
  cases Search.program? world command.name with
  | none => exact Action.keeps_fail _
  | some executable =>
    have hlaunch : ((Command.launch executable command.words).onFault fun fault ↦
        .fail (.cannotStart fault)).Keeps C :=
      (h.keeps_launch executable command.words).onFault fun _ ↦ Action.keeps_fail _
    refine hlaunch.bind fun code ↦ ?_
    by_cases hc : code = 0
    · simpa only [hc, if_true] using Action.keeps_pure _
    · simpa only [hc, if_false] using (h.keeps_note _).bind fun _ ↦ Action.keeps_fail _

theorem keeps_execute (command : Command) : command.execute.Keeps C := by
  refine Action.keeps_world.bind fun world ↦ ?_
  cases world.builtins.get? command.name with
  | none => exact (h.keeps_runExternal command).bind fun _ ↦ Action.keeps_pure _
  | some builtin => exact h.keeps_builtin builtin command.name command.arguments

theorem keeps_executeWords (words : List String) : (Command.executeWords words).Keeps C := by
  cases words with
  | nil => exact Action.keeps_pure _
  | cons name arguments => exact h.keeps_execute { name, arguments }

theorem keeps_report (failure : Failure) : failure.report.Keeps C := by
  unfold Failure.report
  by_cases hk : failure.kind = .command
  · rw [if_pos hk]
    exact Action.keeps_pure _
  · rw [if_neg hk]
    exact h.keeps_note _

/-- A line keeps to the conduct. -/
theorem keeps_interpret (line : String) : (Line.interpret line).Keeps C := by
  by_cases ht : Text.trim line = ""
  · rw [Line.interpret_of_trim_eq_empty ht]
    exact Action.keeps_pure _
  · rw [Line.interpret_of_trim_ne_empty ht]
    have hattempt : (Line.attempt (Text.trim line)).Keeps C := by
      unfold Line.attempt
      cases Line.words (Text.trim line) with
      | error kind => exact Action.keeps_fail _
      | ok ws => exact h.keeps_executeWords ws
    refine Action.Keeps.onFailure ?_ fun failure ↦ ?_
    · exact hattempt.bind fun next ↦
        (Action.keeps_change (h.status 0)).bind fun _ ↦ Action.keeps_pure next
    · exact (h.keeps_report failure).bind fun _ ↦
        (Action.keeps_change (h.status 1)).bind fun _ ↦ Action.keeps_pure _

end Admits

/-! ## Requests -/

/-- The conduct allows as well what can only be done on request. -/
structure AdmitsRequests (C : Conduct) : Prop extends C.Admits where
  /-- A new environment. -/
  environment (environment : Environment) (w : World) :
    C.allows w [] (w.withEnvironment environment)
  /-- A further builtin. -/
  builtin (name : String) (builtin : Builtin) (w : World) :
    C.allows w [] (w.withBuiltin name builtin)

namespace AdmitsRequests

variable {C : Conduct} (h : C.AdmitsRequests)

include h

theorem keeps_ask (prompt : String) (reading : Reading) : (reading.ask prompt).Keeps C := by
  refine (h.keeps_note prompt).bind fun _ ↦ ?_
  cases reading with
  | text line =>
    by_cases hl : line = ""
    · simpa only [Reading.line, hl, if_true] using Action.keeps_stop _
    · simpa only [Reading.line, hl, if_false] using Action.keeps_pure _
  | interrupt => exact Action.keeps_stop _

theorem keeps_callBuiltin (name : String) (arguments : List String) :
    (Request.callBuiltin name arguments).Keeps C := by
  refine Action.keeps_world.bind fun world ↦ ?_
  cases world.builtins.get? name with
  | none => exact Action.keeps_pure _
  | some found => exact (h.keeps_builtin found name arguments).map _

/-- The answer to a request keeps to the conduct. -/
theorem answer (request : Request) (input : List Reading) (w : World) :
    C.allows w (request.answer input w).events (request.answer input w).world := by
  cases request with
  | interpret line => exact ((h.keeps_interpret line).map Reply.next).answering input w
  | execute words => exact ((h.keeps_executeWords words).map Reply.next).answering input w
  | builtin name arguments => exact (h.keeps_callBuiltin name arguments).answering input w
  | external command => exact (h.keeps_runExternal command).silently.answering input w
  | locate name => exact (Action.keeps_world.bind fun _ ↦ Action.keeps_pure _).answering input w
  | moveTo target => exact ((h.keeps_moveTo target).map Reply.text).answering input w
  | setStatus status => exact (Action.keeps_change (h.status _)).silently.answering input w
  | getVariable name fallback =>
    exact (Action.keeps_world.bind fun _ ↦ Action.keeps_pure _).answering input w
  | setVariable name value =>
    exact (Action.keeps_change fun w ↦ h.environment _ w).silently.answering input w
  | report failure => exact (h.keeps_report failure).silently.answering input w
  | askLine prompt =>
    cases input with
    | nil => exact h.keeps_ask prompt .ended w
    | cons reading rest => exact h.keeps_ask prompt reading w
  | register name added =>
    exact (Action.keeps_change (h.builtin name added)).silently.answering input w

end AdmitsRequests

end Conduct

/-! ## All that a shell goes through -/

/-- What a shell can go through from one world to another, with the events that take place on the
way.  What the input holds is left open at every request. -/
inductive World.Leads (a : World) : List Event → World → Prop
  /-- Nothing has been asked for. -/
  | refl : Leads a [] a
  /-- One more request has been answered. -/
  | answer {events : List Event} {b : World} (request : Request) (input : List Reading) :
    Leads a events b →
      Leads a (events ++ (request.answer input b).events) (request.answer input b).world

/-- All that a shell goes through keeps to the conduct. -/
theorem Conduct.AdmitsRequests.leads {C : Conduct} (h : C.AdmitsRequests) {a b : World}
    {events : List Event} (hl : a.Leads events b) : C.allows a events b := by
  induction hl with
  | refl => exact C.refl _
  | answer request input _ ih => exact C.trans ih (h.answer request input _)

/-- Where a shell can be, it has come from a world in which a session had just been opened. -/
theorem World.Reachable.exists_leads {w : World} (hw : w.Reachable) :
    ∃ (host : Host) (environment : Environment) (builtins : Registry) (start : World)
      (events : List Event),
      World.start host environment builtins = .ok start ∧ start.Leads events w := by
  induction hw with
  | start hs => exact ⟨_, _, _, _, [], hs, .refl⟩
  | answer request input _ ih =>
    obtain ⟨host, environment, builtins, start, events, hs, hl⟩ := ih
    exact ⟨host, environment, builtins, start, _, hs, hl.answer request input⟩

end CommandShell
