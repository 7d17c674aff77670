import CommandShell.Command.Execute

/-!
# How commands turn out

For each thing a command can do, this file says once what running it gives: the outcome, the events
and the world that is left.  What is proved about commands elsewhere is proved from these lemmas.

| what is run | lemmas |
|---|---|
| a move | `Action.run_moveTo_refused`, `_lost`, `_arrived`, by `Host.attempt` |
| `cd` | `Builtin.run_changeDirectoryTo_refused`, `_lost`, `_arrived`, `_of_length_ne` |
| any builtin | `Builtin.events_execute` |
| a program | `Command.run_launch` |
| a command that is no builtin | `Command.run_runExternal_of_none`, `_of_some` |
| any command | `Command.run_execute_of_some`, `_of_none` |
-/

namespace CommandShell

/-! ## Moving -/

/-- The three ways in which an attempt to move can turn out. -/
inductive Host.Attempt (host : Host) (target : String) : Prop
  /-- The process is not moved. -/
  | refused (fault : Fault) : host.enter target = .error fault → Attempt host target
  /-- The process is moved to where it cannot learn where it is. -/
  | lost (moved : Host) : host.enter target = .ok moved → moved.removed = true → Attempt host target
  /-- The process is moved and knows where it is. -/
  | arrived (moved : Host) :
    host.enter target = .ok moved → moved.removed = false → Attempt host target

/-- Every attempt to move turns out in one of the three ways. -/
theorem Host.attempt (host : Host) (target : String) : host.Attempt target := by
  rcases h : host.enter target with fault | moved
  · exact .refused fault h
  · rcases hr : moved.removed with _ | _
    · exact .arrived moved h hr
    · exact .lost moved h hr

theorem Host.whereabouts_of_removed {host : Host} (h : host.removed = true) :
    host.whereabouts = .error (.noEntry none) := if_pos h

theorem Host.whereabouts_of_not_removed {host : Host} (h : host.removed = false) :
    host.whereabouts = .ok host.directory := by simp [Host.whereabouts, h]

namespace Action

variable {world : World} {target : String}

theorem run_moveTo_refused {fault : Fault} (h : world.host.enter target = .error fault) :
    (moveTo target).run world = ⟨.error (.fault fault), [.enter target], world⟩ := by
  simp [moveTo, run_bind, h]

/-- A move into a removed directory moves the process, and the session is not told. -/
theorem run_moveTo_lost {moved : Host} (h : world.host.enter target = .ok moved)
    (hr : moved.removed = true) :
    (moveTo target).run world =
      ⟨.error (.fault (.noEntry none)), [.enter target], world.withHost moved⟩ := by
  simp [moveTo, run_bind, h, Host.whereabouts_of_removed hr]

/-- A move into any other directory moves the process and the session. -/
theorem run_moveTo_arrived {moved : Host} (h : world.host.enter target = .ok moved)
    (hr : moved.removed = false) :
    (moveTo target).run world =
      ⟨.ok moved.directory, [.enter target],
        (world.withHost moved).withDirectory moved.directory⟩ := by
  simp [moveTo, run_bind, run_map, Except.map, h, Host.whereabouts_of_not_removed hr]

/-- An attempt to move is one event, however it turns out. -/
theorem events_moveTo (target : String) (world : World) :
    ((moveTo target).run world).events = [.enter target] := by
  cases world.host.attempt target with
  | refused fault h => rw [run_moveTo_refused h]
  | lost moved h hr => rw [run_moveTo_lost h hr]
  | arrived moved h hr => rw [run_moveTo_arrived h hr]

end Action

/-! ## Builtins -/

namespace Builtin

variable {world : World} {target : String}

/-- Without exactly one argument no move is attempted. -/
theorem run_changeDirectoryTo_of_length_ne {arguments : List String} (h : arguments.length ≠ 1)
    (world : World) :
    (changeDirectoryTo arguments).run world =
      ⟨.error (.failure .oneDirectoryNeeded), [], world⟩ := by
  rcases arguments with _ | ⟨target, _ | ⟨next, rest⟩⟩
  · rfl
  · exact absurd rfl h
  · rfl

/-- A refused move fails, and leaves the world as it was. -/
theorem run_changeDirectoryTo_refused {fault : Fault}
    (h : world.host.enter target = .error fault) :
    (changeDirectoryTo [target]).run world =
      ⟨.error (.failure (.cannotEnter target fault)), [.enter target], world⟩ := by
  simp [changeDirectoryTo, Action.run_map, Action.run_onFault, Except.map,
    Action.run_moveTo_refused h]

/-- A move into a removed directory fails, and the process stays there all the same. -/
theorem run_changeDirectoryTo_lost {moved : Host} (h : world.host.enter target = .ok moved)
    (hr : moved.removed = true) :
    (changeDirectoryTo [target]).run world =
      ⟨.error (.failure (.cannotEnter target (.noEntry none))), [.enter target],
        world.withHost moved⟩ := by
  simp [changeDirectoryTo, Action.run_map, Action.run_onFault, Except.map,
    Action.run_moveTo_lost h hr]

theorem run_changeDirectoryTo_arrived {moved : Host} (h : world.host.enter target = .ok moved)
    (hr : moved.removed = false) :
    (changeDirectoryTo [target]).run world =
      ⟨.ok .proceed, [.enter target],
        (world.withHost moved).withDirectory moved.directory⟩ := by
  simp [changeDirectoryTo, Action.run_map, Action.run_onFault, Except.map,
    Action.run_moveTo_arrived h hr]

/-- What others see of a builtin that is called under a name with some arguments. -/
def visible (name : String) (arguments : List String) : Builtin → List Event
  | changeDirectory =>
    match arguments with
    | [target] => [.enter target]
    | _ => []
  | leave => []
  | extension _ => [.call name arguments]

/-- What is seen of a builtin is more than text. -/
@[simp] theorem effects_visible (builtin : Builtin) (name : String) (arguments : List String) :
    Event.effects (builtin.visible name arguments) = builtin.visible name arguments := by
  cases builtin with
  | changeDirectory => rcases arguments with _ | ⟨target, _ | ⟨next, rest⟩⟩ <;> rfl
  | leave => rfl
  | extension answer => rfl

/-- No builtin runs a program. -/
theorem launch_notMem_visible (builtin : Builtin) (name : String) (arguments : List String)
    (executable : String) (words : List String) (directory : String) :
    .launch executable words directory ∉ builtin.visible name arguments := by
  cases builtin with
  | changeDirectory => rcases arguments with _ | ⟨target, _ | ⟨next, rest⟩⟩ <;> simp [visible]
  | leave => simp [visible]
  | extension answer => simp [visible]

/-- A builtin does what is seen of it, and writes nothing. -/
theorem events_execute (builtin : Builtin) (name : String) (arguments : List String)
    (world : World) :
    ((builtin.execute name arguments).run world).events = builtin.visible name arguments := by
  cases builtin with
  | changeDirectory =>
    rcases arguments with _ | ⟨target, _ | ⟨next, rest⟩⟩
    · rfl
    · change ((changeDirectoryTo [target]).run world).events = [.enter target]
      cases world.host.attempt target with
      | refused fault h => rw [run_changeDirectoryTo_refused h]
      | lost moved h hr => rw [run_changeDirectoryTo_lost h hr]
      | arrived moved h hr => rw [run_changeDirectoryTo_arrived h hr]
    · rfl
  | leave => rfl
  | extension answer => cases answer <;> rfl

end Builtin

/-! ## Programs -/

namespace Command

variable {world : World}

/-- What the end of a program comes to for the one who started it. -/
def codeOf : Except Fault Ending → Except Stop Int
  | .ok (.exited code) => .ok code
  | .ok .interrupted => .error .interrupt
  | .error fault => .error (.fault fault)

/-- Running a program is one event, and leaves the world as it was. -/
theorem run_launch (executable : String) (words : List String) (world : World) :
    (launch executable words).run world =
      ⟨codeOf (world.host.launch executable words world.session.directory),
        [.launch executable words world.session.directory], world⟩ := by
  rcases h : world.host.launch executable words world.session.directory with fault | code | _ <;>
    simp [launch, Action.run_bind, codeOf, h]

/-- What the end of a program comes to for its command. -/
def verdict : Except Fault Ending → Except Stop Unit
  | .ok (.exited code) =>
    if code = 0 then .ok () else .error (.failure (.exitedWith (toldCode code)))
  | .ok .interrupted => .error .interrupt
  | .error fault => .error (.failure (.cannotStart fault))

/-- What is written when a program has ended. -/
def remarks : Except Fault Ending → List Event
  | .ok (.exited code) =>
    if code = 0 then [] else [.write .diagnostics (exitNotice (toldCode code))]
  | _ => []

/-- A program that ends with a code other than zero fails its command. -/
theorem verdict_of_exited {code : Int} (h : code ≠ 0) :
    verdict (.ok (.exited code)) = .error (.failure (.exitedWith (toldCode code))) :=
  if_neg h

theorem remarks_of_exited {code : Int} (h : code ≠ 0) :
    remarks (.ok (.exited code)) = [.write .diagnostics (exitNotice (toldCode code))] :=
  if_neg h

@[simp] theorem effects_remarks (ending : Except Fault Ending) :
    Event.effects (remarks ending) = [] := by
  rcases ending with fault | code | _
  · rfl
  · by_cases h : code = 0 <;> simp [remarks, h]
  · rfl

/-- A command whose program is not found runs nothing. -/
theorem run_runExternal_of_none {command : Command}
    (h : Search.program? world command.name = none) :
    command.runExternal.run world =
      ⟨.error (.failure (.commandNotFound command.name)), [], world⟩ := by
  simp [runExternal, Action.run_bind, h]

/-- A command whose program is found runs it once, and leaves the world as it was. -/
theorem run_runExternal_of_some {command : Command} {executable : String}
    (h : Search.program? world command.name = some executable) :
    command.runExternal.run world =
      ⟨verdict (world.host.launch executable command.words world.session.directory),
        .launch executable command.words world.session.directory ::
          remarks (world.host.launch executable command.words world.session.directory),
        world⟩ := by
  rcases hl : world.host.launch executable command.words world.session.directory with
    fault | code | _
  · simp [runExternal, Action.run_bind, Action.run_onFault, run_launch, codeOf, verdict, remarks,
      h, hl]
  · by_cases hc : code = 0 <;>
      simp [runExternal, Action.run_bind, Action.run_onFault, run_launch, codeOf, verdict, remarks,
        h, hl, hc]
  · simp [runExternal, Action.run_bind, Action.run_onFault, run_launch, codeOf, verdict, remarks,
      h, hl]

/-! ## Commands -/

/-- A command whose name is registered is carried out by that builtin. -/
theorem run_execute_of_some {command : Command} {builtin : Builtin}
    (h : world.builtins.get? command.name = some builtin) :
    command.execute.run world = (builtin.execute command.name command.arguments).run world := by
  simp [execute, Action.run_bind, h]

/-- Any other command runs a program, and the shell goes on if it ends well. -/
theorem run_execute_of_none {command : Command} (h : world.builtins.get? command.name = none) :
    command.execute.run world =
      ⟨(command.runExternal.run world).outcome.map fun _ ↦ .proceed,
        (command.runExternal.run world).events, (command.runExternal.run world).world⟩ := by
  simp [execute, Action.run_bind, Action.run_map, h]

end Command

end CommandShell
