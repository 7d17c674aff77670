import CommandShell.Action
import CommandShell.Command
import CommandShell.Command.Search

/-!
# Carrying out a command

A command whose name is registered is carried out by the shell itself; every other command runs a
program.  `Command.execute` decides between the two.

Carrying out a command can fail the line in three ways: the directory cannot be changed, the
program cannot be found or started, or it ends with a code other than zero.  In the last case the
code is written at once, by the action that ran the program.
-/

namespace CommandShell

/-! ## Moving -/

/-- Move the process, and then let the session know where it is.  If either step meets a fault
the session stays in the directory it was in. -/
def Action.moveTo (target : String) : Action String := do
  Action.emit (.enter target)
  let moved ← Action.call ((← Action.world).host.enter target)
  Action.change (·.withHost moved)
  let directory ← Action.call moved.whereabouts
  Action.change (·.withDirectory directory)
  return directory

namespace Builtin

/-- Move to the one directory that is named. -/
def changeDirectoryTo : List String → Action Next
  | [target] => do
    let _ ← (Action.moveTo target).onFault fun fault => .fail (.cannotEnter target fault)
    return .proceed
  | _ => .fail .oneDirectoryNeeded

/-- Carry out a builtin under the name it was called by.  Leaving takes no account of the
arguments; an extension is seen to be called, and then gives its answer. -/
def execute (name : String) (arguments : List String) : Builtin → Action Next
  | changeDirectory => changeDirectoryTo arguments
  | leave => return .leave
  | extension answer => do
    Action.emit (.call name arguments)
    match answer with
    | .ok next => return next
    | .error failure => .fail failure

end Builtin

namespace Command

/-! ## Running a program -/

/-- Run a program to its end, in the directory the session is in, and give its exit code. -/
def launch (executable : String) (words : List String) : Action Int := do
  let world ← Action.world
  let directory := world.session.directory
  Action.emit (.launch executable words directory)
  match ← Action.call (world.host.launch executable words directory) with
  | .exited code => return code
  | .interrupted => Action.stop .interrupt

/-- The exit code that is told for a program that did not end well: its own, or one if it was
killed and has none. -/
def toldCode (code : Int) : Int := if 0 < code then code else 1

/-- What is written when a program has ended with a code other than zero. -/
def exitNotice (code : Int) : String :=
  "error: command exited with code " ++ toString code ++ "\n"

/-- Run the program of a command. -/
def runExternal (command : Command) : Action Unit := do
  match Search.program? (← Action.world) command.name with
  | none => Action.fail (.commandNotFound command.name)
  | some executable =>
    let code ← (launch executable command.words).onFault fun fault => .fail (.cannotStart fault)
    if code = 0 then return ()
    else
      Action.write .diagnostics (exitNotice (toldCode code))
      Action.fail (.exitedWith (toldCode code))

/-- Carry out a command. -/
def execute (command : Command) : Action Next := do
  match (← Action.world).builtins.get? command.name with
  | some builtin => builtin.execute command.name command.arguments
  | none =>
    command.runExternal
    return .proceed

/-- Carry out the command that a list of words says.  Without words there is nothing to do. -/
def executeWords (words : List String) : Action Next :=
  match ofWords? words with
  | none => return .proceed
  | some command => command.execute

/-- The code that is told is never zero or negative. -/
theorem toldCode_pos (code : Int) : 0 < toldCode code := by
  unfold toldCode
  split <;> omega

theorem toldCode_of_pos {code : Int} (h : 0 < code) : toldCode code = code := by
  simp [toldCode, h]

theorem toldCode_of_neg {code : Int} (h : code < 0) : toldCode code = 1 :=
  if_neg (by omega)

end Command

end CommandShell
