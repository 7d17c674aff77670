import CommandShell.Conversation

/-!
# Requests

A request is one thing that can be asked of an open shell from outside, and a reply is what it
answers.  Whatever state a shell can be in, it has come there by answering requests.
-/

namespace CommandShell

/-- One thing that can be asked of an open shell. -/
inductive Request where
  /-- Interpret a line. -/
  | interpret (line : String)
  /-- Carry out the command that a list of words says. -/
  | execute (words : List String)
  /-- Carry out a registered builtin. -/
  | builtin (name : String) (arguments : List String)
  /-- Run the program of a command, even if its name is registered. -/
  | external (command : Command)
  /-- Tell where the program of a name is. -/
  | locate (name : String)
  /-- Move to another directory. -/
  | moveTo (target : String)
  /-- Set the status; no status is zero. -/
  | setStatus (status : Option Int)
  /-- Tell the value of a variable, or what is given in its place if it is not set. -/
  | getVariable (name : String) (fallback : Option String)
  /-- Give a variable a value, or with no value remove it. -/
  | setVariable (name : String) (value : Option String)
  /-- Report a failure. -/
  | report (failure : Failure)
  /-- Ask for one line of input. -/
  | askLine (prompt : String)
  /-- Register a builtin. -/
  | register (name : String) (builtin : Builtin)

/-- What is told of a variable that is not set, where nothing else is given in its place. -/
def unsetValue : String := ""

/-- What is answered to a request. -/
inductive Reply where
  /-- What comes after a command. -/
  | next (next : Next)
  /-- A text. -/
  | text (text : String)
  /-- That there is nothing to tell. -/
  | nothing
deriving DecidableEq, Repr

namespace Reply

/-- The reply that tells a text, if there is one. -/
def ofText? : Option String → Reply
  | some t => text t
  | none => nothing

end Reply

/-- An action that takes nothing from the input. -/
def Action.answering (action : Action Reply) (input : List Reading) (world : World) :
    Exchange Reply :=
  { action.run world with unread := input }

namespace Request

/-- The answer of a registered builtin.  Under a name that is not registered there is nothing to
carry out. -/
def callBuiltin (name : String) (arguments : List String) : Action Reply := do
  match (← Action.world).builtins.get? name with
  | some found => .next <$> found.execute name arguments
  | none => return .nothing

/-- Do something that has no result to tell. -/
def silently (action : Action Unit) : Action Reply := do
  action
  return .nothing

/-- Answer a request in a world, with the input that is left. -/
def answer : Request → List Reading → World → Exchange Reply
  | interpret line => Action.answering (.next <$> Line.interpret line)
  | execute words => Action.answering (.next <$> Command.executeWords words)
  | builtin name arguments => Action.answering (callBuiltin name arguments)
  | external command => Action.answering (silently command.runExternal)
  | locate name => Action.answering do
    return .ofText? (Search.program? (← Action.world) name)
  | moveTo target => Action.answering (.text <$> Action.moveTo target)
  | setStatus status =>
    Action.answering (silently (Action.change (·.withStatus (status.getD 0))))
  | getVariable name fallback => Action.answering do
    let value := (← Action.world).session.environment.get? name
    return .ofText? (value.or fallback)
  | setVariable name value =>
    Action.answering (silently (Action.change fun world =>
      world.withEnvironment (world.session.environment.set name value)))
  | report failure => Action.answering (silently failure.report)
  | askLine prompt => fun input world =>
    let exchange := CommandShell.askLine prompt input world
    { exchange with outcome := exchange.outcome.map .text }
  | register name added =>
    Action.answering (silently (Action.change (·.withBuiltin name added)))

/-- Answer requests one after the other, each in the world and with the input that the one before
has left. -/
def answerAll : List Request → List Reading → World → List (Exchange Reply)
  | [], _, _ => []
  | request :: rest, input, world =>
    let first := request.answer input world
    first :: answerAll rest first.unread first.world

end Request

/-- The worlds a shell can be in: those in which a session has just been opened, and those left by
answering a request in such a world. -/
inductive World.Reachable : World → Prop
  /-- A session has just been opened. -/
  | start {host : Host} {environment : Environment} {builtins : Registry} {world : World} :
    World.start host environment builtins = .ok world → Reachable world
  /-- A request has been answered. -/
  | answer {world : World} (request : Request) (input : List Reading) :
    Reachable world → Reachable (request.answer input world).world

end CommandShell
