import CommandShell.Options

/-!
# The program

A run of the program begins with its arguments.  It may end there, with the help text or with a
complaint.  Only then a session is opened, which either runs the one line that was given or
converses.
-/

namespace CommandShell

/-- What a program finds when it is started. -/
structure Surroundings where
  /-- The system it runs on. -/
  host : Host
  /-- Its environment. -/
  environment : Environment := []
  /-- The builtins that are registered. -/
  builtins : Registry := Registry.standard
  /-- What readings of its input will give. -/
  input : List Reading := []
  /-- The rules of the reader of arguments for what is attached to a request for help.  What is said
  of a run is said for either. -/
  helpRules : HelpRules := .earlier

/-- How a run of the program went. -/
structure Completion where
  /-- The exit code, or what ended the program before it had one. -/
  outcome : Except Stop Int
  /-- What took place, in order of time. -/
  events : List Event
  /-- The host that is left. -/
  host : Host
  /-- The readings that were not taken. -/
  unread : List Reading

namespace Program

/-- The exit code of a run that ends well. -/
def success : Int := 0

/-- The exit code where the arguments cannot be understood. -/
def misuse : Int := 2

/-- End before a session is opened, with some text. -/
def endEarly (surroundings : Surroundings) (code : Int) (stream : Stream) (text : String) :
    Completion :=
  { outcome := .ok code, events := [.write stream text], host := surroundings.host
    unread := surroundings.input }

/-- Run one line.  The exit code is the status of the line; a line that leaves ends well. -/
def runOne (line : String) : Action Int := do
  match ← Line.interpret line with
  | .leave => return success
  | .proceed => return (← Action.world).session.status

/-- Run in a world with the given settings. -/
def runIn (world : World) (input : List Reading) (settings : Settings) : Exchange Int :=
  match settings.command with
  | some line => { (runOne line).run world with unread := input }
  | none => converse settings.prompt input world

/-- Whether a run with these arguments takes lines from the input. -/
def converses (arguments : List String) (surroundings : Surroundings) : Bool :=
  match Invocation.ofTexts surroundings.helpRules arguments with
  | .ok (.run settings) => settings.command.isNone
  | _ => false

/-- Open a session and run in it.  Where it cannot be opened nothing takes place. -/
def runWith (surroundings : Surroundings) (settings : Settings) : Completion :=
  match World.start surroundings.host surroundings.environment surroundings.builtins with
  | .error fault =>
    { outcome := .error (.fault fault), events := [], host := surroundings.host
      unread := surroundings.input }
  | .ok world =>
    let exchange := runIn world surroundings.input settings
    { outcome := exchange.outcome, events := exchange.events, host := exchange.world.host
      unread := exchange.unread }

/-- Run the program. -/
def run (arguments : List String) (surroundings : Surroundings) : Completion :=
  match Invocation.ofTexts surroundings.helpRules arguments with
  | .error error => endEarly surroundings misuse .diagnostics (Usage.complaint error)
  | .ok .help => endEarly surroundings success .output Usage.help
  | .ok (.run settings) => runWith surroundings settings

end Program

end CommandShell
