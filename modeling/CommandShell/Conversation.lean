import CommandShell.Interpret

/-!
# Conversations

A conversation takes lines from the input one at a time, each after a prompt, and interprets them,
until the input ends or a line leaves the shell.  An interrupt, whether it comes while a line is
awaited or while a program runs, ends the line on the screen and nothing else.

The input is the list of what successive readings give.  It is not part of the world, so that no
command can take from it; what takes from it gives an `Exchange`, a run together with what is left
unread.
-/

namespace CommandShell

/-- What one reading of the input gives. -/
inductive Reading where
  /-- A text.  The empty text is the end of the input. -/
  | text (text : String)
  /-- An interrupt from the keyboard. -/
  | interrupt
deriving DecidableEq, Repr

/-- A run that took from the input. -/
@[ext]
structure Exchange (α : Type) extends Run α where
  /-- The readings that were not taken. -/
  unread : List Reading

namespace Exchange

variable {α : Type}

/-- The exchange seen by one who saw the given events before it. -/
def after (events : List Event) (exchange : Exchange α) : Exchange α :=
  { exchange with toRun := exchange.toRun.after events }

@[simp] theorem outcome_after (events : List Event) (exchange : Exchange α) :
    (exchange.after events).outcome = exchange.outcome := rfl
@[simp] theorem events_after (events : List Event) (exchange : Exchange α) :
    (exchange.after events).events = events ++ exchange.events := rfl
@[simp] theorem world_after (events : List Event) (exchange : Exchange α) :
    (exchange.after events).world = exchange.world := rfl
@[simp] theorem unread_after (events : List Event) (exchange : Exchange α) :
    (exchange.after events).unread = exchange.unread := rfl

end Exchange

/-- The prompt where no other is asked for. -/
def standardPrompt : String := "$ "

namespace Reading

/-- What comes when the readings are used up. -/
def ended : Reading := text ""

/-- The line that a reading gives. -/
def line : Reading → Action String
  | text line => if line = "" then Action.stop .endOfInput else return line
  | interrupt => Action.stop .interrupt

/-- Ask for a line, and take what a reading gives. -/
def ask (prompt : String) (reading : Reading) : Action String := do
  Action.write .diagnostics prompt
  reading.line

/-- One turn of a conversation: ask for a line and interpret it. -/
def turn (prompt : String) (reading : Reading) : Action Next := do
  let line ← reading.ask prompt
  Line.interpret line

end Reading

/-- The end of a line on the screen. -/
def lineEnd : Event := .write .diagnostics "\n"

/-- Ask for one line. -/
def askLine (prompt : String) (input : List Reading) (world : World) : Exchange String :=
  match input with
  | [] => { (Reading.ended.ask prompt).run world with unread := [] }
  | reading :: rest => { (reading.ask prompt).run world with unread := rest }

/-- Converse, from the first reading that is left on.  The result is the exit code of the
conversation. -/
def converse (prompt : String) : List Reading → World → Exchange Int
  | [], world =>
    { outcome := .ok 0, events := [.write .diagnostics prompt, lineEnd], world, unread := [] }
  | reading :: rest, world =>
    let turn := (reading.turn prompt).run world
    match turn.outcome with
    | .ok .leave => { outcome := .ok 0, events := turn.events, world := turn.world, unread := rest }
    | .ok .proceed => (converse prompt rest turn.world).after turn.events
    | .error .endOfInput =>
      { outcome := .ok 0, events := turn.events ++ [lineEnd], world := turn.world, unread := rest }
    | .error .interrupt => (converse prompt rest turn.world).after (turn.events ++ [lineEnd])
    | .error stop =>
      { outcome := .error stop, events := turn.events, world := turn.world, unread := rest }

end CommandShell
