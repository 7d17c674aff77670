/-!
# Commands

A command is what the words of a line say: the first is the name of what is run, the others are
its arguments.
-/

namespace CommandShell

/-- The name of what is run and the arguments it gets. -/
structure Command where
  /-- What is run. -/
  name : String
  /-- The arguments, in order. -/
  arguments : List String
deriving DecidableEq, Repr

namespace Command

/-- The command that a list of words says; no words say no command. -/
def ofWords? : List String → Option Command
  | [] => none
  | name :: arguments => some { name, arguments }

/-- The words of a command, its name first. -/
def words (command : Command) : List String := command.name :: command.arguments

@[simp] theorem ofWords?_nil : ofWords? [] = none := rfl
@[simp] theorem ofWords?_cons (name : String) (arguments : List String) :
    ofWords? (name :: arguments) = some { name, arguments } := rfl

/-- A command is said by exactly its own words. -/
theorem ofWords?_eq_some {ws : List String} {command : Command} :
    ofWords? ws = some command ↔ ws = command.words := by
  cases ws with
  | nil => simp [words]
  | cons name arguments => cases command; simp [words]

end Command

end CommandShell
