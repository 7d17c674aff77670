import CommandShell.Conversation
import CommandShell.Text.Literal

/-!
# The switches of the program

The program knows two settings, each with a switch that takes its value, and a switch that asks
for help.  This module also holds what is written about them: the usage line, the help text, and
the messages for arguments that cannot be understood.
-/

namespace CommandShell

/-- What can be set from the command line. -/
inductive Setting where
  /-- The text that is written before each line is read. -/
  | prompt
  /-- The one line to be run. -/
  | command
deriving DecidableEq, Repr

/-- The two ways to ask for help. -/
inductive HelpSpelling where
  /-- With one letter, which may stand in one argument with further letters. -/
  | short
  /-- With the whole word. -/
  | long
deriving DecidableEq, Repr

/-- An argument that is more than a word. -/
inductive Switch where
  /-- Ask for help. -/
  | help (spelling : HelpSpelling)
  /-- Set something. -/
  | set (setting : Setting)
deriving DecidableEq, Repr

namespace Setting

/-- The switch of a setting, as it is written and as messages call it. -/
def name : Setting → String
  | prompt => "--prompt"
  | command => "-c"

end Setting

namespace Switch

/-- The short way to ask for help. -/
def shortHelp : String := "-h"

/-- The long way to ask for help. -/
def longHelp : String := "--help"

/-- All the spellings, each with what it stands for. -/
def spellings : List (String × Switch) :=
  [(shortHelp, help .short), (longHelp, help .long), (Setting.prompt.name, set .prompt),
   (Setting.command.name, set .command)]

/-- The switch that is spelled exactly so. -/
def ofName? (text : String) : Option Switch := spellings.lookup text

/-- The spellings that begin so, each with what it stands for. -/
def beginning (start : List Char) : List (String × Switch) :=
  spellings.filter fun spelling => start.isPrefixOf spelling.1.toList

end Switch

/-- What is set. -/
structure Settings where
  /-- The text that is written before each line is read. -/
  prompt : String := standardPrompt
  /-- The one line to be run; without one the program converses. -/
  command : Option String := none
deriving DecidableEq, Repr

namespace Settings

/-- Set something.  What was set before is forgotten. -/
def set (settings : Settings) (value : String) : Setting → Settings
  | .prompt => { settings with prompt := value }
  | .command => { settings with command := some value }

end Settings

/-- Why the arguments of the program cannot be understood. -/
inductive UsageError where
  /-- A switch needs a value and there is none. -/
  | missingValue (setting : Setting)
  /-- The switch for help takes no value and was given one, or letters that are no switches. -/
  | unusedValue (value : String)
  /-- An abbreviation fits several switches. -/
  | ambiguous (argument : String) (names : List String)
  /-- Some arguments are of no use. -/
  | unrecognized (arguments : List String)
deriving DecidableEq, Repr

namespace UsageError

/-- What is said about the arguments. -/
def message : UsageError → String
  | missingValue setting => "argument " ++ setting.name ++ ": expected one argument"
  | unusedValue value =>
    "argument " ++ Switch.shortHelp ++ "/" ++ Switch.longHelp ++ ": ignored explicit argument "
      ++ Text.literal value
  | ambiguous argument names =>
    "ambiguous option: " ++ argument ++ " could match " ++ ", ".intercalate names
  | unrecognized arguments => "unrecognized arguments: " ++ " ".intercalate arguments

end UsageError

namespace Usage

/-- The name the program goes by. -/
def program : String := "quill-sh"

/-- How the program is called, in one line.  This line and the help text are laid out for a terminal
of eighty columns.  A wider one makes no difference; on one that is too narrow for a line the layout
would be another. -/
def synopsis : String := "usage: " ++ program ++ " [-h] [--prompt PROMPT] [-c COMMAND]\n"

/-- What the program is and what its switches do, in eighty columns. -/
def help : String :=
  synopsis ++
  "\nA minimal interactive command interpreter\n" ++
  "\noptions:\n" ++
  "  -h, --help       show this help message and exit\n" ++
  "  --prompt PROMPT  Prompt written to stderr before each line (default: " ++
    Text.literal standardPrompt ++ ")\n" ++
  "  -c COMMAND       Run a single command line and exit\n"

/-- What is written when the arguments cannot be understood. -/
def complaint (error : UsageError) : String :=
  synopsis ++ program ++ ": error: " ++ error.message ++ "\n"

end Usage

end CommandShell
