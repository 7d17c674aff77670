import CommandShell.Options.Argument

/-!
# What the arguments ask for

The arguments are read from left to right.  Words that no switch takes, unknown switches and the
divider are of no use; they are collected, and refused together at the end.  A request for help is
granted as soon as it is reached, whatever follows.

A request for help may have something attached to it.  What this comes to has been ruled in two ways
(`HelpRules`), and a program goes by the rules that it finds where it is run.  They are a parameter
of the reading, so that what is said of it is said for both.
-/

namespace CommandShell

/-- What the program is asked to do. -/
inductive Invocation where
  /-- Show the help text. -/
  | help
  /-- Run with these settings. -/
  | run (settings : Settings)
deriving DecidableEq, Repr

/-- The rules for what is attached to the short switch for help.  Releases of the reader of
arguments differ in them.  Under both the letters that stand at once behind the switch are switches,
too, as far as there are such switches. -/
inductive HelpRules where
  /-- The rules of older releases.  A letter that is no switch is refused, with all that follows it.
  An equals sign between the switch and its letters is passed over. -/
  | earlier
  /-- The rules of newer releases.  A letter that is no switch is of no use, which does not keep
  help from being granted.  But what stands behind an equals sign is refused, and so are letters
  that begin with a minus sign. -/
  | later
deriving DecidableEq, Repr

/-- What letters come to of which the first is no switch. -/
def HelpRules.stray : HelpRules → List Char → Except UsageError Invocation
  | earlier, letters => .error (.unusedValue (String.ofList letters))
  | later, '=' :: value => .error (.unusedValue (String.ofList value))
  | later, '-' :: rest => .error (.unusedValue (String.ofList ('-' :: rest)))
  -- The letters would be refused at the end, but help ends the reading before that.
  | later, _ => .ok .help

namespace Options

/-- What the letters come to that follow the short switch for help.  Each letter is a switch by
itself, and the first that takes a value has the rest for its value, or the next argument where
nothing is left.  Help is granted unless that value is missing, or the rules refuse letters that are
no switches.  `wordFollows` tells whether the next argument is a word. -/
def helpLetters (rules : HelpRules) (wordFollows : Bool) : List Char → Except UsageError Invocation
  | ['h'] => .ok .help
  | 'h' :: rest => helpLetters rules wordFollows rest
  | ['c'] => if wordFollows then .ok .help else .error (.missingValue .command)
  | 'c' :: _ => .ok .help
  | letters => rules.stray letters

/-- Whether the first of the arguments is a word. -/
def startsWithWord : List Argument → Bool
  | .word _ :: _ => true
  | _ => false

/-- What a request for help comes to, by how it is spelled, what is attached to it and the arguments
that follow. -/
def help (rules : HelpRules) (following : List Argument) :
    HelpSpelling → Option Attachment → Except UsageError Invocation
  | _, none => .ok .help
  | .long, some attachment => .error (.unusedValue attachment.value)
  | .short, some (.direct letters) =>
    helpLetters rules (startsWithWord following) letters.toList
  | .short, some (.equals value) =>
    match rules with
    | .earlier => helpLetters .earlier (startsWithWord following) value.toList
    | .later => .error (.unusedValue value)

/-- Read the arguments that are left, with what is set so far and what was of no use. -/
def read (rules : HelpRules) (settings : Settings) (unused : List String) :
    List Argument → Except UsageError Invocation
  | [] => if unused = [] then .ok (.run settings) else .error (.unrecognized unused)
  | .word text :: rest => read rules settings (unused ++ [text]) rest
  | .unknown text :: rest => read rules settings (unused ++ [text]) rest
  | .divider :: rest => read rules settings (unused ++ [Argument.dividerText]) rest
  | .switch (.help spelling) attachment :: rest => help rules rest spelling attachment
  | .switch (.set setting) (some attachment) :: rest =>
    read rules (settings.set attachment.value setting) unused rest
  | .switch (.set setting) none :: .word value :: rest =>
    read rules (settings.set value setting) unused rest
  | .switch (.set setting) none :: _ => .error (.missingValue setting)

end Options

namespace Invocation

/-- What the program is asked to do by its arguments. -/
def ofTexts (rules : HelpRules) (arguments : List String) : Except UsageError Invocation := do
  Options.read rules {} [] (← Argument.ofTexts arguments)

end Invocation

end CommandShell
