import CommandShell.Fault

/-!
# Failures: why a command line was not carried out

A failure concerns one line.  It has a kind, a message for the person who typed the line, and,
where a system call is to blame, the fault of that call.
-/

namespace CommandShell

/-- The kinds of failure of a command line. -/
inductive FailureKind where
  /-- A quote was opened and not closed. -/
  | unclosedQuote
  /-- The line has more words than a command may have. -/
  | tooManyWords
  /-- The line has more characters than a line may have. -/
  | lineTooLong
  /-- The working directory could not be changed. -/
  | directory
  /-- An external command was run and did not succeed. -/
  | command
  /-- An external command could not be started. -/
  | inputOutput
deriving DecidableEq, Repr

namespace FailureKind

/-- The message of a failure that says no more than its kind. -/
def text : FailureKind → String
  | unclosedQuote => "mismatched quotes"
  | tooManyWords => "too many arguments"
  | lineTooLong => "command line too long"
  | directory => "cd failed"
  | command => "command failed"
  | inputOutput => "i/o error"

/-- All the kinds. -/
def all : List FailureKind :=
  [unclosedQuote, tooManyWords, lineTooLong, directory, command, inputOutput]

theorem mem_all (kind : FailureKind) : kind ∈ all := by
  cases kind <;> decide

end FailureKind

/-- The failure of one command line. -/
structure Failure where
  /-- What kind of failure it is. -/
  kind : FailureKind
  /-- What is said about it. -/
  message : String
  /-- The fault behind it, if a system call is to blame. -/
  cause : Option Fault := none
deriving DecidableEq, Repr

namespace Failure

/-- A failure with a message of its own.  Where there is no message, or an empty one, the kind
speaks for itself. -/
def of (kind : FailureKind) (message : Option String) : Failure :=
  match message with
  | some text => { kind, message := if text = "" then kind.text else text }
  | none => { kind, message := kind.text }

/-- A failure that says no more than its kind. -/
def ofKind (kind : FailureKind) : Failure := of kind none

/-! ## Changing the directory -/

/-- The one argument that names a directory is missing, or there are more. -/
def oneDirectoryNeeded : Failure :=
  { kind := .directory, message := "cd requires exactly one argument" }

/-- What is said when the target could not be entered.  The two common causes have words of their
own, whatever the system says about them; any other cause is given in the system's words, or by
the whole text of the fault where the system has none.  An invalid target is not repeated. -/
def directoryMessage (target : String) : Fault → String
  | .numbered number reason file =>
    if number = ErrorNumber.noEntry then "cd failed: no such file or directory: " ++ target
    else if number = ErrorNumber.notDirectory then "cd failed: not a directory: " ++ target
    else
      let words := if reason = "" then (Fault.numbered number reason file).text else reason
      "cd failed: " ++ words ++ ": " ++ target
  | .described text => "cd failed: " ++ text ++ ": " ++ target
  | .invalid text => "cd failed: " ++ text

/-- The target could not be entered. -/
def cannotEnter (target : String) (fault : Fault) : Failure :=
  { kind := .directory, message := directoryMessage target fault, cause := some fault }

/-! ## Running an external command -/

/-- No program was found for the name. -/
def commandNotFound (name : String) : Failure :=
  { kind := .inputOutput, message := name ++ ": command not found",
    cause := some (.noEntry (some name)) }

/-- The program was found and could not be started. -/
def cannotStart (fault : Fault) : Failure :=
  { kind := .inputOutput, message := "failed to execute command: " ++ fault.text,
    cause := some fault }

/-- The program ran and ended with the given exit code, which is not zero. -/
def exitedWith (code : Int) : Failure :=
  { kind := .command, message := "command exited with code " ++ toString code }

end Failure

end CommandShell
