import CommandShell.Text.Literal

/-!
# Faults: what a system call answers when it fails

A fault usually carries the number and the text that the system gives for its cause, and the file
name the call was about.  A system may also describe a fault in words alone, or refuse an argument
as invalid before it looks anything up.
-/

namespace CommandShell

/-- The number by which the system names the cause of a fault. -/
abbrev ErrorNumber := Int

namespace ErrorNumber

/-- Nothing bears the name that was looked up. -/
def noEntry : ErrorNumber := 2

/-- The entry may not be used in this way. -/
def accessDenied : ErrorNumber := 13

/-- The entry is a file where a directory was needed. -/
def notDirectory : ErrorNumber := 20

end ErrorNumber

/-- Why a system call failed. -/
inductive Fault where
  /-- The system numbered the cause; some calls also name the file they were about. -/
  | numbered (number : ErrorNumber) (reason : String) (file : Option String)
  /-- The system described the cause in words alone. -/
  | described (text : String)
  /-- An argument was refused as invalid before the call was made. -/
  | invalid (text : String)
deriving DecidableEq, Repr

namespace Fault

/-- Nothing bears the name that was looked up. -/
def noEntry (file : Option String) : Fault :=
  numbered ErrorNumber.noEntry "No such file or directory" file

/-- The file may not be run. -/
def accessDenied (file : String) : Fault :=
  numbered ErrorNumber.accessDenied "Permission denied" (some file)

/-- The entry is no directory. -/
def notDirectory (file : String) : Fault :=
  numbered ErrorNumber.notDirectory "Not a directory" (some file)

/-- An argument held the character with number zero, which no system call takes. -/
def embeddedNull : Fault := invalid "embedded null byte"

/-- The same fault as seen by a call about the given file: a numbered fault names that file, the
other kinds never name one. -/
def about (file : String) : Fault → Fault
  | numbered number reason _ => numbered number reason (some file)
  | fault => fault

/-- The text of a fault. -/
def text : Fault → String
  | numbered number reason (some file) =>
    "[Errno " ++ toString number ++ "] " ++ reason ++ ": " ++ Text.literal file
  | numbered number reason none => "[Errno " ++ toString number ++ "] " ++ reason
  | described text => text
  | invalid text => text

end Fault

end CommandShell
