import CommandShell.Command.Execute
import CommandShell.Line.Words
import CommandShell.Text.Blank

/-!
# Interpreting a line

A line is trimmed, split into words and carried out.  A failure is reported and makes the status
one; otherwise the status is zero.  A blank line does nothing at all and leaves the status as it
was, and so does a line that is interrupted.
-/

namespace CommandShell

namespace Failure

/-- What is written about a failure. -/
def notice (failure : Failure) : String := "error: " ++ failure.message ++ "\n"

/-- Report a failure.  The exit code of a program was written when the program ended, and is not
written again. -/
def report (failure : Failure) : Action Unit :=
  if failure.kind = .command then return ()
  else Action.write .diagnostics failure.notice

end Failure

namespace Line

/-- Carry out what a trimmed line says; nothing is made of a failure yet. -/
def attempt (text : String) : Action Next :=
  match words text with
  | .error kind => Action.fail (.ofKind kind)
  | .ok ws => Command.executeWords ws

/-- Report a failure, set the status to one and go on. -/
def recover (failure : Failure) : Action Next := do
  failure.report
  Action.change (·.withStatus 1)
  return .proceed

/-- Carry out a trimmed line that is not empty, and set the status by how it goes. -/
def carryOut (text : String) : Action Next :=
  Action.onFailure (do
      let next ← attempt text
      Action.change (·.withStatus 0)
      return next)
    recover

/-- Interpret a line. -/
def interpret (line : String) : Action Next :=
  let text := Text.trim line
  if text = "" then return .proceed else carryOut text

/-- A blank line does nothing. -/
theorem interpret_of_trim_eq_empty {line : String} (h : Text.trim line = "") :
    interpret line = pure .proceed := by
  simp [interpret, h]

/-- Any other line is trimmed and carried out. -/
theorem interpret_of_trim_ne_empty {line : String} (h : Text.trim line ≠ "") :
    interpret line = carryOut (Text.trim line) := by
  simp [interpret, h]

end Line

end CommandShell
