import CommandShell.Fault

/-!
# Entries of the file table

An entry tells what a path stands for: whether it is a file or a directory, whether it may be
run, and what happens to those who run it or move into it.
-/

namespace CommandShell

/-- What a path stands for. -/
inductive EntryKind where
  | file
  | directory
deriving DecidableEq, Repr

/-- How a program that was started ends. -/
inductive Ending where
  /-- It ends by itself, or is killed by a signal, which counts as a negative code. -/
  | exited (code : Int)
  /-- It is interrupted from the keyboard. -/
  | interrupted
deriving DecidableEq, Repr

/-- What the file table holds under a path. -/
structure Entry where
  /-- File or directory. -/
  kind : EntryKind
  /-- Whether a file may be run. -/
  executable : Bool := false
  /-- How starting it turns out, where that is laid down. -/
  launch : Option (Except Fault Ending) := none
  /-- The directory that one who moves here is in, if it is not the path itself. -/
  real : Option String := none
  /-- Whether the directory has been removed, so that one who moves here is nowhere. -/
  removed : Bool := false
  /-- The fault that meets all who move here, where one is laid down. -/
  refusal : Option Fault := none

namespace Entry

/-- A program is a file that may be run. -/
def isProgram (entry : Entry) : Bool := entry.kind = .file && entry.executable

theorem isProgram_iff {entry : Entry} :
    entry.isProgram = true ↔ entry.kind = .file ∧ entry.executable = true := by
  simp [isProgram]

end Entry

end CommandShell
