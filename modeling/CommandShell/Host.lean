import CommandShell.Host.Entry
import CommandShell.Host.Path

/-!
# The host: files, and where the process is

The host is the system a shell runs on.  It has a table of files, which does not change, and it
knows the directory the process is in, and whether that directory has been removed.  A process in
a removed directory stays there, but it can no longer learn where it is.

The three system calls of a shell are `Host.enter` (move), `Host.whereabouts` (learn where the
process is) and `Host.launch` (run a program to its end).
-/

namespace CommandShell

/-- The files, and where the process is. -/
structure Host where
  /-- What each path stands for; a path that is not listed stands for nothing. -/
  files : List (String × Entry)
  /-- The directory the process is in. -/
  directory : String
  /-- Whether that directory has been removed. -/
  removed : Bool

namespace Host

/-- A host whose process is in the given directory, which has been removed if the file table says
so. -/
def boot (files : List (String × Entry)) (directory : String) : Host :=
  { files, directory, removed := ((files.lookup directory).map Entry.removed).getD false }

/-- What a path stands for where relative paths start from `base`. -/
def entry? (host : Host) (base path : String) : Option Entry :=
  host.files.lookup (Path.resolve base path)

/-- Whether a path, seen from where the process is, stands for a program. -/
def isProgram (host : Host) (path : String) : Bool :=
  ((host.entry? host.directory path).map Entry.isProgram).getD false

/-- No system call takes a text that holds the character with number zero. -/
def holdsNull (text : String) : Bool := '\x00' ∈ text.toList

/-- Where the process is. -/
def whereabouts (host : Host) : Except Fault String :=
  if host.removed then .error (.noEntry none) else .ok host.directory

/-- Move the process into a directory. -/
def enter (host : Host) (target : String) : Except Fault Host :=
  if holdsNull target then .error .embeddedNull
  else match host.entry? host.directory target with
    | none => .error (.noEntry (some target))
    | some entry =>
      match entry.refusal with
      | some fault => .error (fault.about target)
      | none =>
        if entry.kind = .file then .error (.notDirectory target)
        else .ok { host with
          directory := entry.real.getD (Path.resolve host.directory target)
          removed := entry.removed }

/-- Run a program in a directory to its end.  A program for which nothing is laid down ends
well. -/
def launch (host : Host) (executable : String) (words : List String) (directory : String) :
    Except Fault Ending :=
  if holdsNull executable || holdsNull directory || words.any holdsNull then .error .embeddedNull
  else match host.entry? directory executable with
    | none => .error (.noEntry (some executable))
    | some entry =>
      match entry.launch with
      | some result => result.mapError (Fault.about executable)
      | none =>
        if entry.isProgram then .ok (.exited 0) else .error (.accessDenied executable)

/-! ## Laws -/

/-- A process that is not in a removed directory learns where it is. -/
theorem whereabouts_eq_ok {host : Host} {directory : String} :
    host.whereabouts = .ok directory ↔ host.removed = false ∧ host.directory = directory := by
  unfold whereabouts
  split <;> simp_all

theorem files_of_enter {host moved : Host} {target : String} (h : host.enter target = .ok moved) :
    moved.files = host.files := by
  unfold enter at h
  grind

theorem isProgram_iff {host : Host} {path : String} :
    host.isProgram path = true ↔
      ∃ entry, host.entry? host.directory path = some entry ∧ entry.isProgram = true := by
  unfold isProgram
  cases host.entry? host.directory path <;> simp

end Host

end CommandShell
