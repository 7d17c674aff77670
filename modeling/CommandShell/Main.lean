import CommandShell.Program

/-!
# The program on a small machine

The program runs on a machine of its own, which has a few directories and two programs.  What is
decided is decided in `Program.run`; here lines are read and text is written.
-/

namespace CommandShell.Main

/-- A program that ends with the given code. -/
def programFile (code : Int) : Entry :=
  { kind := .file, executable := true, launch := some (.ok (.exited code)) }

/-- A directory that is reached under other paths too. -/
def directoryAt (path : String) : Entry := { kind := .directory, real := some path }

/-- The machine, with the process in its home directory. -/
def machine : Host :=
  Host.boot
    [("/", directoryAt "/"), ("/bin", directoryAt "/bin"), ("/home", directoryAt "/home"),
     ("/bin/true", programFile 0), ("/bin/false", programFile 1),
     ("/home/..", directoryAt "/"), ("/bin/..", directoryAt "/"),
     ("/home/.", directoryAt "/home"), ("/bin/.", directoryAt "/bin")]
    "/home"

/-- The exit code as the system takes it. -/
def systemCode (code : Int) : UInt32 := UInt32.ofNat (code % 256).toNat

/-- What is left to say about a run that had no exit code, and the exit code it gets. -/
def afterStop : Stop → String × UInt32
  | .fault fault => (fault.text ++ "\n", 1)
  | .failure failure => (failure.notice, 1)
  | .endOfInput => ("", 1)
  | .interrupt => ("\n", 130)

/-- Write a piece of text where it belongs. -/
def writeText (stream : Stream) (text : String) : IO Unit := do
  match stream with
  | .output => (← IO.getStdout).putStr text
  | .diagnostics => (← IO.getStderr).putStr text

/-- Show the text that a run writes. -/
def showEvents (events : List Event) : IO Unit := do
  for event in events do
    match event with
    | .write stream text => writeText stream text
    | _ => pure ()

/-- Read the input to its end. -/
partial def readInput (stream : IO.FS.Stream) (taken : Array Reading) : IO (List Reading) := do
  let line ← stream.getLine
  if line.isEmpty then return taken.toList
  else readInput stream (taken.push (.text line))

end CommandShell.Main

open CommandShell CommandShell.Main in
/-- Run the program with the given arguments. -/
def main (arguments : List String) : IO UInt32 := do
  let surroundings : Surroundings := { host := machine, helpRules := .later }
  let input ←
    if Program.converses arguments surroundings then readInput (← IO.getStdin) #[] else pure []
  let completion := Program.run arguments { surroundings with input }
  showEvents completion.events
  match completion.outcome with
  | .ok code => return systemCode code
  | .error stop =>
    let (text, code) := afterStop stop
    writeText .diagnostics text
    return code
