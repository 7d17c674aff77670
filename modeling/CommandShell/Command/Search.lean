import CommandShell.World

/-!
# Where the program of a command is

A name that has a path separator is a path and is taken as it is.  Any other name is looked for
along the search path: in each of its directories in order, until one holds a program of that
name.

The entries of the search path are the parts of the variable `PATH` between colons.  An empty
entry stands for the directory the session is in.  Where the variable is not set at all, the
standard search path is used.
-/

namespace CommandShell.Search

/-- The name of the variable that holds the search path. -/
def pathVariable : String := "PATH"

/-- The search path of an environment that has none. -/
def standardPath : String := "/bin:/usr/bin"

/-- The character between the entries of a search path. -/
def entrySeparator : Char := ':'

/-- The entries of a search path, in order. -/
def entries (path : String) : List String :=
  (path.toList.splitOn entrySeparator).map String.ofList

/-- The directory that an entry stands for in a session that is in the directory `here`. -/
def directoryOf (here entry : String) : String := if entry = "" then here else entry

/-- Where a program of the given name might be, in the order in which it is looked for. -/
def candidates (path here name : String) : List String :=
  (entries path).map fun entry => Path.inDirectory (directoryOf here entry) name

/-- The search path of an environment. -/
def pathOf (environment : Environment) : String :=
  (environment.get? pathVariable).getD standardPath

/-- The path of the program that a name stands for, if there is one. -/
def program? (world : World) (name : String) : Option String :=
  if Path.hasSeparator name then some name
  else (candidates (pathOf world.session.environment) world.session.directory name).find?
    world.host.isProgram

/-- A path is taken as it is, whether or not anything is there. -/
theorem program?_of_hasSeparator {world : World} {name : String}
    (h : Path.hasSeparator name = true) : program? world name = some name := by
  simp [program?, h]

/-- A name that is no path stands for the first candidate that is a program. -/
theorem program?_of_not_hasSeparator {world : World} {name : String}
    (h : Path.hasSeparator name = false) :
    program? world name =
      (candidates (pathOf world.session.environment) world.session.directory name).find?
        world.host.isProgram := by
  simp [program?, h]

/-- What is found by searching is a program, seen from where the process is. -/
theorem isProgram_of_program? {world : World} {name path : String}
    (hn : Path.hasSeparator name = false) (h : program? world name = some path) :
    world.host.isProgram path = true :=
  List.find?_some (program?_of_not_hasSeparator hn ▸ h)

end CommandShell.Search
