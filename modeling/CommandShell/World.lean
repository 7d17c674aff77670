import CommandShell.Builtin
import CommandShell.Host
import CommandShell.Session

/-!
# The world of a shell

The world is all that a command can act on: the host, the session and the registered builtins.
It does not hold the input, which no command reads.
-/

namespace CommandShell

/-- All that a command can act on. -/
structure World where
  /-- The system the shell runs on. -/
  host : Host
  /-- What the shell remembers. -/
  session : Session
  /-- The commands the shell carries out itself. -/
  builtins : Registry := Registry.standard

namespace World

/-- Open a session on a host.  The session starts where the process is, so it cannot be opened
where the process cannot learn that. -/
def start (host : Host) (environment : Environment) (builtins : Registry) :
    Except Fault World :=
  match host.whereabouts with
  | .ok directory => .ok { host, session := { environment, directory }, builtins }
  | .error fault => .error fault

/-- The world with another host. -/
def withHost (world : World) (host : Host) : World := { world with host }

/-- The world whose session is in the given directory. -/
def withDirectory (world : World) (directory : String) : World :=
  { world with session := { world.session with directory } }

/-- The world whose session has the given status. -/
def withStatus (world : World) (status : Int) : World :=
  { world with session := { world.session with status } }

/-- The world whose session has the given environment. -/
def withEnvironment (world : World) (environment : Environment) : World :=
  { world with session := { world.session with environment } }

/-- The world with a further builtin. -/
def withBuiltin (world : World) (name : String) (builtin : Builtin) : World :=
  { world with builtins := world.builtins.register name builtin }

/-! ## What each change leaves alone -/

section Changes

variable (world : World)

@[simp] theorem host_withHost (host : Host) : (world.withHost host).host = host := rfl
@[simp] theorem session_withHost (host : Host) :
    (world.withHost host).session = world.session := rfl
@[simp] theorem builtins_withHost (host : Host) :
    (world.withHost host).builtins = world.builtins := rfl

@[simp] theorem host_withDirectory (directory : String) :
    (world.withDirectory directory).host = world.host := rfl
@[simp] theorem session_withDirectory (directory : String) :
    (world.withDirectory directory).session = { world.session with directory } := rfl
@[simp] theorem builtins_withDirectory (directory : String) :
    (world.withDirectory directory).builtins = world.builtins := rfl

@[simp] theorem host_withStatus (status : Int) :
    (world.withStatus status).host = world.host := rfl
@[simp] theorem session_withStatus (status : Int) :
    (world.withStatus status).session = { world.session with status } := rfl
@[simp] theorem builtins_withStatus (status : Int) :
    (world.withStatus status).builtins = world.builtins := rfl

@[simp] theorem host_withEnvironment (environment : Environment) :
    (world.withEnvironment environment).host = world.host := rfl
@[simp] theorem session_withEnvironment (environment : Environment) :
    (world.withEnvironment environment).session = { world.session with environment } := rfl

@[simp] theorem host_withBuiltin (name : String) (builtin : Builtin) :
    (world.withBuiltin name builtin).host = world.host := rfl
@[simp] theorem session_withBuiltin (name : String) (builtin : Builtin) :
    (world.withBuiltin name builtin).session = world.session := rfl

end Changes

/-- A session that has just been opened is where the process is, and its status is zero. -/
theorem start_eq_ok {host : Host} {environment : Environment} {builtins : Registry}
    {world : World} (h : start host environment builtins = .ok world) :
    host.removed = false ∧ world.host = host ∧ world.session.directory = host.directory ∧
      world.session.environment = environment ∧ world.session.status = 0 ∧
      world.builtins = builtins := by
  unfold start at h
  split at h
  · rename_i directory hd
    obtain ⟨hr, rfl⟩ := Host.whereabouts_eq_ok.1 hd
    cases h
    exact ⟨hr, rfl, rfl, rfl, rfl, rfl⟩
  · cases h

end World

end CommandShell
