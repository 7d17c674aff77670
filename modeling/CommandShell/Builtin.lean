import CommandShell.Failure

/-!
# Builtin commands

A builtin is a command that the shell carries out itself.  Two come with the shell, `cd` and
`exit`.  Others, and other meanings of these two names, are registered as extensions, whose answer
is laid down when they are registered.
-/

namespace CommandShell

/-- What comes after a command. -/
inductive Next where
  /-- Go on with the next line. -/
  | proceed
  /-- Leave the shell. -/
  | leave
deriving DecidableEq, Repr

/-- What the shell does itself under a name. -/
inductive Builtin where
  /-- Move to another directory. -/
  | changeDirectory
  /-- Leave the shell. -/
  | leave
  /-- Give the answer that was laid down. -/
  | extension (answer : Except Failure Next)

/-- The builtins by name.  Of several entries under one name the first counts. -/
abbrev Registry := List (String × Builtin)

namespace Registry

/-- The builtins that come with the shell. -/
def standard : Registry := [("cd", .changeDirectory), ("exit", .leave)]

/-- The builtin registered under a name. -/
def get? (registry : Registry) (name : String) : Option Builtin := registry.lookup name

/-- Register a builtin under a name, in place of the one that had the name before. -/
def register (registry : Registry) (name : String) (builtin : Builtin) : Registry :=
  (name, builtin) :: registry

/-- The registered names in order, each once. -/
def names (registry : Registry) : List String :=
  (registry.map Prod.fst).eraseDups.mergeSort

@[simp] theorem get?_register_self (registry : Registry) (name : String) (builtin : Builtin) :
    (registry.register name builtin).get? name = some builtin := by
  simp [get?, register]

theorem get?_register_of_ne (registry : Registry) {name other : String} (builtin : Builtin)
    (h : other ≠ name) : (registry.register name builtin).get? other = registry.get? other := by
  have : (other == name) = false := by simpa using h
  simp [get?, register, List.lookup_cons, this]

end Registry

end CommandShell
