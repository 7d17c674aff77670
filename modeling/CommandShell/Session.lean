/-!
# Sessions

A session is what a shell remembers from one line to the next: its environment, the directory it
is in, and the status of the last line.
-/

namespace CommandShell

/-- The variables of an environment.  Of several entries under one name the first counts. -/
abbrev Environment := List (String × String)

namespace Environment

/-- The value of a variable. -/
def get? (environment : Environment) (name : String) : Option String := environment.lookup name

/-- Give a variable a value, or with no value remove it. -/
def set (environment : Environment) (name : String) (value : Option String) : Environment :=
  let others := environment.filter fun pair => pair.1 ≠ name
  match value with
  | some text => (name, text) :: others
  | none => others

private theorem lookup_filter_ne (environment : Environment) (name : String) :
    List.lookup name (environment.filter fun pair => pair.1 ≠ name) = none := by
  rw [List.lookup_eq_none_iff]
  intro pair h
  have := (List.mem_filter.1 h).2
  simp at this ⊢
  exact fun h => this h.symm

@[simp] theorem get?_set_self (environment : Environment) (name : String)
    (value : Option String) : (environment.set name value).get? name = value := by
  cases value with
  | none => exact lookup_filter_ne environment name
  | some text => simp [get?, set]

end Environment

/-- What a shell remembers. -/
structure Session where
  /-- The variables. -/
  environment : Environment
  /-- The directory the session takes itself to be in. -/
  directory : String
  /-- The status of the last line: zero if it went well. -/
  status : Int := 0

end CommandShell
