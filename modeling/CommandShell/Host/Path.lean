/-!
# Paths

A path is a text.  Two paths are the same exactly when they are the same text: nothing is
shortened or resolved but the base of a relative path.
-/

namespace CommandShell.Path

/-- The character between the parts of a path. -/
def separator : Char := '/'

/-- An absolute path starts with the separator. -/
def isAbsolute (path : String) : Bool := path.toList.head? = some separator

/-- Whether the last character is the separator. -/
def endsInSeparator (path : String) : Bool := path.toList.getLast? = some separator

/-- Whether the separator occurs at all. -/
def hasSeparator (path : String) : Bool := separator ∈ path.toList

/-- A path beneath a directory.  A directory that ends in the separator gets no second one. -/
def beneath (directory path : String) : String :=
  if endsInSeparator directory then directory ++ path
  else directory ++ String.singleton separator ++ path

/-- The path meant by `path` in a place where relative paths start from `base`. -/
def resolve (base path : String) : String :=
  if isAbsolute path then path else beneath base path

/-- Where a file of the given name in the given directory would be.  The directory without a name
is the place itself, so there the name stands alone. -/
def inDirectory (directory name : String) : String :=
  if directory = "" then name else beneath directory name

theorem hasSeparator_beneath (directory path : String) :
    hasSeparator (beneath directory path) = true := by
  unfold beneath
  split
  · rename_i h
    have := List.mem_of_getLast? (of_decide_eq_true h)
    simp [hasSeparator, this]
  · simp [hasSeparator]

end CommandShell.Path
