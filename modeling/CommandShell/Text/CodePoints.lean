/-!
# Sets of code points given by ranges

A character class is a list of closed ranges `(first, last)` of code points.  A character belongs
to the class when one of the ranges holds its code point, so the order of the ranges is free.
-/

namespace CommandShell.Text

/-- A set of code points: the union of closed ranges, each with its first and its last member. -/
abbrev CodePoints := List (Nat × Nat)

namespace CodePoints

/-- A character is in the set when one of the ranges reaches from at most its code point to at
least its code point. -/
def contains (ranges : CodePoints) (c : Char) : Bool :=
  ranges.any fun range => range.1 ≤ c.toNat && c.toNat ≤ range.2

@[simp] theorem contains_nil (c : Char) : contains [] c = false := rfl

@[simp] theorem contains_cons (range : Nat × Nat) (ranges : CodePoints) (c : Char) :
    contains (range :: ranges) c =
      ((range.1 ≤ c.toNat && c.toNat ≤ range.2) || contains ranges c) := rfl

end CodePoints

end CommandShell.Text
