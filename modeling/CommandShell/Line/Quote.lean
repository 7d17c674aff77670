/-!
# The two kinds of quote

A quote of either kind groups the characters up to the next quote of the same kind.  Inside a run
of one kind the other kind is an ordinary character.
-/

namespace CommandShell

/-- A kind of quote. -/
inductive Quote where
  | single
  | double
deriving DecidableEq, Repr

namespace Quote

/-- The character that opens and closes a run of this kind. -/
def char : Quote → Char
  | single => '\x27'
  | double => '\x22'

/-- The kind of quote that a character is, if it is one. -/
def ofChar? (c : Char) : Option Quote :=
  if c = single.char then some single
  else if c = double.char then some double
  else none

/-- The other kind. -/
def other : Quote → Quote
  | single => double
  | double => single

@[simp] theorem char_single : single.char = '\x27' := rfl
@[simp] theorem char_double : double.char = '\x22' := rfl

@[simp] theorem ofChar?_char (q : Quote) : ofChar? q.char = some q := by
  cases q <;> decide

@[simp] theorem ofChar?_space : ofChar? ' ' = none := by decide

theorem ofChar?_eq_some {c : Char} {q : Quote} : ofChar? c = some q ↔ c = q.char := by
  constructor
  · intro h
    unfold ofChar? at h
    split at h
    · cases h; assumption
    · split at h
      · cases h; assumption
      · cases h
  · rintro rfl
    exact ofChar?_char q

theorem ofChar?_eq_none {c : Char} :
    ofChar? c = none ↔ c ≠ single.char ∧ c ≠ double.char := by
  unfold ofChar?
  split
  · simp_all
  · split <;> simp_all

theorem char_ne_space (q : Quote) : q.char ≠ ' ' := by cases q <;> decide

theorem char_injective {q r : Quote} : q.char = r.char → q = r := by
  cases q <;> cases r <;> decide

@[simp] theorem other_other (q : Quote) : q.other.other = q := by cases q <;> rfl

end Quote

end CommandShell
