import CommandShell.Line.Quote

/-!
# Reading a line from left to right

A line is read one character at a time.  What has been read so far is a `Scan`: the words that are
finished, the word being put together, and the quote that is open.  `Scan.step` reads one more
character and `Scan.read` all the characters of a text in turn.

Outside quotes a space ends the current word, a quote opens a run, and every other character is
kept.  Inside a run every character is kept but the quote that closes it.  Quotes themselves are
dropped, and a word that would be empty is not a word.
-/

namespace CommandShell

/-- What is known of a line after part of it has been read. -/
structure Scan where
  /-- The finished words, in order. -/
  words : List (List Char) := []
  /-- The characters so far of the word being put together. -/
  word : List Char := []
  /-- The quote that is open, if the place reached lies inside a quoted run. -/
  quote : Option Quote := none
deriving DecidableEq, Repr

namespace Scan

/-- The words if the current one ends here: an empty one is not counted. -/
def finished (s : Scan) : List (List Char) :=
  if s.word = [] then s.words else s.words ++ [s.word]

/-- Add a character to the current word. -/
def keep (s : Scan) (c : Char) : Scan := { s with word := s.word ++ [c] }

/-- End the current word. -/
def cut (s : Scan) : Scan := { s with words := s.finished, word := [] }

/-- Read one character. -/
def step (s : Scan) (c : Char) : Scan :=
  match s.quote with
  | some q => if c = q.char then { s with quote := none } else s.keep c
  | none =>
    match Quote.ofChar? c with
    | some q => { s with quote := some q }
    | none => if c = ' ' then s.cut else s.keep c

/-- Read the characters of a text in turn. -/
def read (s : Scan) (text : List Char) : Scan := text.foldl step s

/-! ## Reading on -/

@[simp] theorem read_nil (s : Scan) : s.read [] = s := rfl

@[simp] theorem read_cons (s : Scan) (c : Char) (text : List Char) :
    s.read (c :: text) = (s.step c).read text := rfl

theorem read_append (s : Scan) (a b : List Char) : s.read (a ++ b) = (s.read a).read b :=
  List.foldl_append

/-! ## One step, by where it happens -/

theorem step_space {s : Scan} (h : s.quote = none) : s.step ' ' = s.cut := by
  simp [step, h]

theorem step_open {s : Scan} (h : s.quote = none) (q : Quote) :
    s.step q.char = { s with quote := some q } := by
  simp [step, h]

theorem step_plain {s : Scan} {c : Char} (h : s.quote = none) (hs : c ≠ ' ')
    (hq : Quote.ofChar? c = none) : s.step c = s.keep c := by
  simp [step, h, hs, hq]

theorem step_close {s : Scan} {q : Quote} (h : s.quote = some q) :
    s.step q.char = { s with quote := none } := by
  simp [step, h]

theorem step_inside {s : Scan} {q : Quote} {c : Char} (h : s.quote = some q) (hc : c ≠ q.char) :
    s.step c = s.keep c := by
  simp [step, h, hc]

end Scan

end CommandShell
