import CommandShell.Line.Words

/-!
# The grammar of a line

A line is a sequence of items.  An item is a space, one plain character, or a quoted run, that is
a quote, characters other than that quote, and the quote again.  The words of a line are the
texts of the stretches between its spaces, without those that are empty.

* `Line.Parses text items` says that the items are a parse of the text.
* `Scan.read_space`, `Scan.read_plain` and `Scan.read_run` tell what the scan of a line makes of
  each item.
-/

namespace CommandShell.Line

/-- A piece of a line that stands by itself. -/
inductive Item where
  /-- The space that separates words. -/
  | space
  /-- A character that stands for itself. -/
  | plain (c : Char)
  /-- A quoted run, with what is between its quotes. -/
  | run (quote : Quote) (body : List Char)
deriving DecidableEq, Repr

namespace Item

/-- A plain character is neither the space nor a quote, and a run does not hold its own quote. -/
def WellFormed : Item → Prop
  | space => True
  | plain c => c ≠ ' ' ∧ Quote.ofChar? c = none
  | run quote body => quote.char ∉ body

instance (item : Item) : Decidable item.WellFormed := by
  cases item <;> unfold WellFormed <;> infer_instance

/-- The item as it stands in the line. -/
def written : Item → List Char
  | space => [' ']
  | plain c => [c]
  | run quote body => quote.char :: body ++ [quote.char]

/-- What the item adds to a word. -/
def text : Item → List Char
  | space => []
  | plain c => [c]
  | run _ body => body

/-- Whether the item is a space. -/
def isSpace : Item → Bool
  | space => true
  | _ => false

end Item

/-- A sequence of items as it stands in the line. -/
def written (items : List Item) : List Char := items.flatMap Item.written

/-- What a sequence of items says when spaces are left out. -/
def text (items : List Item) : List Char := items.flatMap Item.text

/-- The stretches between the spaces, empty ones included. -/
def stretches (items : List Item) : List (List Item) := items.splitOnP Item.isSpace

/-- The texts of the stretches that are not empty. -/
def itemWords (items : List Item) : List (List Char) :=
  ((stretches items).map text).filter (· ≠ [])

/-- The items are a parse of the text. -/
def Parses (line : List Char) (items : List Item) : Prop :=
  (∀ item ∈ items, item.WellFormed) ∧ written items = line

@[simp] theorem written_nil : written [] = [] := rfl
@[simp] theorem written_cons (item : Item) (items : List Item) :
    written (item :: items) = item.written ++ written items := rfl
@[simp] theorem text_nil : text [] = [] := rfl
@[simp] theorem text_cons (item : Item) (items : List Item) :
    text (item :: items) = item.text ++ text items := rfl

@[simp] theorem written_append (a b : List Item) : written (a ++ b) = written a ++ written b :=
  List.flatMap_append

@[simp] theorem text_append (a b : List Item) : text (a ++ b) = text a ++ text b :=
  List.flatMap_append

end CommandShell.Line

namespace CommandShell.Scan

open Line

/-- Inside a run, characters other than its quote are kept as they come. -/
theorem read_inside {s : Scan} {q : Quote} (h : s.quote = some q) {body : List Char}
    (hb : q.char ∉ body) : s.read body = { s with word := s.word ++ body } := by
  induction body generalizing s with
  | nil => simp
  | cons c body ih =>
    obtain ⟨hc, hb⟩ := not_or.1 (mt List.mem_cons.2 hb)
    rw [read_cons, step_inside h (Ne.symm hc), ih (s := s.keep c) h hb]
    simp [keep]

/-- Plain characters outside quotes are added to the current word as they come. -/
theorem read_plains {s : Scan} (hquote : s.quote = none) {word : List Char}
    (hword : ∀ c ∈ word, (Item.plain c).WellFormed) :
    s.read word = { s with word := s.word ++ word } := by
  induction word generalizing s with
  | nil => simp
  | cons c word ih =>
    obtain ⟨hc, hword⟩ := List.forall_mem_cons.1 hword
    rw [read_cons, step_plain hquote hc.1 hc.2, ih (s := s.keep c) hquote hword]
    simp [keep]

theorem read_space {s : Scan} (h : s.quote = none) : s.read Item.space.written = s.cut := by
  simp [Item.written, step_space h]

theorem read_plain {s : Scan} (h : s.quote = none) {c : Char} (hc : (Item.plain c).WellFormed) :
    s.read (Item.plain c).written = s.keep c := by
  simp [Item.written, step_plain h hc.1 hc.2]

/-- Outside quotes a quoted run adds what is between its quotes, and leaves no quote open. -/
theorem read_run {s : Scan} (h : s.quote = none) {q : Quote} {body : List Char}
    (hb : (Item.run q body).WellFormed) :
    s.read (Item.run q body).written = { s with word := s.word ++ body } := by
  have inside := read_inside (s := { s with quote := some q }) rfl hb
  rw [Item.written, List.cons_append, read_cons, step_open h, read_append, inside, read_cons,
    step_close rfl, read_nil, ← h]

end CommandShell.Scan
