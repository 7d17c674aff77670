import CommandShell.Line.Grammar

/-!
# Writing words so that they are read back

Any text can be made into part of a word, whatever its characters.  It is put between apostrophes,
and each apostrophe of its own is written as the end of that run, an apostrophe between quotation
marks, and the beginning of another run.

`Scan.read_quoted` says that reading the written form adds exactly the text to the current word.
-/

namespace CommandShell.Line

/-- What stands for one character between apostrophes. -/
def quoteChar (c : Char) : List Char :=
  if c = Quote.single.char then
    [Quote.single.char, Quote.double.char, Quote.single.char, Quote.double.char, Quote.single.char]
  else [c]

/-- A text written so that it is read as it is. -/
def quoteList (text : List Char) : List Char :=
  Quote.single.char :: text.flatMap quoteChar ++ [Quote.single.char]

/-- A text written so that it is read as it is. -/
def quote (text : String) : String := String.ofList (quoteList text.toList)

/-- A line that has the given words, each of them quoted, with one space between two of them. -/
def ofWords (words : List String) : String := " ".intercalate (words.map quote)

@[simp] theorem toList_quote (text : String) : (quote text).toList = quoteList text.toList :=
  String.toList_ofList

end CommandShell.Line

namespace CommandShell.Scan

open Line

/-- Between apostrophes, what stands for a character adds that character. -/
theorem read_quoteChar {s : Scan} (h : s.quote = some .single) (c : Char) :
    s.read (quoteChar c) = s.keep c := by
  unfold quoteChar
  split
  · subst c
    cases s
    subst h
    rfl
  · rename_i hc
    rw [read_cons, step_inside h hc, read_nil]

/-- Outside quotes, the written form of a text adds exactly the text to the current word. -/
theorem read_quoted {s : Scan} (h : s.quote = none) (text : List Char) :
    s.read (quoteList text) = { s with word := s.word ++ text } := by
  have inside : ∀ (t : Scan), t.quote = some .single →
      t.read (text.flatMap quoteChar) = { t with word := t.word ++ text } := by
    induction text with
    | nil => intro t _; simp
    | cons c text ih =>
      intro t ht
      rw [List.flatMap_cons, read_append, read_quoteChar ht, ih (t.keep c) ht]
      simp [keep]
  rw [quoteList, List.cons_append, read_cons, step_open h, read_append, inside _ rfl, read_cons,
    step_close rfl, read_nil, ← h]

end CommandShell.Scan
