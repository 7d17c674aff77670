import CommandShell.Line.Quoting
import CommandShell.Proofs.Line.Continuation
import CommandShell.Text.Blank

/-!
# Quoted words are read back

A line that is put together from quoted words is read as exactly these words, whatever characters
they hold.  The one exception is the empty word, which no line can say.

* `split?_quoteList` says this of a single word, and `split?_quotedWords` of many, since a space
  behind a quoted word is a boundary.
* `words_ofWords` says that the words of the line are the words that were quoted.
* `trim_ofWords` says that trimming leaves the line alone: it begins and ends with a quote.
-/

namespace CommandShell.Line

/-- Words in the form in which a line holds them: quoted, with a space between two of them. -/
def quotedWords (words : List (List Char)) : List Char := [' '].intercalate (words.map quoteList)

@[simp] theorem quotedWords_nil : quotedWords [] = [] := rfl

@[simp] theorem quotedWords_singleton (word : List Char) : quotedWords [word] = quoteList word :=
  List.intercalate_singleton

theorem quotedWords_cons_cons (word next : List Char) (rest : List (List Char)) :
    quotedWords (word :: next :: rest) = quoteList word ++ ' ' :: quotedWords (next :: rest) := by
  simp [quotedWords, List.intercalate_cons_cons]

theorem toList_ofWords (words : List String) :
    (ofWords words).toList = quotedWords (words.map String.toList) := by
  simp [ofWords, quotedWords, List.map_map, Function.comp_def]

/-- Quoted words begin and end with a quote. -/
theorem quotedWords_ends (words : List (List Char)) (h : words ≠ []) :
    ∃ body, quotedWords words = Quote.single.char :: (body ++ [Quote.single.char]) := by
  induction words with
  | nil => exact absurd rfl h
  | cons word rest ih =>
    cases rest with
    | nil => exact ⟨word.flatMap quoteChar, by rw [quotedWords_singleton]; rfl⟩
    | cons next rest =>
      obtain ⟨body, hbody⟩ := ih (List.cons_ne_nil next rest)
      refine ⟨word.flatMap quoteChar ++ Quote.single.char :: ' ' :: Quote.single.char :: body, ?_⟩
      rw [quotedWords_cons_cons, hbody]
      simp [quoteList]

/-- A quoted word is read back, unless it is empty. -/
theorem split?_quoteList {word : List Char} (hne : word ≠ []) :
    split? (quoteList word) = some [word] := by
  rw [split?_eq_some_iff, Scan.read_quoted rfl]
  exact ⟨rfl, if_neg hne⟩

/-- Quoted words are read back, however long they are and however many. -/
theorem split?_quotedWords {words : List (List Char)} (hne : ∀ word ∈ words, word ≠ []) :
    split? (quotedWords words) = some words :=
  split?_intercalate_map fun word hword ↦ split?_quoteList (hne word hword)

/-- **Quoting is faithful**: a line of quoted words, none of them empty, has exactly these words,
unless it is too long or there are too many of them. -/
theorem words_ofWords {ws : List String} (hne : ∀ word ∈ ws, word ≠ "")
    (hcount : ws.length ≤ maxWords) (hlen : (ofWords ws).length ≤ maxLength) :
    words (ofWords ws) = .ok ws := by
  have hlists : ∀ word ∈ ws.map String.toList, word ≠ [] := by
    intro word hword
    obtain ⟨w, hw, rfl⟩ := List.mem_map.1 hword
    exact mt String.toList_eq_nil_iff.1 (hne w hw)
  have hsplit : split? (ofWords ws).toList = some (ws.map String.toList) := by
    rw [toList_ofWords, split?_quotedWords hlists]
  exact words_eq_ok hlen hcount hsplit

/-- Trimming leaves a line of quoted words alone, even where a word begins or ends with blank
characters. -/
theorem trim_ofWords {ws : List String} (h : ws ≠ []) : Text.trim (ofWords ws) = ofWords ws := by
  obtain ⟨body, hbody⟩ := quotedWords_ends (ws.map String.toList) (by simpa using h)
  have hquote : Text.isBlank Quote.single.char = false := by decide
  apply String.toList_injective
  rw [Text.toList_trim, toList_ofWords, hbody, Text.trimList_of_ends hquote hquote]

theorem ofWords_ne_empty {ws : List String} (h : ws ≠ []) : ofWords ws ≠ "" := by
  obtain ⟨body, hbody⟩ := quotedWords_ends (ws.map String.toList) (by simpa using h)
  intro he
  have : (ofWords ws).toList = [] := by rw [he]; rfl
  rw [toList_ofWords, hbody] at this
  cases this

end CommandShell.Line
