import CommandShell.Failure
import CommandShell.Line.Scan

/-!
# The words of a line

`Line.words` splits a line into words, or refuses it.  Of several reasons for refusal the length
of the line comes first, then an open quote, then the number of words.
-/

namespace CommandShell.Line

/-- The largest number of characters of a line. -/
def maxLength : Nat := 1000

/-- The largest number of words of a line. -/
def maxWords : Nat := 100

/-- The words of a text of any length, with any number of words: none where a quote stays open. -/
def split? (text : List Char) : Option (List (List Char)) :=
  let scan := Scan.read {} text
  if scan.quote = none then some scan.finished else none

/-- The words of a line, or the kind of failure for which the line is refused. -/
def words (line : String) : Except FailureKind (List String) :=
  if maxLength < line.length then .error .lineTooLong
  else match split? line.toList with
    | none => .error .unclosedQuote
    | some words =>
      if maxWords < words.length then .error .tooManyWords
      else .ok (words.map String.ofList)

@[simp] theorem split?_nil : split? [] = some [] := rfl

/-- A line is refused for its length before anything else is looked at. -/
theorem words_of_lt_length {line : String} (h : maxLength < line.length) :
    words line = .error .lineTooLong := by
  simp [words, h]

/-- A line of an admissible length is refused for an open quote before its words are counted. -/
theorem words_of_split?_eq_none {line : String} (hlen : line.length ≤ maxLength)
    (h : split? line.toList = none) : words line = .error .unclosedQuote := by
  simp [words, Nat.not_lt.2 hlen, h]

/-- A line of an admissible length whose quotes match has its words, unless there are too many. -/
theorem words_of_split?_eq_some {line : String} {ws : List (List Char)}
    (hlen : line.length ≤ maxLength) (h : split? line.toList = some ws) :
    words line =
      if maxWords < ws.length then .error .tooManyWords else .ok (ws.map String.ofList) := by
  simp [words, Nat.not_lt.2 hlen, h]

theorem split?_eq_some_iff {text : List Char} {ws : List (List Char)} :
    split? text = some ws ↔
      (Scan.read {} text).quote = none ∧ (Scan.read {} text).finished = ws := by
  simp [split?]

/-- A line of an admissible length is refused for its quotes exactly if it does not split. -/
theorem words_eq_unclosedQuote_iff_split? {line : String} (hlen : line.length ≤ maxLength) :
    words line = .error .unclosedQuote ↔ split? line.toList = none := by
  refine ⟨fun h ↦ ?_, words_of_split?_eq_none hlen⟩
  cases hs : split? line.toList with
  | none => rfl
  | some ws => rw [words_of_split?_eq_some hlen hs] at h; split at h <;> cases h

/-- A line of an admissible length that splits is refused for the number of its words exactly if
there are too many. -/
theorem words_eq_tooManyWords_iff {line : String} {ws : List (List Char)}
    (hlen : line.length ≤ maxLength) (h : split? line.toList = some ws) :
    words line = .error .tooManyWords ↔ maxWords < ws.length := by
  rw [words_of_split?_eq_some hlen h]
  by_cases hcount : maxWords < ws.length <;> simp [hcount]

/-- A line of an admissible length that splits into some words, not too many of them, has these
words. -/
theorem words_eq_ok {line : String} {ws : List String} (hlen : line.length ≤ maxLength)
    (hcount : ws.length ≤ maxWords) (h : split? line.toList = some (ws.map String.toList)) :
    words line = .ok ws := by
  rw [words_of_split?_eq_some hlen h, List.length_map, if_neg (Nat.not_lt.2 hcount)]
  simp [Function.comp_def]

/-- Lines of admissible lengths that split alike have the same words, or are refused alike. -/
theorem words_congr {a b : String} (ha : a.length ≤ maxLength) (hb : b.length ≤ maxLength)
    (h : split? a.toList = split? b.toList) : words a = words b := by
  cases hs : split? b.toList with
  | none => rw [words_of_split?_eq_none ha (h.trans hs), words_of_split?_eq_none hb hs]
  | some ws => rw [words_of_split?_eq_some ha (h.trans hs), words_of_split?_eq_some hb hs]

end CommandShell.Line
