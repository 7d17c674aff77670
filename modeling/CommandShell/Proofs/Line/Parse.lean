import CommandShell.Line.Grammar
import Mathlib.Data.List.Induction

/-!
# Scanning a line is parsing it

The scan of a line is a loop over its characters; the grammar of a line says which items it is made
of.  This file ties the two together.

* `Parses.eq` is the unambiguity of the grammar: a text has at most one parse.
* `Scan.read_written` tells what the scan makes of a text that has a parse.
* `Scan.exists_progress` goes the other way: whatever has been scanned is a sequence of items,
  followed by the beginning of a run if a quote is open.

Together they give `words_iff_parses`: a line of an admissible length is refused for its quotes
exactly if it has no parse, and otherwise its words are those of its only parse.
-/

namespace CommandShell.Line

/-! ## Unambiguity -/

theorem Item.written_ne_nil (item : Item) : item.written ≠ [] := by
  cases item <;> simp [Item.written]

/-- What stands before the first occurrence of a character is determined by the whole text. -/
theorem append_cons_inj {c : Char} {a b x y : List Char} (ha : c ∉ a) (hb : c ∉ b)
    (h : a ++ c :: x = b ++ c :: y) : a = b ∧ x = y := by
  induction a generalizing b with
  | nil =>
    cases b with
    | nil => exact ⟨rfl, (List.cons.inj h).2⟩
    | cons d b => exact absurd (List.mem_cons.2 (.inl (List.cons.inj h).1)) hb
  | cons d a ih =>
    cases b with
    | nil => exact absurd (List.mem_cons.2 (.inl (List.cons.inj h).1.symm)) ha
    | cons e b =>
      obtain ⟨rfl, htail⟩ := List.cons.inj h
      obtain ⟨rfl, rfl⟩ :=
        ih (mt (List.mem_cons_of_mem d) ha) (mt (List.mem_cons_of_mem d) hb) htail
      exact ⟨rfl, rfl⟩

/-- The first item of a text and the text after it are determined by the text: the first character
tells what kind of item it is, and a run goes as far as the next quote of its kind. -/
theorem Item.written_append_inj {i j : Item} (hi : i.WellFormed) (hj : j.WellFormed)
    {x y : List Char} (h : i.written ++ x = j.written ++ y) : i = j ∧ x = y := by
  cases i with
  | space =>
    cases j with
    | space => exact ⟨rfl, by simpa [Item.written] using h⟩
    | plain c => exact absurd (List.cons.inj h).1.symm hj.1
    | run q body => exact absurd (List.cons.inj h).1.symm q.char_ne_space
  | plain c =>
    cases j with
    | space => exact absurd (List.cons.inj h).1 hi.1
    | plain d =>
      obtain ⟨rfl, rfl⟩ := List.cons.inj h
      exact ⟨rfl, rfl⟩
    | run q body =>
      have hc : c = q.char := (List.cons.inj h).1
      exact absurd hi.2 (by simp [hc])
  | run q body =>
    cases j with
    | space => exact absurd (List.cons.inj h).1 q.char_ne_space
    | plain c =>
      have hc : q.char = c := (List.cons.inj h).1
      exact absurd hj.2 (by simp [← hc])
    | run r body' =>
      have hrun : q.char :: (body ++ q.char :: x) = r.char :: (body' ++ r.char :: y) := by
        simpa [Item.written] using h
      obtain ⟨hq, hrest⟩ := List.cons.inj hrun
      obtain rfl := Quote.char_injective hq
      obtain ⟨rfl, rfl⟩ := append_cons_inj hi hj hrest
      exact ⟨rfl, rfl⟩

/-- **The grammar is unambiguous**: a text has at most one parse. -/
theorem Parses.eq {text : List Char} {a b : List Item} (ha : Parses text a) (hb : Parses text b) :
    a = b := by
  obtain ⟨ha, rfl⟩ := ha
  obtain ⟨hb, h⟩ := hb
  induction a generalizing b with
  | nil =>
    cases b with
    | nil => rfl
    | cons j b => exact absurd (List.append_eq_nil_iff.1 h).1 j.written_ne_nil
  | cons i a ih =>
    cases b with
    | nil => exact absurd (List.append_eq_nil_iff.1 h.symm).1 i.written_ne_nil
    | cons j b =>
      obtain ⟨hi, has⟩ := List.forall_mem_cons.1 ha
      obtain ⟨hj, hbs⟩ := List.forall_mem_cons.1 hb
      obtain ⟨rfl, hrest⟩ := Item.written_append_inj hj hi h
      rw [ih has hbs hrest]

end CommandShell.Line

namespace CommandShell.Scan

open Line

/-! ## From the parse to the scan -/

/-- What the scan makes of an item that begins outside quotes. -/
def take (s : Scan) : Item → Scan
  | .space => s.cut
  | .plain c => s.keep c
  | .run _ body => { s with word := s.word ++ body }

/-- What the scan makes of a sequence of items. -/
def takeAll (s : Scan) (items : List Item) : Scan := items.foldl take s

@[simp] theorem takeAll_nil (s : Scan) : s.takeAll [] = s := rfl
@[simp] theorem takeAll_cons (s : Scan) (item : Item) (items : List Item) :
    s.takeAll (item :: items) = (s.take item).takeAll items := rfl

@[simp] theorem quote_take (s : Scan) (item : Item) : (s.take item).quote = s.quote := by
  cases item <;> rfl

@[simp] theorem quote_takeAll (s : Scan) (items : List Item) :
    (s.takeAll items).quote = s.quote := by
  induction items generalizing s with
  | nil => rfl
  | cons item items ih => rw [takeAll_cons, ih, quote_take]

/-- Outside quotes, reading an item is taking it. -/
theorem read_item {s : Scan} (h : s.quote = none) {item : Item} (hi : item.WellFormed) :
    s.read item.written = s.take item := by
  cases item with
  | space => exact read_space h
  | plain c => exact read_plain h hi
  | run q body => exact read_run h hi

/-- Outside quotes, reading what has a parse is taking the items of the parse. -/
theorem read_written {s : Scan} (h : s.quote = none) {items : List Item}
    (hi : ∀ item ∈ items, item.WellFormed) : s.read (written items) = s.takeAll items := by
  induction items generalizing s with
  | nil => rfl
  | cons item items ih =>
    obtain ⟨hitem, hitems⟩ := List.forall_mem_cons.1 hi
    rw [written_cons, read_append, read_item h hitem, takeAll_cons,
      ih (by rw [quote_take, h]) hitems]

/-- The words that a scan has after some items: those it had before, and then the texts of the
stretches, where the first stretch goes on with the word that was begun. -/
theorem finished_takeAll (s : Scan) (items : List Item) :
    (s.takeAll items).finished =
      s.words ++ (((stretches items).map text).modifyHead (s.word ++ ·)).filter (· ≠ []) := by
  -- Every item changes the word that was begun, so the induction is over the items for any scan.
  induction items generalizing s with
  | nil => by_cases h : s.word = [] <;> simp [finished, stretches, h]
  | cons item items ih =>
    rw [takeAll_cons, ih]
    obtain ⟨first, rest, hs⟩ := List.exists_cons_of_ne_nil
      (List.splitOnP_ne_nil Item.isSpace items)
    cases item with
    | space =>
      by_cases h : s.word = [] <;>
        simp [take, cut, finished, stretches, List.splitOnP_cons_eq_if_modifyHead, Item.isSpace, hs, h]
    | plain c =>
      simp [take, keep, stretches, List.splitOnP_cons_eq_if_modifyHead, Item.isSpace, Item.text, hs]
    | run q body =>
      simp [take, stretches, List.splitOnP_cons_eq_if_modifyHead, Item.isSpace, Item.text, hs]

/-- A scan that begins with nothing has the words of the items it has taken. -/
theorem finished_takeAll_empty (items : List Item) :
    (takeAll {} items).finished = itemWords items := by
  rw [finished_takeAll, itemWords]
  cases (stretches items).map Line.text <;> rfl

end CommandShell.Scan

namespace CommandShell.Line

/-! ## From the scan to the parse -/

/-- How far a text has been parsed: the items that are complete and, if the text ends inside a run,
the quote of that run and what it holds so far. -/
structure Progress where
  /-- The items that are complete. -/
  items : List Item := []
  /-- The run that is open, if there is one. -/
  pending : Option (Quote × List Char) := none
deriving DecidableEq, Repr

namespace Progress

/-- The items are well formed, and the run that is open has not met its own quote. -/
def WellFormed (p : Progress) : Prop :=
  (∀ item ∈ p.items, item.WellFormed) ∧ ∀ q body, p.pending = some (q, body) → q.char ∉ body

/-- The text that has been parsed so far. -/
def written (p : Progress) : List Char :=
  Line.written p.items ++
    match p.pending with
    | none => []
    | some (q, body) => q.char :: body

/-- The scan of the text. -/
def scan (p : Progress) : Scan :=
  let s := Scan.takeAll {} p.items
  match p.pending with
  | none => s
  | some (q, body) => { s with word := s.word ++ body, quote := some q }

/-- Parse one more character. -/
def extend (p : Progress) (c : Char) : Progress :=
  match p.pending with
  | some (q, body) =>
    if c = q.char then { items := p.items ++ [.run q body] }
    else { p with pending := some (q, body ++ [c]) }
  | none =>
    match Quote.ofChar? c with
    | some q => { p with pending := some (q, []) }
    | none => { items := p.items ++ [if c = ' ' then .space else .plain c] }

theorem written_extend (p : Progress) (c : Char) : (p.extend c).written = p.written ++ [c] := by
  rcases p with ⟨items, _ | ⟨q, body⟩⟩
  · cases h : Quote.ofChar? c with
    | none => by_cases hc : c = ' ' <;> simp [extend, written, Item.written, h, hc]
    | some q => simp [extend, written, Quote.ofChar?_eq_some.1 h]
  · by_cases hc : c = q.char <;> simp [extend, written, Item.written, hc]

/-- A well-formed item may be added where no run is open, or in the place of the run that was. -/
theorem WellFormed.complete {p : Progress} (hp : p.WellFormed) {item : Item}
    (hitem : item.WellFormed) : WellFormed { items := p.items ++ [item] } := by
  refine ⟨fun i hi ↦ ?_, by simp⟩
  rcases List.mem_append.1 hi with hi | hi
  · exact hp.1 i hi
  · obtain rfl := List.mem_singleton.1 hi
    exact hitem

/-- A run may be open after well-formed items as long as it has not met its own quote. -/
theorem WellFormed.pending {p : Progress} (hp : p.WellFormed) {q : Quote} {body : List Char}
    (hbody : q.char ∉ body) : WellFormed { p with pending := some (q, body) } := by
  refine ⟨hp.1, ?_⟩
  rintro _ _ ⟨⟩
  exact hbody

/-- One more character leaves a parse well formed: a quote of its own kind is not kept in a run but
closes it. -/
theorem WellFormed.extend {p : Progress} (hp : p.WellFormed) (c : Char) :
    (p.extend c).WellFormed := by
  rcases hpending : p.pending with _ | ⟨q, body⟩
  · cases hquote : Quote.ofChar? c with
    | none =>
      simp only [Progress.extend, hpending, hquote]
      by_cases hc : c = ' '
      · rw [if_pos hc]
        exact hp.complete trivial
      · rw [if_neg hc]
        exact hp.complete ⟨hc, hquote⟩
    | some q =>
      simp only [Progress.extend, hpending, hquote]
      exact hp.pending List.not_mem_nil
  · have hbody : q.char ∉ body := hp.2 q body hpending
    simp only [Progress.extend, hpending]
    by_cases hc : c = q.char
    · rw [if_pos hc]
      exact hp.complete hbody
    · rw [if_neg hc]
      refine hp.pending fun hmem ↦ ?_
      rcases List.mem_append.1 hmem with hmem | hmem
      · exact hbody hmem
      · exact hc (List.mem_singleton.1 hmem).symm

end Progress

/-- Every text can be parsed up to an open run. -/
theorem exists_progress (text : List Char) :
    ∃ p : Progress, p.WellFormed ∧ p.written = text := by
  -- The text grows at its end: what has been parsed is never parsed again.
  induction text using List.reverseRecOn with
  | nil => exact ⟨{}, by simp [Progress.WellFormed], rfl⟩
  | append_singleton text c ih =>
    obtain ⟨p, hp, rfl⟩ := ih
    exact ⟨p.extend c, hp.extend c, p.written_extend c⟩

/-- A text that does not end inside a run has been parsed altogether. -/
theorem Progress.WellFormed.parses {p : Progress} (hp : p.WellFormed) (h : p.pending = none) :
    Parses p.written p.items :=
  ⟨hp.1, by simp [Progress.written, h]⟩

end CommandShell.Line

namespace CommandShell.Scan

open Line

/-- The scan of a text holds exactly what its parse has come to: the words of the complete items,
and the quote of the run that is open. -/
theorem read_progress {p : Progress} (hp : p.WellFormed) : read {} p.written = p.scan := by
  have hitems : read {} (Line.written p.items) = takeAll {} p.items := read_written rfl hp.1
  rcases p with ⟨items, _ | ⟨q, body⟩⟩
  · simpa [Progress.written, Progress.scan] using hitems
  · have hopen : (takeAll {} items).quote = none := by rw [quote_takeAll]
    rw [Progress.written, read_append, hitems, read_cons, step_open hopen,
      read_inside rfl (hp.2 q body rfl)]
    rfl

end CommandShell.Scan

namespace CommandShell.Line

/-! ## The words of a line -/

/-- A text that has a parse has the words of that parse. -/
theorem split?_of_parses {text : List Char} {items : List Item} (h : Parses text items) :
    split? text = some (itemWords items) := by
  obtain ⟨hitems, rfl⟩ := h
  have hread : Scan.read {} (written items) = Scan.takeAll {} items := Scan.read_written rfl hitems
  simp [split?, hread, Scan.finished_takeAll_empty]

/-- A text has no words exactly if it has no parse. -/
theorem split?_eq_none_iff {text : List Char} :
    split? text = none ↔ ¬ ∃ items, Parses text items := by
  constructor
  · rintro h ⟨items, hitems⟩
    rw [split?_of_parses hitems] at h
    cases h
  · intro h
    obtain ⟨p, hp, rfl⟩ := exists_progress text
    rcases hq : p.pending with _ | ⟨q, body⟩
    · exact absurd ⟨p.items, hp.parses hq⟩ h
    · simp [split?, Scan.read_progress hp, Progress.scan, hq]

/-- A line of an admissible length that has a parse has the words of that parse, unless there are
too many. -/
theorem words_of_parses {line : String} {items : List Item} (hlen : line.length ≤ maxLength)
    (h : Parses line.toList items) :
    words line =
      if maxWords < (itemWords items).length then .error .tooManyWords
      else .ok ((itemWords items).map String.ofList) :=
  words_of_split?_eq_some hlen (split?_of_parses h)

/-- No line but one that is too long is refused for its length. -/
theorem words_eq_lineTooLong_iff {line : String} :
    words line = .error .lineTooLong ↔ maxLength < line.length := by
  refine ⟨fun h ↦ ?_, words_of_lt_length⟩
  by_contra hlen
  have hlen : line.length ≤ maxLength := Nat.not_lt.1 hlen
  cases hs : split? line.toList with
  | none => rw [words_of_split?_eq_none hlen hs] at h; cases h
  | some ws => rw [words_of_split?_eq_some hlen hs] at h; split at h <;> cases h

/-- A line of an admissible length is refused for its quotes exactly if it has no parse. -/
theorem words_eq_unclosedQuote_iff {line : String} (hlen : line.length ≤ maxLength) :
    words line = .error .unclosedQuote ↔ ¬ ∃ items, Parses line.toList items :=
  (words_eq_unclosedQuote_iff_split? hlen).trans split?_eq_none_iff

/-- **A line has the words of its only parse.**  A line of more than 1000 characters is refused
whatever it holds.  Any other line has at most one parse, is refused for its quotes exactly if it
has none, and otherwise has the words of that parse, unless these are more than 100. -/
theorem words_iff_parses (line : String) :
    (words line = .error .lineTooLong ↔ 1000 < line.length) ∧
    (line.length ≤ 1000 →
      (∀ a b, Parses line.toList a → Parses line.toList b → a = b) ∧
      (words line = .error .unclosedQuote ↔ ¬ ∃ items, Parses line.toList items) ∧
      ∀ items, Parses line.toList items →
        (words line = .ok ((itemWords items).map String.ofList) ↔ (itemWords items).length ≤ 100) ∧
        (words line = .error .tooManyWords ↔ 100 < (itemWords items).length)) := by
  refine ⟨words_eq_lineTooLong_iff, fun hlen ↦
    ⟨fun _ _ ↦ Parses.eq, words_eq_unclosedQuote_iff hlen, fun items hitems ↦ ?_⟩⟩
  rw [words_of_parses hlen hitems]
  by_cases hcount : 100 < (itemWords items).length
  · simp [maxWords, hcount]
  · simp [maxWords, hcount, Nat.not_lt.1 hcount]

end CommandShell.Line
