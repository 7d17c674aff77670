import CommandShell.Proofs.Line.Balance

/-!
# A line that has been read in part

The scan of a line can be stopped between any two characters.  This file says what is known there of
the words that the line will have, and of what has been read.

* What is ahead does not take back what is known (`Scan.Begins`).  The words that are finished are
  the first words of the line, and the word that has been begun, if it is not empty, is the
  beginning of the next.  `Scan.Begins.of_step` says this of one character, looking back from behind
  it, and `Scan.begins_finished_read` of all that is ahead.
* What has been kept is what has been parsed, without the quotes of runs and without spaces
  (`Progress.text`).  There is one way to parse the beginning of a line up to an open run
  (`Progress.WellFormed.eq`), and the parse of the whole line goes on from there
  (`Progress.WellFormed.starts`).

`words_partway` puts both together.
-/

namespace CommandShell.Scan

open Line

/-! ## Words that are known -/

/-- Some words begin as a scan has them. -/
structure Begins (s : Scan) (ws : List (List Char)) : Prop where
  /-- The first of them are the words that are finished. -/
  words : s.words <+: ws
  /-- If a word has been begun, one of them follows that begins in the same way. -/
  word : s.word ≠ [] → ∃ more rest, ws = s.words ++ (s.word ++ more) :: rest

variable {s : Scan} {ws : List (List Char)}

/-- If nothing is ahead, the words begin as the scan has them. -/
theorem begins_finished (s : Scan) : s.Begins s.finished := by
  constructor
  · unfold finished
    split
    · exact List.prefix_refl _
    · exact List.prefix_append _ _
  · intro hword
    exact ⟨[], [], by rw [finished, if_neg hword, List.append_nil]⟩

/-- A word that goes on with a character has been begun without it. -/
theorem Begins.of_keep {c : Char} (h : (s.keep c).Begins ws) : s.Begins ws := by
  obtain ⟨more, rest, hws⟩ := h.word (List.append_ne_nil_of_right_ne_nil _ (List.cons_ne_nil c []))
  exact ⟨h.words, fun _ ↦ ⟨c :: more, rest, by simpa [keep] using hws⟩⟩

/-- A word that has been ended was begun before. -/
theorem Begins.of_cut (h : s.cut.Begins ws) : s.Begins ws := by
  obtain ⟨rest, hws⟩ : s.finished <+: ws := h.words
  by_cases hword : s.word = []
  · rw [finished, if_pos hword] at hws
    exact ⟨⟨rest, hws⟩, fun hne ↦ absurd hword hne⟩
  · rw [finished, if_neg hword, List.append_assoc] at hws
    exact ⟨⟨_, hws⟩, fun _ ↦ ⟨[], rest, by rw [List.append_nil, ← hws, List.singleton_append]⟩⟩

/-- What is known behind a character goes on from what was known in front of it. -/
theorem Begins.of_step {c : Char} (h : (s.step c).Begins ws) : s.Begins ws := by
  cases hs : s.quote with
  | some q =>
    by_cases hc : c = q.char
    · subst hc
      rw [step_close hs] at h
      exact ⟨h.words, h.word⟩
    · rw [step_inside hs hc] at h
      exact h.of_keep
  | none =>
    cases hq : Quote.ofChar? c with
    | some q =>
      obtain rfl := Quote.ofChar?_eq_some.1 hq
      rw [step_open hs] at h
      exact ⟨h.words, h.word⟩
    | none =>
      by_cases hc : c = ' '
      · subst hc
        rw [step_space hs] at h
        exact h.of_cut
      · rw [step_plain hs hc hq] at h
        exact h.of_keep

/-- **What is known is not taken back**: whatever is read, the words begin as the scan had them. -/
theorem begins_finished_read (s : Scan) (text : List Char) : s.Begins (s.read text).finished := by
  induction text generalizing s with
  | nil => exact s.begins_finished
  | cons c text ih => exact (ih (s.step c)).of_step

/-! ## Characters that are kept -/

/-- The characters that a scan has kept. -/
def kept (s : Scan) : List Char := s.words.flatten ++ s.word

theorem kept_take (s : Scan) (item : Item) : (s.take item).kept = s.kept ++ item.text := by
  cases item with
  | space => by_cases h : s.word = [] <;> simp [take, cut, finished, kept, Item.text, h]
  | plain c => simp [take, keep, kept, Item.text]
  | run q body => simp [take, kept, Item.text]

theorem kept_takeAll (s : Scan) (items : List Item) :
    (s.takeAll items).kept = s.kept ++ Line.text items := by
  induction items generalizing s with
  | nil => simp
  | cons item items ih => rw [takeAll_cons, ih, kept_take, text_cons, List.append_assoc]

end CommandShell.Scan

namespace CommandShell.Line

namespace Progress

/-! ## The beginning of a parse -/

/-- What has been parsed so far, without the quotes of its runs and without its spaces. -/
def text (p : Progress) : List Char :=
  Line.text p.items ++
    match p.pending with
    | none => []
    | some (_, body) => body

/-- A parse goes on from what has been parsed so far: it begins with the items that are complete,
and if a run is open the next item is a run of that quote that begins in the same way. -/
def Starts (p : Progress) (items : List Item) : Prop :=
  match p.pending with
  | none => p.items <+: items
  | some (q, body) => ∃ more rest, items = p.items ++ .run q (body ++ more) :: rest

/-- The scan of a text has kept what has been parsed. -/
theorem kept_scan (p : Progress) : p.scan.kept = p.text := by
  have hitems : (Scan.takeAll {} p.items).kept = Line.text p.items := Scan.kept_takeAll {} p.items
  rcases p with ⟨items, _ | ⟨q, body⟩⟩
  · simpa [scan, text] using hitems
  · rw [text, ← hitems]
    simp [scan, Scan.kept]

/-- The quote that is open in the scan is that of the run that is open in the parse. -/
theorem quote_scan (p : Progress) : p.scan.quote = p.pending.map Prod.fst := by
  rcases p with ⟨items, _ | ⟨q, body⟩⟩
  · simp [scan]
  · rfl

/-- A text that ends inside a run has been parsed altogether once the run is closed. -/
theorem WellFormed.parses_close {p : Progress} (hp : p.WellFormed) {q : Quote} {body : List Char}
    (h : p.pending = some (q, body)) :
    Parses (p.written ++ [q.char]) (p.items ++ [.run q body]) := by
  have hbody : (Item.run q body).WellFormed := hp.2 q body h
  refine ⟨(hp.complete hbody).1, ?_⟩
  simp [written, h, Item.written]

/-- **There is one way to parse a text up to an open run.** -/
theorem WellFormed.eq {p p' : Progress} (hp : p.WellFormed) (hp' : p'.WellFormed)
    (h : p.written = p'.written) : p = p' := by
  have hquote : p.pending.map Prod.fst = p'.pending.map Prod.fst := by
    rw [← quote_scan, ← quote_scan, ← Scan.read_progress hp, ← Scan.read_progress hp', h]
  rcases p with ⟨items, _ | ⟨q, body⟩⟩ <;> rcases p' with ⟨items', _ | ⟨q', body'⟩⟩
  · have hparse := hp'.parses rfl
    rw [← h] at hparse
    obtain rfl : items = items' := (hp.parses rfl).eq hparse
    rfl
  · cases hquote
  · cases hquote
  · -- Both have the same run open, and become parses of one text when it is closed.
    obtain rfl : q = q' := Option.some.inj hquote
    have hparse := hp'.parses_close rfl
    rw [← h] at hparse
    obtain ⟨rfl, hrun⟩ := List.append_inj' ((hp.parses_close rfl).eq hparse) rfl
    cases hrun
    rfl

/-- A parse that goes on from behind a character went on from in front of it. -/
theorem Starts.of_extend {p : Progress} {c : Char} {items : List Item}
    (h : (p.extend c).Starts items) : p.Starts items := by
  rcases p with ⟨before, _ | ⟨q, body⟩⟩
  · cases hq : Quote.ofChar? c with
    | none =>
      simp only [extend, hq] at h
      exact (List.prefix_append before _).trans h
    | some q =>
      simp only [extend, hq] at h
      obtain ⟨more, rest, rfl⟩ := h
      exact List.prefix_append before _
  · by_cases hc : c = q.char
    · simp only [extend, hc, if_true] at h
      obtain ⟨rest, rfl⟩ := h
      exact ⟨[], rest, by simp⟩
    · simp only [extend, hc, if_false] at h
      obtain ⟨more, rest, rfl⟩ := h
      exact ⟨c :: more, rest, by simp⟩

/-- The parse of a text goes on from the parse of its beginning. -/
theorem WellFormed.starts {p : Progress} (hp : p.WellFormed) {b : List Char} {items : List Item}
    (h : Parses (p.written ++ b) items) : p.Starts items := by
  induction b generalizing p with
  | nil =>
    rw [List.append_nil] at h
    have hwhole : WellFormed { items } := ⟨h.1, nofun⟩
    have hwritten : p.written = written { items } := by simpa [written] using h.2.symm
    obtain rfl := hp.eq hwhole hwritten
    exact List.prefix_refl items
  | cons c b ih =>
    have hparses : Parses ((p.extend c).written ++ b) items := by
      rwa [written_extend, List.append_assoc, List.singleton_append]
    exact (ih (hp.extend c) hparses).of_extend

end Progress

/-! ## Accepted lines -/

/-- There is one way to parse the beginning of a line. -/
theorem existsUnique_progress (text : List Char) :
    ∃! p : Progress, p.WellFormed ∧ p.written = text := by
  obtain ⟨p, hp, hwritten⟩ := exists_progress text
  refine ⟨p, ⟨hp, hwritten⟩, ?_⟩
  rintro p' ⟨hp', hwritten'⟩
  exact hp'.eq hp (hwritten'.trans hwritten.symm)

/-- Texts split alike if they go on in the same way from the same scan. -/
theorem split?_append_congr {a a' : List Char} (h : Scan.read {} a = Scan.read {} a')
    (b : List Char) : split? (a ++ b) = split? (a' ++ b) := by
  rw [split?, split?, Scan.read_append, Scan.read_append, h]

/-- A line that has words is read without leaving a quote open, and its words are those that the
scan finishes with. -/
theorem read_of_words {line : String} {ws : List String} (h : words line = .ok ws) :
    (Scan.read {} line.toList).quote = none ∧
      (Scan.read {} line.toList).finished.map String.ofList = ws := by
  obtain ⟨-, -, items, hitems, hwords⟩ := exists_parse_of_words h
  have hsplit : split? line.toList = some (ws.map String.toList) := by
    rw [split?_of_parses hitems, hwords]
  obtain ⟨hquote, hfinished⟩ := split?_eq_some_iff.1 hsplit
  refine ⟨hquote, ?_⟩
  rw [hfinished]
  simp [Function.comp_def]

/-- A line has the words of another one if it goes on in the same way from the same scan, and is not
too long. -/
theorem words_append_of_read_eq {a a' b : String} {ws : List String} (h : words (a ++ b) = .ok ws)
    (hread : Scan.read {} a'.toList = Scan.read {} a.toList)
    (hlen : (a' ++ b).length ≤ maxLength) : words (a' ++ b) = .ok ws := by
  obtain ⟨hlen', -⟩ := exists_parse_of_words h
  rw [← h]
  apply words_congr hlen hlen'
  rw [String.toList_append, String.toList_append, split?_append_congr hread]

/-- **A line that has been read in part.**  Take a line that has words, and any way to cut it in
two.  What the scan knows at the cut is not taken back: the words that are finished are the first
words of the line, and the word that has been begun, if it is not empty, is the beginning of the
next.  What the scan has kept is what is in front of the cut, without the quotes of its runs and
without its spaces between words.  And what it knows is all that counts: to go on from there gives
the words of the line, and so does any other beginning that leads to the same scan. -/
theorem words_partway {a b : String} {ws : List String} (h : words (a ++ b) = .ok ws) :
    let s := Scan.read {} a.toList
    s.words.map String.ofList <+: ws ∧
    (s.word ≠ [] → ∃ more rest,
      ws = s.words.map String.ofList ++ (String.ofList s.word ++ more) :: rest) ∧
    (∃! p : Progress, p.WellFormed ∧ p.written = a.toList) ∧
    (∀ p : Progress, p.WellFormed → p.written = a.toList →
      (∃ items, Parses (a ++ b).toList items ∧ p.Starts items) ∧
      s.words.flatten ++ s.word = p.text ∧ s.quote = p.pending.map Prod.fst) ∧
    (s.read b.toList).quote = none ∧ (s.read b.toList).finished.map String.ofList = ws ∧
    ∀ a' : String, Scan.read {} a'.toList = s → (a' ++ b).length ≤ 1000 →
      words (a' ++ b) = .ok ws := by
  intro s
  obtain ⟨-, -, items, hitems, -⟩ := exists_parse_of_words h
  obtain ⟨hquote, hws⟩ := read_of_words h
  rw [String.toList_append, Scan.read_append] at hquote hws
  have hbegins : s.Begins (s.read b.toList).finished := s.begins_finished_read b.toList
  refine ⟨?_, fun hword ↦ ?_, existsUnique_progress a.toList, fun p hp hwritten ↦ ⟨?_, ?_⟩, hquote,
    hws, fun a' hread hlen ↦ words_append_of_read_eq h hread hlen⟩
  · rw [← hws]
    exact hbegins.words.map String.ofList
  · obtain ⟨more, rest, hmore⟩ := hbegins.word hword
    refine ⟨String.ofList more, rest.map String.ofList, ?_⟩
    rw [← hws, hmore]
    simp [String.ofList_append]
  · have hparses : Parses (p.written ++ b.toList) items := by
      rwa [hwritten, ← String.toList_append]
    exact ⟨items, hitems, hp.starts hparses⟩
  · have hs : s = p.scan := by rw [← Scan.read_progress hp, hwritten]
    rw [hs]
    exact ⟨p.kept_scan, p.quote_scan⟩

/-- A line is cut inside a run, in the middle of a word that has been put together from two pieces.
The quote that is open is not part of the word. -/
theorem words_partway_inside :
    words ("say x\x22it\x27" ++ "s\x22 so") = .ok ["say", "xit\x27s", "so"] ∧
    Scan.read {} "say x\x22it\x27".toList =
      { words := ["say".toList], word := "xit\x27".toList, quote := some .double } ∧
    ["say"] <+: ["say", "xit\x27s", "so"] ∧
    ∃ more rest, ["say", "xit\x27s", "so"] = ["say"] ++ ("xit\x27" ++ more) :: rest := by
  have h : words ("say x\x22it\x27" ++ "s\x22 so") = .ok ["say", "xit\x27s", "so"] := by decide
  have hs : Scan.read {} "say x\x22it\x27".toList =
      { words := ["say".toList], word := "xit\x27".toList, quote := some .double } := by decide
  obtain ⟨hfirst, hbegun, -⟩ := words_partway h
  rw [hs] at hfirst hbegun
  exact ⟨h, hs, hfirst, hbegun (by decide)⟩

end CommandShell.Line
