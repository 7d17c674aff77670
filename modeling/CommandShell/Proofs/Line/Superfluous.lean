import CommandShell.Interpret
import CommandShell.Proofs.Line.Continuation
import CommandShell.Proofs.Line.Parse
import Mathlib.Data.List.DropRight

/-!
# What a line may do without

Some characters of a line make no difference to its words.

* Quotes around plain characters: such a run is read as the characters themselves
  (`Scan.read_run_plains`), so a line has the same words without the quotes (`words_enclose`).  An
  empty run is the extreme case.
* Spaces at the ends of a line: they end no word that does not end there anyway
  (`split?_spaces_append_append`).
* Blank characters at the ends of a line are dropped before it is read.  They may be other than
  spaces, and stand inside a run that is not closed.  But only a quote opens or closes a run, so the
  quotes of a line match exactly if those of the trimmed line do (`split?_trimList_eq_none_iff`).

`trim_spares_words` puts together what is said of the ends.
-/

namespace CommandShell.Scan

open Line

/-! ## Needless quotes -/

/-- Outside quotes, a run of plain characters is read as these characters by themselves. -/
theorem read_run_plains {s : Scan} (h : s.quote = none) (q : Quote) {body : List Char}
    (hbody : ∀ c ∈ body, (Item.plain c).WellFormed) :
    s.read (Item.run q body).written = s.read body := by
  have hrun : (Item.run q body).WellFormed := by
    intro hmem
    have hplain := (hbody q.char hmem).2
    rw [Quote.ofChar?_char] at hplain
    cases hplain
  rw [read_run h hrun, read_plains h hbody]

end CommandShell.Scan

namespace CommandShell.Line

/-- Behind a text whose quotes match, a run of plain characters may do without its quotes. -/
theorem split?_append_run_append {a : List Char} {before : List (List Char)}
    (ha : split? a = some before) (q : Quote) {body : List Char}
    (hbody : ∀ c ∈ body, (Item.plain c).WellFormed) (b : List Char) :
    split? (a ++ (Item.run q body).written ++ b) = split? (a ++ body ++ b) := by
  have hquote : (Scan.read {} a).quote = none := (split?_eq_some_iff.1 ha).1
  have hread : Scan.read {} (a ++ (Item.run q body).written ++ b) =
      Scan.read {} (a ++ body ++ b) := by
    simp only [Scan.read_append, Scan.read_run_plains hquote q hbody]
  rw [split?, hread, split?]

/-- The text between two quotes of a kind. -/
def enclose (q : Quote) (text : String) : String :=
  String.singleton q.char ++ text ++ String.singleton q.char

theorem toList_enclose (q : Quote) (text : String) :
    (enclose q text).toList = (Item.run q text.toList).written := by
  simp [enclose, Item.written]

theorem length_enclose (q : Quote) (text : String) :
    (enclose q text).length = text.length + 2 := by
  rw [← String.length_toList, toList_enclose, Item.written, List.length_append, List.length_cons,
    String.length_toList]
  rfl

/-- In a place outside quotes, plain characters may stand in quotes of either kind, as long as the
line does not get too long. -/
theorem words_append_enclose_append {a text b : String} {before : List (List Char)}
    (ha : split? a.toList = some before) (q : Quote)
    (hplain : ∀ c ∈ text.toList, (Item.plain c).WellFormed)
    (hlen : a.length + text.length + b.length + 2 ≤ maxLength) :
    words (a ++ enclose q text ++ b) = words (a ++ text ++ b) := by
  apply words_congr
  · rw [String.length_append, String.length_append, length_enclose]
    omega
  · rw [String.length_append, String.length_append]
    omega
  · rw [String.toList_append, String.toList_append, toList_enclose, String.toList_append,
      String.toList_append, split?_append_run_append ha q hplain]

/-- **Quotes that are not needed make no difference.**  In a place outside quotes, plain characters
may stand in quotes of either kind, as long as the line does not get too long.  It has the same
words, or is refused alike, whatever follows.  So an empty pair of quotes neither adds a word nor
takes one away, and neither ends a word nor joins two. -/
theorem words_enclose {a w b : String} (q : Quote)
    (hlen : a.length + w.length + b.length + 2 ≤ 1000) (ha : words a ≠ .error .unclosedQuote)
    (hw : ∀ c ∈ w.toList, c ≠ ' ' ∧ c ≠ '\x27' ∧ c ≠ '\x22') :
    words (a ++ enclose q w ++ b) = words (a ++ w ++ b) ∧
    words (a ++ enclose q "" ++ b) = words (a ++ b) := by
  have hlena : a.length ≤ maxLength := by unfold maxLength; omega
  obtain ⟨before, hbefore⟩ := exists_split?_eq_some hlena ha
  constructor
  · have hplain : ∀ c ∈ w.toList, (Item.plain c).WellFormed := by
      intro c hc
      exact ⟨(hw c hc).1, Quote.ofChar?_eq_none.2 (hw c hc).2⟩
    exact words_append_enclose_append hbefore q hplain hlen
  · have hempty : ∀ c ∈ "".toList, (Item.plain c).WellFormed := by simp
    have hlenab : a.length + "".length + b.length + 2 ≤ maxLength := by
      rw [String.length_empty, maxLength]
      omega
    have hpair := words_append_enclose_append hbefore q hempty hlenab
    rwa [String.append_empty] at hpair

/-- Between a space and the rest of a word, in which another run begins, the quotes make no
difference, whether there is anything between them or not. -/
theorem words_enclose_joined :
    "say \x22it\x27s\x22 ".length + "so".length + "me\x27 thing\x27".length + 2 ≤ 1000 ∧
    words "say \x22it\x27s\x22 " ≠ .error .unclosedQuote ∧
    (∀ c ∈ "so".toList, c ≠ ' ' ∧ c ≠ '\x27' ∧ c ≠ '\x22') ∧
    words ("say \x22it\x27s\x22 " ++ enclose .double "so" ++ "me\x27 thing\x27") =
      .ok ["say", "it\x27s", "some thing"] ∧
    words ("say \x22it\x27s\x22 " ++ enclose .double "" ++ "me\x27 thing\x27") =
      .ok ["say", "it\x27s", "me thing"] := by
  have hlen : "say \x22it\x27s\x22 ".length + "so".length +
      "me\x27 thing\x27".length + 2 ≤ 1000 := by decide
  have ha : words "say \x22it\x27s\x22 " ≠ .error .unclosedQuote := by decide
  have hw : ∀ c ∈ "so".toList, c ≠ ' ' ∧ c ≠ '\x27' ∧ c ≠ '\x22' := by simp
  obtain ⟨henclosed, hempty⟩ := words_enclose .double hlen ha hw
  refine ⟨hlen, ha, hw, ?_, ?_⟩
  · rw [henclosed]
    decide
  · rw [hempty]
    decide

end CommandShell.Line

/-! ## Blank characters at the ends of a text -/

namespace CommandShell.Text

/-- Nothing is left of a text of blank characters. -/
theorem trimList_of_forall_isBlank {text : List Char} (h : ∀ c ∈ text, isBlank c = true) :
    trimList text = [] := by
  rw [trimList, List.dropWhile_eq_nil_iff.2 h]
  rfl

/-- Blank characters in front of a text are dropped with those it begins with. -/
theorem trimList_append_left {blank : List Char} (h : ∀ c ∈ blank, isBlank c = true)
    (text : List Char) : trimList (blank ++ text) = trimList text := by
  rw [trimList, List.dropWhile_append_of_pos h, trimList]

/-- Blank characters behind a text are dropped with those it ends with. -/
theorem trimList_append_right {blank : List Char} (h : ∀ c ∈ blank, isBlank c = true)
    (text : List Char) : trimList (text ++ blank) = trimList text := by
  -- Where nothing is left of the text, the characters behind it count as being in front.
  by_cases htext : ∀ c ∈ text, isBlank c = true
  · rw [trimList_append_left htext, trimList_of_forall_isBlank h, trimList_of_forall_isBlank htext]
  · have hleft : text.dropWhile isBlank ≠ [] := mt List.dropWhile_eq_nil_iff.1 htext
    have hreverse : ∀ c ∈ blank.reverse, isBlank c = true := fun c hc ↦ h c (List.mem_reverse.1 hc)
    rw [trimList, List.dropWhile_append, if_neg (by simpa using hleft), List.reverse_append,
      List.dropWhile_append_of_pos hreverse, trimList]

/-- What is dropped from a text stands at its ends and is blank. -/
theorem exists_eq_append_trimList (text : List Char) :
    ∃ u v, (∀ c ∈ u, isBlank c = true) ∧ (∀ c ∈ v, isBlank c = true) ∧
      text = u ++ trimList text ++ v := by
  refine ⟨text.takeWhile isBlank, (text.dropWhile isBlank).rtakeWhile isBlank,
    fun _ ↦ List.mem_takeWhile_imp, fun _ ↦ List.mem_rtakeWhile_imp, ?_⟩
  calc text = text.takeWhile isBlank ++ text.dropWhile isBlank :=
        List.takeWhile_append_dropWhile.symm
    _ = text.takeWhile isBlank ++
          (trimList text ++ (text.dropWhile isBlank).rtakeWhile isBlank) := by
        rw [trimList, ← List.rdropWhile, List.rdropWhile_append_rtakeWhile]
    _ = _ := (List.append_assoc ..).symm

theorem length_trim_le (text : String) : (trim text).length ≤ text.length := by
  obtain ⟨u, v, -, -, h⟩ := exists_eq_append_trimList text.toList
  have hlength := congrArg List.length h
  rw [← String.length_toList, toList_trim, ← String.length_toList]
  simp only [List.length_append] at hlength
  omega

/-- A text may be put between blank characters. -/
theorem trim_append_append {u v : String} (h : ∀ c ∈ (u ++ v).toList, isBlank c = true)
    (text : String) : trim (u ++ text ++ v) = trim text := by
  rw [String.toList_append, List.forall_mem_append] at h
  rw [trim, String.toList_append, String.toList_append, trimList_append_right h.2,
    trimList_append_left h.1, trim]

/-- No quote is blank. -/
theorem ofChar?_eq_none_of_isBlank {c : Char} (h : isBlank c = true) : Quote.ofChar? c = none := by
  cases hq : Quote.ofChar? c with
  | none => rfl
  | some q =>
    have hchar : isBlank q.char = false := by cases q <;> decide
    rw [Quote.ofChar?_eq_some.1 hq, hchar] at h
    cases h

end CommandShell.Text

namespace CommandShell.Scan

/-- Which quote is open behind a character depends on what was before it only through the quote that
was open. -/
theorem quote_step_congr {s t : Scan} (h : s.quote = t.quote) (c : Char) :
    (s.step c).quote = (t.step c).quote := by
  cases ht : t.quote with
  | none =>
    rw [ht] at h
    cases hq : Quote.ofChar? c with
    | none => by_cases hc : c = ' ' <;> simp [step, h, ht, hq, hc, cut, keep]
    | some q => simp [step, h, ht, hq]
  | some q =>
    rw [ht] at h
    by_cases hc : c = q.char <;> simp [step, h, ht, hc, keep]

theorem quote_read_congr {s t : Scan} (h : s.quote = t.quote) (text : List Char) :
    (s.read text).quote = (t.read text).quote := by
  induction text generalizing s t with
  | nil => exact h
  | cons c text ih => exact ih (quote_step_congr h c)

/-- Only a quote opens or closes a run. -/
theorem quote_step_of_ofChar?_eq_none (s : Scan) {c : Char} (h : Quote.ofChar? c = none) :
    (s.step c).quote = s.quote := by
  cases hs : s.quote with
  | none =>
    by_cases hc : c = ' '
    · rw [hc, step_space hs, cut, hs]
    · rw [step_plain hs hc h, keep, hs]
  | some q =>
    have hc : c ≠ q.char := by
      rintro rfl
      rw [Quote.ofChar?_char] at h
      cases h
    rw [step_inside hs hc, keep, hs]

/-- Blank characters neither open nor close a run. -/
theorem quote_read_of_forall_isBlank (s : Scan) {text : List Char}
    (h : ∀ c ∈ text, Text.isBlank c = true) : (s.read text).quote = s.quote := by
  induction text generalizing s with
  | nil => rfl
  | cons c text ih =>
    obtain ⟨hc, htext⟩ := List.forall_mem_cons.1 h
    rw [read_cons, ih _ htext, quote_step_of_ofChar?_eq_none s (Text.ofChar?_eq_none_of_isBlank hc)]

/-- The quote that is open at the end of a text is open at the end of the trimmed text. -/
theorem quote_read_trimList (text : List Char) :
    (read {} (Text.trimList text)).quote = (read {} text).quote := by
  obtain ⟨u, v, hu, hv, htext⟩ := Text.exists_eq_append_trimList text
  have hfront : (read {} u).quote = none := quote_read_of_forall_isBlank {} hu
  calc (read {} (Text.trimList text)).quote
      = ((read {} u).read (Text.trimList text)).quote := quote_read_congr hfront.symm _
    _ = (((read {} u).read (Text.trimList text)).read v).quote :=
        (quote_read_of_forall_isBlank _ hv).symm
    _ = (read {} (u ++ Text.trimList text ++ v)).quote := by rw [read_append, read_append]
    _ = (read {} text).quote := by rw [← htext]

end CommandShell.Scan

namespace CommandShell.Line

/-- Trimming neither closes a run nor leaves one open that was closed. -/
theorem split?_trimList_eq_none_iff (text : List Char) :
    split? (Text.trimList text) = none ↔ split? text = none := by
  simp [split?, Scan.quote_read_trimList]

/-- A space at the end of a text ends a word that ends there anyway, or stands in a run that is not
closed. -/
theorem split?_append_singleton_space (text : List Char) :
    split? (text ++ [' ']) = split? text := by
  cases h : split? text with
  | none =>
    have hspace : (Scan.read {} (text ++ [' '])).quote = (Scan.read {} text).quote := by
      rw [Scan.read_append]
      exact Scan.quote_read_of_forall_isBlank _ (by simp)
    have hquote : (Scan.read {} text).quote ≠ none := by simpa [split?] using h
    simp [split?, hspace, hquote]
  | some ws => simp [split?_append_space h]

/-- Spaces behind a text make no difference to its words. -/
theorem split?_append_replicate (text : List Char) (n : Nat) :
    split? (text ++ List.replicate n ' ') = split? text := by
  induction n with
  | zero => rw [List.replicate_zero, List.append_nil]
  | succ n ih => rw [List.replicate_succ', ← List.append_assoc, split?_append_singleton_space, ih]

/-- Spaces at the ends of a text make no difference to its words. -/
theorem split?_spaces_append_append {u v : List Char} (h : ∀ c ∈ u ++ v, c = ' ')
    (text : List Char) : split? (u ++ text ++ v) = split? text := by
  rw [List.forall_mem_append] at h
  rw [List.eq_replicate_of_mem h.1, List.eq_replicate_of_mem h.2, split?_append_replicate,
    split?_replicate_append]

/-- What is made of a line is made of the trimmed line. -/
theorem interpret_congr {a b : String} (h : Text.trim a = Text.trim b) :
    interpret a = interpret b := by
  rw [interpret, h, interpret]

/-- **Trimming is harmless.**  The quotes of a line of an admissible length match exactly if those
of the trimmed line do, even if characters of an open run are dropped.  If nothing but spaces is
dropped, the words are the same, or both lines are refused alike.  And blank characters may be put
around a line of any length: it is interpreted as before in every world, and only the length of the
trimmed line counts. -/
theorem trim_spares_words (l : String) :
    (l.length ≤ 1000 →
      (words (Text.trim l) = .error .unclosedQuote ↔ words l = .error .unclosedQuote) ∧
      ∀ u v : String, l = u ++ Text.trim l ++ v → (∀ c ∈ (u ++ v).toList, c = ' ') →
        words (Text.trim l) = words l) ∧
    ∀ u v : String, (∀ c ∈ (u ++ v).toList, Text.isBlank c = true) →
      (∀ world, (interpret (u ++ l ++ v)).run world = (interpret l).run world) ∧
      (words (Text.trim (u ++ l ++ v)) = .error .lineTooLong ↔ 1000 < (Text.trim l).length) := by
  have htrim : l.length ≤ 1000 → (Text.trim l).length ≤ maxLength := (Text.length_trim_le l).trans
  refine ⟨fun hlen ↦ ⟨?_, fun u v hl hspaces ↦ ?_⟩, fun u v hblank ↦ ⟨fun world ↦ ?_, ?_⟩⟩
  · rw [words_eq_unclosedQuote_iff_split? (htrim hlen), words_eq_unclosedQuote_iff_split? hlen,
      Text.toList_trim, split?_trimList_eq_none_iff]
  · have hparts : l.toList = u.toList ++ (Text.trim l).toList ++ v.toList := by
      rw [← String.toList_append, ← String.toList_append, ← hl]
    have hspaces' : ∀ c ∈ u.toList ++ v.toList, c = ' ' := by rwa [← String.toList_append]
    refine words_congr (htrim hlen) hlen ?_
    rw [hparts, split?_spaces_append_append hspaces']
  · rw [interpret_congr (Text.trim_append_append hblank l)]
  · rw [Text.trim_append_append hblank]
    exact words_eq_lineTooLong_iff

/-- A run that is not closed may lose characters at its end, and a run that is closed keeps them. -/
theorem trim_spares_words_runs :
    ("say \x27so me\t ".length ≤ 1000 ∧
      words (Text.trim "say \x27so me\t ") = .error .unclosedQuote) ∧
    ("  say \x27so me\t \x27  ".length ≤ 1000 ∧
      "  say \x27so me\t \x27  " = "  " ++ Text.trim "  say \x27so me\t \x27  " ++ "  " ∧
      words (Text.trim "  say \x27so me\t \x27  ") = .ok ["say", "so me\t "]) ∧
    (∀ c ∈ ("\t" ++ "\u00a0\n").toList, Text.isBlank c = true) ∧
    ∀ world, (interpret ("\t" ++ "  say \x27so me\t \x27  " ++ "\u00a0\n")).run world =
      (interpret "  say \x27so me\t \x27  ").run world := by
  have hlen : "say \x27so me\t ".length ≤ 1000 := by decide
  have hlen' : "  say \x27so me\t \x27  ".length ≤ 1000 := by decide
  have hparts : "  say \x27so me\t \x27  " =
      "  " ++ Text.trim "  say \x27so me\t \x27  " ++ "  " := by decide
  have hspaces : ∀ c ∈ ("  " ++ "  ").toList, c = ' ' := by simp
  have hblank : ∀ c ∈ ("\t" ++ "\u00a0\n").toList, Text.isBlank c = true := by
    simp [Text.isBlank, Text.blanks]
  have hopen := ((trim_spares_words "say \x27so me\t ").1 hlen).1
  obtain ⟨hends, haround⟩ := trim_spares_words "  say \x27so me\t \x27  "
  refine ⟨⟨hlen, hopen.2 (by decide)⟩, ⟨hlen', hparts, ?_⟩, hblank, (haround _ _ hblank).1⟩
  rw [(hends hlen').2 _ _ hparts hspaces]
  decide

end CommandShell.Line
