import CommandShell.Line.Words
import Mathlib.Data.List.Basic

/-!
# How a line may go on

What is made of the rest of a line depends on what came before it only through the quote that is
open and the word that has been begun.  The words that are finished have no say (`Scan.read_behind`).

* A space outside quotes finishes the word that was begun.  Behind it a line is read as if it began
  there: `words_append_space` says that the words on both sides are put one after the other.
* A quote closes the run of its kind and nothing else.  So of a line, the line with an apostrophe
  behind it and the line with a quotation mark behind it exactly one has matching quotes
  (`words_close_existsUnique`): which one it is, is told by the quote that is open at the end.
-/

namespace CommandShell.Scan

/-! ## Finished words have no say -/

/-- The same place in a line that has some more words in front. -/
def behind (earlier : List (List Char)) (s : Scan) : Scan := { s with words := earlier ++ s.words }

variable (earlier : List (List Char)) (s : Scan)

@[simp] theorem quote_behind : (s.behind earlier).quote = s.quote := rfl

@[simp] theorem finished_behind : (s.behind earlier).finished = earlier ++ s.finished := by
  by_cases h : s.word = [] <;> simp [finished, behind, h]

/-- Reading a character does the same whatever words are in front. -/
theorem step_behind (c : Char) : (s.behind earlier).step c = (s.step c).behind earlier := by
  cases h : s.quote with
  | some q =>
    by_cases hc : c = q.char
    · subst hc
      rw [step_close h, step_close (s := s.behind earlier) h]
      rfl
    · rw [step_inside h hc, step_inside (s := s.behind earlier) h hc]
      rfl
  | none =>
    cases hq : Quote.ofChar? c with
    | some q =>
      obtain rfl := Quote.ofChar?_eq_some.1 hq
      rw [step_open h, step_open (s := s.behind earlier) h]
      rfl
    | none =>
      by_cases hc : c = ' '
      · subst hc
        rw [step_space h, step_space (s := s.behind earlier) h, cut, finished_behind]
        rfl
      · rw [step_plain h hc hq, step_plain (s := s.behind earlier) h hc hq]
        rfl

/-- Reading a text does the same whatever words are in front. -/
theorem read_behind (text : List Char) :
    (s.behind earlier).read text = (s.read text).behind earlier := by
  induction text generalizing s with
  | nil => rfl
  | cons c text ih => rw [read_cons, step_behind, ih, read_cons]

variable {s}

/-- Outside quotes, nothing is left of what was before a space but its words. -/
theorem step_space_eq_behind (h : s.quote = none) : s.step ' ' = behind s.finished {} := by
  rw [step_space h, cut, behind, List.append_nil, h]

/-- Behind a space outside quotes a line is read as if it began there. -/
theorem read_append_space {a : List Char} (h : (s.read a).quote = none) (b : List Char) :
    s.read (a ++ ' ' :: b) = (read {} b).behind (s.read a).finished := by
  rw [read_append, read_cons, step_space_eq_behind h, read_behind]

end CommandShell.Scan

namespace CommandShell.Line

/-! ## A space outside quotes -/

/-- A line of an admissible length that is not refused for its quotes splits. -/
theorem exists_split?_eq_some {line : String} (hlen : line.length ≤ maxLength)
    (h : words line ≠ .error .unclosedQuote) : ∃ ws, split? line.toList = some ws :=
  Option.ne_none_iff_exists'.1 (mt (words_eq_unclosedQuote_iff_split? hlen).2 h)

/-- **A space outside quotes is a boundary**: what splits before it stays as it is, and what comes
behind it is split by itself. -/
theorem split?_append_space {a : List Char} {before : List (List Char)}
    (h : split? a = some before) (b : List Char) :
    split? (a ++ ' ' :: b) = (split? b).map (before ++ ·) := by
  obtain ⟨hquote, rfl⟩ := split?_eq_some_iff.1 h
  simp only [split?, Scan.read_append_space hquote, Scan.quote_behind, Scan.finished_behind]
  split <;> rfl

/-- Spaces in front of a text make no difference to its words. -/
theorem split?_replicate_append (n : Nat) (text : List Char) :
    split? (List.replicate n ' ' ++ text) = split? text := by
  induction n with
  | zero => rfl
  | succ n ih =>
    rw [List.replicate_succ, List.cons_append, ← List.nil_append (' ' :: _),
      split?_append_space split?_nil, ih]
    simp

/-- Words may be written in any form that splits into the word itself.  With single spaces between
them they split into these words. -/
theorem split?_intercalate_map {write : List Char → List Char} {words : List (List Char)}
    (h : ∀ word ∈ words, split? (write word) = some [word]) :
    split? ([' '].intercalate (words.map write)) = some words := by
  induction words with
  | nil => rfl
  | cons word rest ih =>
    obtain ⟨hword, hrest⟩ := List.forall_mem_cons.1 h
    cases rest with
    | nil => simpa using hword
    | cons next rest =>
      have hspace : [' '].intercalate ((word :: next :: rest).map write) =
          write word ++ ' ' :: [' '].intercalate ((next :: rest).map write) := by
        simp [List.intercalate_cons_cons]
      rw [hspace, split?_append_space hword, ih hrest]
      rfl

/-- **Words on both sides of a space.**  If the quotes of a line match, a space may be put behind it
and another line behind that, as long as this does not get too long.  The quotes of the whole match
exactly if those of the second line do; then its words are those of the first line followed by those
of the second, unless there are too many.  More spaces in that place change nothing. -/
theorem words_append_space {a b : String} (hlen : a.length + 1 + b.length ≤ 1000)
    (ha : words a ≠ .error .unclosedQuote) :
    (words (a ++ " " ++ b) = .error .unclosedQuote ↔ words b = .error .unclosedQuote) ∧
    (words b ≠ .error .unclosedQuote →
      ∃ before after, split? a.toList = some before ∧ split? b.toList = some after ∧
        (words (a ++ " " ++ b) = .error .tooManyWords ↔ 100 < before.length + after.length) ∧
        (before.length + after.length ≤ 100 →
          words (a ++ " " ++ b) = .ok ((before ++ after).map String.ofList))) ∧
    ∀ n, a.length + (n + 1) + b.length ≤ 1000 →
      words (a ++ String.ofList (List.replicate (n + 1) ' ') ++ b) = words (a ++ " " ++ b) := by
  have hlena : a.length ≤ maxLength := by unfold maxLength; omega
  have hlenb : b.length ≤ maxLength := by unfold maxLength; omega
  have hlenab : (a ++ " " ++ b).length ≤ maxLength := by
    rw [String.length_append, String.length_append]
    exact hlen
  obtain ⟨before, hbefore⟩ := exists_split?_eq_some hlena ha
  have hsplit : split? (a ++ " " ++ b).toList = (split? b.toList).map (before ++ ·) := by
    have htext : (a ++ " " ++ b).toList = a.toList ++ ' ' :: b.toList := by simp
    rw [htext, split?_append_space hbefore]
  refine ⟨?_, fun hb ↦ ?_, fun n hn ↦ words_congr ?_ hlenab ?_⟩
  · rw [words_eq_unclosedQuote_iff_split? hlenab, words_eq_unclosedQuote_iff_split? hlenb, hsplit,
      Option.map_eq_none_iff]
  · obtain ⟨after, hafter⟩ := exists_split?_eq_some hlenb hb
    rw [hafter, Option.map_some] at hsplit
    rw [words_eq_tooManyWords_iff hlenab hsplit, words_of_split?_eq_some hlenab hsplit,
      List.length_append]
    exact ⟨before, after, hbefore, hafter, Iff.rfl, fun hcount ↦ if_neg (Nat.not_lt.2 hcount)⟩
  · simpa [maxLength] using hn
  · have hspaces : (a ++ String.ofList (List.replicate (n + 1) ' ') ++ b).toList =
        a.toList ++ ' ' :: (List.replicate n ' ' ++ b.toList) := by
      simp [List.replicate_succ]
    rw [hspaces, split?_append_space hbefore, split?_replicate_append, hsplit]

/-- Behind a line that ends in a quoted run, another quoted run begins a word of its own, and a quote
that stays open is that of the second line. -/
theorem words_append_space_runs :
    ("say \x27so me\x27".length + 1 + "\x22it\x27s\x22".length ≤ 1000 ∧
      words "say \x27so me\x27" ≠ .error .unclosedQuote ∧
      words ("say \x27so me\x27" ++ " " ++ "\x22it\x27s\x22") =
        .ok ["say", "so me", "it\x27s"]) ∧
    words ("say \x27so me\x27" ++ " " ++ "it\x27s") = .error .unclosedQuote := by
  have ha : words "say \x27so me\x27" ≠ .error .unclosedQuote := by decide
  have hlen : "say \x27so me\x27".length + 1 + "\x22it\x27s\x22".length ≤ 1000 := by decide
  refine ⟨⟨hlen, ha, ?_⟩, (words_append_space (by decide) ha).1.2 (by decide)⟩
  obtain ⟨before, after, hbefore, hafter, -, hwords⟩ :=
    (words_append_space hlen ha).2.1 (by decide)
  have hsplita : split? "say \x27so me\x27".toList = some ["say".toList, "so me".toList] := by
    decide
  have hsplitb : split? "\x22it\x27s\x22".toList = some ["it\x27s".toList] := by decide
  obtain rfl := Option.some.inj (hsplita.symm.trans hbefore)
  obtain rfl := Option.some.inj (hsplitb.symm.trans hafter)
  exact hwords (by decide)

/-! ## A quote at the end -/

/-- What may be put behind a line to close it: nothing, or a quote. -/
def ending : Option Quote → String
  | none => ""
  | some q => String.singleton q.char

end CommandShell.Line

namespace CommandShell.Scan

/-- A quote leaves no quote open exactly if one of its kind was open. -/
theorem quote_step_char_eq_none_iff (s : Scan) (q : Quote) :
    (s.step q.char).quote = none ↔ s.quote = some q := by
  cases h : s.quote with
  | none => simp [step_open h]
  | some r =>
    by_cases hq : q = r
    · subst hq
      simp [step_close h]
    · rw [step_inside h (mt Quote.char_injective hq)]
      simp [keep, h, Ne.symm hq]

/-- No quote is open behind an ending exactly if the ending is the quote that was open, or nothing
where none was. -/
theorem quote_read_ending_eq_none_iff (s : Scan) (e : Option Quote) :
    (s.read (Line.ending e).toList).quote = none ↔ e = s.quote := by
  cases e with
  | none => exact eq_comm
  | some q =>
    rw [Line.ending, String.toList_singleton, read_cons, read_nil, quote_step_char_eq_none_iff]
    exact eq_comm

end CommandShell.Scan

namespace CommandShell.Line

/-- A line with an ending is not refused for its quotes exactly if the ending is the quote that is
open at the end of the line, or nothing where none is. -/
theorem words_append_ending_iff {l : String} (h : l.length < maxLength) (e : Option Quote) :
    words (l ++ ending e) ≠ .error .unclosedQuote ↔ e = (Scan.read {} l.toList).quote := by
  have hlen : (l ++ ending e).length ≤ maxLength := by
    cases e <;> simp [ending] <;> omega
  rw [Ne, words_eq_unclosedQuote_iff_split? hlen, String.toList_append, split?, Scan.read_append]
  simp [Scan.quote_read_ending_eq_none_iff]

theorem mem_endings_iff {l line : String} :
    line ∈ [l, l ++ "\x27", l ++ "\x22"] ↔ ∃ e, line = l ++ ending e := by
  have hsingle : ending (some .single) = "\x27" := by decide
  have hdouble : ending (some .double) = "\x22" := by decide
  simp only [List.mem_cons, List.not_mem_nil, or_false]
  constructor
  · rintro (rfl | rfl | rfl)
    · exact ⟨none, (String.append_empty).symm⟩
    · exact ⟨some .single, by rw [hsingle]⟩
    · exact ⟨some .double, by rw [hdouble]⟩
  · rintro ⟨_ | _ | _, rfl⟩
    · exact .inl String.append_empty
    · exact .inr (.inl (by rw [hsingle]))
    · exact .inr (.inr (by rw [hdouble]))

/-- **There is one way to close a line.**  Of a line that leaves room for another character, that
line with an apostrophe behind it and that line with a quotation mark behind it, the quotes of
exactly one match.  So a line whose quotes do not match is closed by one of the two quotes and not by
the other, and a line whose quotes match is opened by both. -/
theorem words_close_existsUnique {l : String} (h : l.length < 1000) :
    (∃! line, line ∈ [l, l ++ "\x27", l ++ "\x22"] ∧ words line ≠ .error .unclosedQuote) ∧
    (words l = .error .unclosedQuote →
      ∃! q : Quote, words (l ++ String.singleton q.char) ≠ .error .unclosedQuote) ∧
    (words l ≠ .error .unclosedQuote →
      ∀ q : Quote, words (l ++ String.singleton q.char) = .error .unclosedQuote) := by
  have hending : ∀ e, words (l ++ ending e) ≠ .error .unclosedQuote ↔
      e = (Scan.read {} l.toList).quote := words_append_ending_iff h
  have hplain : words l ≠ .error .unclosedQuote ↔ none = (Scan.read {} l.toList).quote := by
    simpa [ending] using hending none
  refine ⟨?_, fun hopen ↦ ?_, fun hclosed q ↦ ?_⟩
  · refine ⟨l ++ ending (Scan.read {} l.toList).quote,
      ⟨mem_endings_iff.2 ⟨_, rfl⟩, (hending _).2 rfl⟩, ?_⟩
    rintro line ⟨hline, hclosed⟩
    obtain ⟨e, rfl⟩ := mem_endings_iff.1 hline
    rw [(hending e).1 hclosed]
  · cases hq : (Scan.read {} l.toList).quote with
    | none => exact absurd hopen (hplain.2 hq.symm)
    | some q =>
      refine ⟨q, (hending (some q)).2 hq.symm, fun r hr ↦ ?_⟩
      exact Option.some.inj (((hending (some r)).1 hr).trans hq)
  · by_contra hq
    have hsome : some q = (Scan.read {} l.toList).quote := (hending (some q)).1 hq
    rw [← hplain.1 hclosed] at hsome
    cases hsome

/-- An apostrophe inside an open run of the other kind does not close the line. -/
theorem words_close_existsUnique_nested :
    "say \x22it\x27s".length < 1000 ∧ words "say \x22it\x27s" = .error .unclosedQuote ∧
    (∃! q : Quote, words ("say \x22it\x27s" ++ String.singleton q.char) ≠ .error .unclosedQuote) ∧
    words ("say \x22it\x27s" ++ String.singleton Quote.single.char) = .error .unclosedQuote := by
  have hlen : "say \x22it\x27s".length < 1000 := by decide
  have hopen : words "say \x22it\x27s" = .error .unclosedQuote := by decide
  exact ⟨hlen, hopen, (words_close_existsUnique hlen).2.1 hopen, by decide⟩

end CommandShell.Line
