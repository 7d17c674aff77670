import CommandShell.Proofs.Line.Balance
import CommandShell.Proofs.Line.Quoted

/-!
# Joining the words of a line again

The words of a line, joined with single spaces, are again a line.  Quotes that the first line had
are gone from it, and quotes and spaces that a word held stand by themselves.

`words_join_iff` says when this line has the same words: exactly if none of them holds a space or a
quote.

* If none does, every word is read back as it stands (`split?_intercalate`), and the limits allow
  it, since joining makes nothing longer.
* If the words are the same, the joined line is as long as the balance of its parse allows without
  any run (`countP_isRun_eq_zero`).  So quotes of different words cannot have made a run of their
  own, and without runs all that a word holds is plain (`plain_of_mem_text`).
-/

namespace CommandShell.Line

/-! ## From the same words to plain ones -/

/-- A line that is its own words, joined, has no quoted run: the quotes of a run would be
missing. -/
theorem countP_isRun_eq_zero {items : List Item}
    (h : written items = [' '].intercalate (itemWords items)) : items.countP Item.isRun = 0 := by
  have hwritten := length_written items
  by_cases hw : itemWords items = []
  · rw [h, hw] at hwritten
    simp at hwritten
    omega
  · have hjoined := length_intercalate_space hw
    rw [flatten_itemWords, ← h] at hjoined
    have hcount := length_itemWords_le items
    omega

/-- Where there is no run, the words hold nothing but plain characters. -/
theorem plain_of_mem_text {items : List Item} (hitems : ∀ item ∈ items, item.WellFormed)
    (hrun : items.countP Item.isRun = 0) {c : Char} (hc : c ∈ text items) :
    (Item.plain c).WellFormed := by
  obtain ⟨item, hitem, hc⟩ := List.mem_flatMap.1 hc
  cases item with
  | space => cases hc
  | plain d =>
    obtain rfl := List.mem_singleton.1 hc
    exact hitems _ hitem
  | run q body => exact absurd rfl (List.countP_eq_zero.1 hrun _ hitem)

theorem toList_intercalate_space (ws : List String) :
    (" ".intercalate ws).toList = [' '].intercalate (ws.map String.toList) :=
  String.toList_intercalate

/-- If the line that joins some words has these words, they hold nothing but plain characters. -/
theorem plain_of_words_intercalate {ws : List String} (h : words (" ".intercalate ws) = .ok ws) :
    ∀ word ∈ ws, ∀ c ∈ word.toList, (Item.plain c).WellFormed := by
  obtain ⟨-, -, items, ⟨hitems, hwritten⟩, hwords⟩ := exists_parse_of_words h
  have hrun : items.countP Item.isRun = 0 := by
    apply countP_isRun_eq_zero
    rw [hwritten, toList_intercalate_space, hwords]
  intro word hword c hc
  apply plain_of_mem_text hitems hrun
  rw [← flatten_itemWords, hwords]
  exact List.mem_flatten.2 ⟨word.toList, List.mem_map_of_mem hword, hc⟩

/-! ## From plain words to the same ones -/

/-- A plain word is read back as it stands, unless it is empty. -/
theorem split?_of_plain {word : List Char} (hne : word ≠ [])
    (hplain : ∀ c ∈ word, (Item.plain c).WellFormed) : split? word = some [word] := by
  rw [split?_eq_some_iff, Scan.read_plains rfl hplain]
  exact ⟨rfl, if_neg hne⟩

/-- Plain words are read back from a text that has them with single spaces between them. -/
theorem split?_intercalate {words : List (List Char)} (hne : ∀ word ∈ words, word ≠ [])
    (hplain : ∀ word ∈ words, ∀ c ∈ word, (Item.plain c).WellFormed) :
    split? ([' '].intercalate words) = some words := by
  have hword : ∀ word ∈ words, split? (id word) = some [word] :=
    fun word hmem ↦ split?_of_plain (hne word hmem) (hplain word hmem)
  simpa using split?_intercalate_map hword

/-- Plain words, none of them empty, are the words of the line that joins them, unless it is too
long or there are too many of them. -/
theorem words_intercalate_of_plain {ws : List String} (hne : ∀ word ∈ ws, word ≠ "")
    (hplain : ∀ word ∈ ws, ∀ c ∈ word.toList, (Item.plain c).WellFormed)
    (hlen : (" ".intercalate ws).length ≤ maxLength) (hcount : ws.length ≤ maxWords) :
    words (" ".intercalate ws) = .ok ws := by
  have hsplit : split? (" ".intercalate ws).toList = some (ws.map String.toList) := by
    rw [toList_intercalate_space]
    apply split?_intercalate
    · simpa [String.toList_eq_nil_iff] using hne
    · simpa using hplain
  exact words_eq_ok hlen hcount hsplit

/-- **Joining words and splitting them again** gives the same words exactly if none of them holds a
space or a quote.  The limits have no say in this: the joined words of a line are never too long,
and never too many. -/
theorem words_join_iff {line : String} {ws : List String} (h : words line = .ok ws) :
    (words (" ".intercalate ws) = .ok ws ↔
      ∀ word ∈ ws, ∀ c ∈ word.toList, c ≠ ' ' ∧ c ≠ '\x27' ∧ c ≠ '\x22') ∧
    (" ".intercalate ws).length ≤ 1000 ∧ ws.length ≤ 100 := by
  obtain ⟨hlen, hcount, items, ⟨-, hwritten⟩, hwords⟩ := exists_parse_of_words h
  have hjoined : (" ".intercalate ws).length ≤ maxLength := by
    calc (" ".intercalate ws).length
        = ([' '].intercalate (itemWords items)).length := by
          rw [← String.length_toList, toList_intercalate_space, hwords]
      _ ≤ (written items).length := length_intercalate_itemWords_le items
      _ ≤ maxLength := by rwa [hwritten, String.length_toList]
  have hne : ∀ word ∈ ws, word ≠ "" := by
    rintro word hword rfl
    exact ne_nil_of_mem_itemWords (hwords ▸ List.mem_map_of_mem hword) rfl
  have hplain : ∀ c, (Item.plain c).WellFormed ↔ c ≠ ' ' ∧ c ≠ '\x27' ∧ c ≠ '\x22' :=
    fun c ↦ and_congr_right' Quote.ofChar?_eq_none
  simp only [← hplain]
  exact ⟨⟨plain_of_words_intercalate,
    fun hws ↦ words_intercalate_of_plain hne hws hjoined hcount⟩, hjoined, hcount⟩

/-- Two words of which one was quoted without need are read again from the line that joins them; a
word that holds a space is not. -/
theorem words_join_iff_needless :
    (words "say  \x27so\x27\x22me\x22" = .ok ["say", "some"] ∧
      words (" ".intercalate ["say", "some"]) = .ok ["say", "some"]) ∧
    (words "say  \x27so me\x27" = .ok ["say", "so me"] ∧
      words (" ".intercalate ["say", "so me"]) ≠ .ok ["say", "so me"]) := by
  have hneedless : words "say  \x27so\x27\x22me\x22" = .ok ["say", "some"] := by decide
  have hspaced : words "say  \x27so me\x27" = .ok ["say", "so me"] := by decide
  refine ⟨⟨hneedless, (words_join_iff hneedless).1.2 (by simp)⟩, hspaced, fun h ↦ ?_⟩
  exact ((words_join_iff hspaced).1.1 h "so me" (by simp) ' ' (by simp)).1 rfl

end CommandShell.Line
