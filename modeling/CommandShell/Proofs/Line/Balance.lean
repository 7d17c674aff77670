import CommandShell.Proofs.Line.Parse

/-!
# The balance of a parse

What becomes of the characters of a line: each of them belongs to a word, is a space, or is one of
the two quotes of a run.

* `length_written` counts the characters of a parse in this way.
* `flatten_itemWords` says that the words, one after the other, are what the items add to them.
* `length_itemWords_le` says that there is at most one word more than there are spaces.

Words that are joined again with single spaces need one space less than there are words.  So they
are never longer than the line they came from (`length_intercalate_itemWords_le`).

`words_conserve` says for a line and its words what this comes to: no character is lost on the way
but spaces and pairs of quotes, none is added, and the others keep their order.
-/

namespace CommandShell.Line

/-- Whether the item is a quoted run. -/
def Item.isRun : Item → Bool
  | .run _ _ => true
  | _ => false

/-- Every character of a parse belongs to a word, is a space, or is one of the two quotes of a
run. -/
theorem length_written (items : List Item) :
    (written items).length =
      (text items).length + items.countP Item.isSpace + 2 * items.countP Item.isRun := by
  induction items with
  | nil => rfl
  | cons item items ih =>
    rw [written_cons, text_cons, List.length_append, List.length_append, ih, List.countP_cons,
      List.countP_cons]
    cases item with
    | space => simp [Item.written, Item.text, Item.isSpace, Item.isRun]; omega
    | plain c => simp [Item.written, Item.text, Item.isSpace, Item.isRun]; omega
    | run q body => simp [Item.written, Item.text, Item.isSpace, Item.isRun]; omega

/-! ## Stretches and words -/

theorem flatten_stretches (items : List Item) :
    ((stretches items).map text).flatten = text items := by
  induction items with
  | nil => rfl
  | cons item items ih =>
    obtain ⟨first, rest, hs⟩ := List.exists_cons_of_ne_nil
      (List.splitOnP_ne_nil Item.isSpace items)
    rw [stretches] at ih
    rw [text_cons, ← ih, stretches, List.splitOnP_cons_eq_if_modifyHead, hs]
    cases item <;> simp [Item.isSpace, Item.text]

theorem length_stretches (items : List Item) :
    (stretches items).length = items.countP Item.isSpace + 1 := by
  induction items with
  | nil => rfl
  | cons item items ih =>
    rw [stretches] at ih
    rw [stretches, List.splitOnP_cons_eq_if_modifyHead]
    by_cases h : item.isSpace = true <;> simp [h, ih]

/-- The words of a parse hold what its items add to a word, and nothing else. -/
theorem flatten_itemWords (items : List Item) : (itemWords items).flatten = text items := by
  rw [itemWords, List.flatten_filter_ne_nil, flatten_stretches]

/-- There is at most one word more than there are spaces. -/
theorem length_itemWords_le (items : List Item) :
    (itemWords items).length ≤ items.countP Item.isSpace + 1 := by
  calc (itemWords items).length ≤ ((stretches items).map text).length := List.length_filter_le ..
    _ = items.countP Item.isSpace + 1 := by rw [List.length_map, length_stretches]

theorem ne_nil_of_mem_itemWords {items : List Item} {word : List Char}
    (h : word ∈ itemWords items) : word ≠ [] := by
  simpa using (List.mem_filter.1 h).2

/-- A line that is accepted has a parse with the same words. -/
theorem exists_parse_of_words {line : String} {ws : List String} (h : words line = .ok ws) :
    line.length ≤ maxLength ∧ ws.length ≤ maxWords ∧
      ∃ items, Parses line.toList items ∧ itemWords items = ws.map String.toList := by
  have hlen : line.length ≤ maxLength := by
    by_contra hlen
    rw [words_of_lt_length (Nat.lt_of_not_le hlen)] at h
    cases h
  have hparse : ∃ items, Parses line.toList items := by
    by_contra hparse
    rw [(words_eq_unclosedQuote_iff hlen).2 hparse] at h
    cases h
  obtain ⟨items, hitems⟩ := hparse
  rw [words_of_parses hlen hitems] at h
  by_cases hcount : maxWords < (itemWords items).length
  · rw [if_pos hcount] at h
    cases h
  · rw [if_neg hcount] at h
    cases h
    exact ⟨hlen, by simpa using hcount, items, hitems, by simp [Function.comp_def]⟩

/-! ## Joined words -/

theorem length_intercalate_space {words : List (List Char)} (h : words ≠ []) :
    ([' '].intercalate words).length + 1 = words.flatten.length + words.length := by
  induction words with
  | nil => exact absurd rfl h
  | cons word rest ih =>
    cases rest with
    | nil => simp
    | cons next rest =>
      have ih := ih (List.cons_ne_nil next rest)
      rw [List.intercalate_cons_cons, List.flatten_cons]
      simp only [List.length_append, List.length_cons, List.length_nil] at ih ⊢
      omega

/-- The words of a line, joined, are never longer than the line. -/
theorem length_intercalate_itemWords_le (items : List Item) :
    ([' '].intercalate (itemWords items)).length ≤ (written items).length := by
  by_cases h : itemWords items = []
  · simp [h]
  · have hjoined := length_intercalate_space h
    rw [flatten_itemWords] at hjoined
    have hwritten := length_written items
    have hcount := length_itemWords_le items
    omega

/-- The words of a line, with a character between every two of them, are never longer than the
line. -/
theorem length_join_words_le {items : List Item} {ws : List String}
    (hwords : itemWords items = ws.map String.toList) (hne : ws ≠ []) :
    (String.join ws).length + (ws.length - 1) ≤ (written items).length := by
  have hitems : itemWords items ≠ [] := by simpa [hwords] using hne
  have hjoined := length_intercalate_space hitems
  have hle := length_intercalate_itemWords_le items
  have hlength : (itemWords items).flatten.length = (String.join ws).length := by
    rw [hwords, ← String.length_toList, String.toList_join, List.flatMap_def]
  have hnum : (itemWords items).length = ws.length := by rw [hwords, List.length_map]
  have hpos : 0 < ws.length := List.length_pos_iff.2 hne
  omega

/-! ## What is kept and what is dropped -/

/-- Whether a character can stand for nothing but itself. -/
def isPlain (c : Char) : Bool := c ≠ ' ' ∧ c ≠ '\x27' ∧ c ≠ '\x22'

/-- Whether a character is a quote of either kind. -/
def isQuote (c : Char) : Bool := c = '\x27' ∨ c = '\x22'

@[simp] theorem isPlain_space : isPlain ' ' = false := by decide
@[simp] theorem isPlain_char (q : Quote) : isPlain q.char = false := by cases q <;> decide
@[simp] theorem isQuote_space : isQuote ' ' = false := by decide
@[simp] theorem isQuote_char (q : Quote) : isQuote q.char = true := by cases q <;> decide

/-- What an item adds to a word stands in it as it is. -/
theorem Item.text_sublist_written (item : Item) : item.text.Sublist item.written := by
  cases item with
  | space => exact List.nil_sublist _
  | plain c => exact List.Sublist.refl _
  | run q body => exact (List.sublist_append_left body [q.char]).cons q.char

/-- What items say stands in the line in the same order. -/
theorem text_sublist_written (items : List Item) : (text items).Sublist (written items) := by
  induction items with
  | nil => exact List.Sublist.refl _
  | cons item items ih => exact item.text_sublist_written.append ih

/-- Plain characters are all kept. -/
theorem filter_isPlain_written (items : List Item) :
    (written items).filter isPlain = (text items).filter isPlain := by
  induction items with
  | nil => rfl
  | cons item items ih =>
    rw [written_cons, text_cons, List.filter_append, List.filter_append, ih]
    cases item with
    | space => simp [Item.written, Item.text]
    | plain c => rfl
    | run q body => simp [Item.written, Item.text]

/-- Quotes are dropped in pairs, one pair for each run. -/
theorem countP_isQuote_written (items : List Item) :
    (written items).countP isQuote =
      (text items).countP isQuote + 2 * items.countP Item.isRun := by
  induction items with
  | nil => rfl
  | cons item items ih =>
    rw [written_cons, text_cons, List.countP_append, List.countP_append, ih, List.countP_cons]
    cases item with
    | space => simp [Item.written, Item.text, Item.isRun]
    | plain c => simp [Item.written, Item.text, Item.isRun]; omega
    | run q body => simp [Item.written, Item.text, Item.isRun]; omega

/-- **No character is lost, doubled, added or moved.**  The words of a line are not empty, and there
are at most 100.  One after the other they are a part of the line with its order kept.  They hold all
its characters but spaces and quotes, and of the quotes an even number is missing.  Even with a
character between two words they would not be longer than the line, which has at most 1000
characters. -/
theorem words_conserve {line : String} {ws : List String} (h : words line = .ok ws) :
    (∀ word ∈ ws, word ≠ "") ∧ ws.length ≤ 100 ∧
    (String.join ws).toList.Sublist line.toList ∧
    (String.join ws).toList.filter isPlain = line.toList.filter isPlain ∧
    (∃ pairs, line.toList.countP isQuote =
      (String.join ws).toList.countP isQuote + 2 * pairs) ∧
    (ws ≠ [] → (String.join ws).length + (ws.length - 1) ≤ line.length) ∧
    line.length ≤ 1000 := by
  obtain ⟨hlen, hcount, items, ⟨-, hwritten⟩, hwords⟩ := exists_parse_of_words h
  have htext : (String.join ws).toList = text items := by
    rw [String.toList_join, List.flatMap_def, ← hwords, flatten_itemWords]
  refine ⟨?_, hcount, ?_, ?_, ?_, fun hne ↦ ?_, hlen⟩
  · rintro word hword rfl
    exact ne_nil_of_mem_itemWords (hwords ▸ List.mem_map_of_mem hword) rfl
  · rw [htext, ← hwritten]
    exact text_sublist_written items
  · rw [htext, ← hwritten, filter_isPlain_written]
  · rw [htext, ← hwritten]
    exact ⟨items.countP Item.isRun, countP_isQuote_written items⟩
  · calc (String.join ws).length + (ws.length - 1)
        ≤ (written items).length := length_join_words_le hwords hne
      _ = line.length := by rw [hwritten, String.length_toList]

/-- A run of either kind may hold the quote of the other kind, and a run may be empty. -/
theorem words_conserve_runs :
    words " \x22it\x27s\x22  \x27\x27so\x27 \x22\x27" = .ok ["it\x27s", "so \x22"] ∧
    (String.join ["it\x27s", "so \x22"]).toList.filter isPlain =
      " \x22it\x27s\x22  \x27\x27so\x27 \x22\x27".toList.filter isPlain ∧
    ∃ pairs, " \x22it\x27s\x22  \x27\x27so\x27 \x22\x27".toList.countP isQuote =
      (String.join ["it\x27s", "so \x22"]).toList.countP isQuote + 2 * pairs := by
  have h : words " \x22it\x27s\x22  \x27\x27so\x27 \x22\x27" = .ok ["it\x27s", "so \x22"] := by
    decide
  obtain ⟨-, -, -, hplain, hpairs, -⟩ := words_conserve h
  exact ⟨h, hplain, hpairs⟩

end CommandShell.Line
