import CommandShell.Proofs.Line.Parse
import Mathlib.Data.List.Basic

/-!
# Symmetries of lines

The grammar of a line prefers neither kind of quote and neither end of the line.  A `Symmetry` is a
change of texts of the kind this suggests: it carries parses along, and done twice it changes
nothing.

| symmetry | what becomes of a text | what becomes of its words |
|---|---|---|
| `Symmetry.exchange` | its quotes are of the other kind | the same, of each |
| `Symmetry.backwards` | it is read from its end | the same, of each, and the last is first |

A text without a parse gets none by a symmetry, which would carry it back.  And the words of a
parse that was carried along are the words of the changed text, since a text has no second parse.
So a text and the changed text split alike (`Symmetry.split?_onText`).  Nowhere is one scan compared
with another: read backwards, a line begins where its first scan ended, and the two have no step in
common.

`words_exchangeQuotes` and `words_backwards` are what this comes to for the words of a line.
-/

namespace CommandShell.Line

/-! ## Words of a parse, stretch by stretch -/

/-- A parse is a single stretch, or a space stands between two parses. -/
theorem items_induction {motive : List Item → Prop}
    (stretch : ∀ items, Item.space ∉ items → motive items)
    (space : ∀ a b, motive a → motive b → motive (a ++ .space :: b)) (items : List Item) :
    motive items := by
  by_cases h : Item.space ∈ items
  · obtain ⟨a, b, hitems⟩ := List.append_of_mem h
    have hlength : items.length = a.length + (b.length + 1) := by rw [hitems]; simp
    have ha : a.length < items.length := by omega
    have hb : b.length < items.length := by omega
    rw [hitems]
    exact space a b (items_induction stretch space a) (items_induction stretch space b)
  · exact stretch items h
termination_by items.length

theorem itemWords_append_space (a b : List Item) :
    itemWords (a ++ .space :: b) = itemWords a ++ itemWords b := by
  rw [itemWords, stretches, List.splitOnP_append_cons a b rfl, List.map_append, List.filter_append]
  rfl

theorem itemWords_of_space_notMem {items : List Item} (h : Item.space ∉ items) :
    itemWords items = if text items = [] then [] else [text items] := by
  have hspace : ∀ item ∈ items, item.isSpace = false := by
    intro item hitem
    cases item with
    | space => exact absurd hitem h
    | plain c => rfl
    | run q body => rfl
  rw [itemWords, stretches, List.splitOnP_eq_singleton hspace]
  by_cases htext : text items = [] <;> simp [htext]

/-- There is no new space if no item but a space is changed into a space. -/
theorem space_mem_map_iff {change : Item → Item} (h : ∀ item, change item = .space ↔ item = .space)
    {items : List Item} : Item.space ∈ items.map change ↔ Item.space ∈ items := by
  simp only [List.mem_map, h, exists_eq_right]

/-! ## Symmetries -/

/-- A change of texts that goes along with their parses. -/
structure Symmetry where
  /-- What becomes of a text. -/
  onText : List Char → List Char
  /-- What becomes of the parse of a text. -/
  onItems : List Item → List Item
  /-- What becomes of the words of a text. -/
  onWords : List (List Char) → List (List Char)
  /-- A text that is changed twice is as it was. -/
  involutive : Function.Involutive onText
  /-- A text does not get longer or shorter. -/
  length_onText : ∀ text, (onText text).length = text.length
  /-- There are no more and no fewer words. -/
  length_onWords : ∀ words, (onWords words).length = words.length
  /-- A parse of the text becomes a parse of the changed text. -/
  parses : ∀ {text items}, Parses text items → Parses (onText text) (onItems items)
  /-- The words of the parse become the words of the changed parse. -/
  itemWords_onItems : ∀ items, itemWords (onItems items) = onWords (itemWords items)

namespace Symmetry

variable (σ : Symmetry)

/-- A text has a parse exactly if the changed text has one. -/
theorem exists_parses_iff (text : List Char) :
    (∃ items, Parses (σ.onText text) items) ↔ ∃ items, Parses text items := by
  constructor
  · rintro ⟨items, hitems⟩
    have hback := σ.parses hitems
    rw [σ.involutive text] at hback
    exact ⟨σ.onItems items, hback⟩
  · rintro ⟨items, hitems⟩
    exact ⟨σ.onItems items, σ.parses hitems⟩

/-- The changed text has the changed words, and none where the text has none. -/
theorem split?_onText (text : List Char) :
    split? (σ.onText text) = (split? text).map σ.onWords := by
  by_cases h : ∃ items, Parses text items
  · obtain ⟨items, hitems⟩ := h
    rw [split?_of_parses (σ.parses hitems), split?_of_parses hitems, σ.itemWords_onItems]
    rfl
  · rw [split?_eq_none_iff.2 h, split?_eq_none_iff.2 (mt (σ.exists_parses_iff text).1 h)]
    rfl

/-- What becomes of a line. -/
def onLine (line : String) : String := String.ofList (σ.onText line.toList)

/-- What becomes of the words of a line. -/
def onLineWords (words : List String) : List String :=
  (σ.onWords (words.map String.toList)).map String.ofList

/-- The changed line has the changed words, or is refused as the line is. -/
theorem words_onLine (line : String) :
    words (σ.onLine line) = (words line).map σ.onLineWords := by
  have hlength : (σ.onLine line).length = line.length := by
    rw [onLine, String.length_ofList, σ.length_onText, String.length_toList]
  have hsplit : split? (σ.onLine line).toList = (split? line.toList).map σ.onWords := by
    rw [onLine, String.toList_ofList, split?_onText]
  by_cases hlong : maxLength < line.length
  · rw [words_of_lt_length hlong, words_of_lt_length (by rwa [hlength])]
    rfl
  · have hlen : line.length ≤ maxLength := Nat.not_lt.1 hlong
    have hlen' : (σ.onLine line).length ≤ maxLength := by rwa [hlength]
    cases hs : split? line.toList with
    | none =>
      rw [hs, Option.map_none] at hsplit
      rw [words_of_split?_eq_none hlen hs, words_of_split?_eq_none hlen' hsplit]
      rfl
    | some ws =>
      rw [hs, Option.map_some] at hsplit
      rw [words_of_split?_eq_some hlen hs, words_of_split?_eq_some hlen' hsplit, σ.length_onWords]
      by_cases hcount : maxWords < ws.length
      · rw [if_pos hcount, if_pos hcount]
        rfl
      · rw [if_neg hcount, if_neg hcount]
        simp [Except.map, onLineWords, Function.comp_def]

end Symmetry

end CommandShell.Line

/-! ## Exchanging the quotes -/

namespace CommandShell.Quote

/-- The quote of the other kind in the place of a quote.  Any other character stays as it is. -/
def exchange (c : Char) : Char :=
  match ofChar? c with
  | some q => q.other.char
  | none => c

@[simp] theorem exchange_char (q : Quote) : exchange q.char = q.other.char := by
  simp [exchange]

theorem exchange_of_ofChar?_eq_none {c : Char} (h : ofChar? c = none) : exchange c = c := by
  simp [exchange, h]

theorem exchange_involutive : Function.Involutive exchange := by
  intro c
  cases h : ofChar? c with
  | none => rw [exchange_of_ofChar?_eq_none h, exchange_of_ofChar?_eq_none h]
  | some q =>
    obtain rfl := ofChar?_eq_some.1 h
    rw [exchange_char, exchange_char, other_other]

end CommandShell.Quote

namespace CommandShell.Line

/-- The item whose quotes are of the other kind. -/
def Item.exchange : Item → Item
  | space => space
  | plain c => plain (Quote.exchange c)
  | run q body => run q.other (body.map Quote.exchange)

theorem Item.exchange_eq_space_iff (item : Item) : item.exchange = .space ↔ item = .space := by
  cases item <;> simp [Item.exchange]

theorem Item.WellFormed.exchange {item : Item} (h : item.WellFormed) :
    item.exchange.WellFormed := by
  cases item with
  | space => trivial
  | plain c =>
    rw [Item.exchange, Quote.exchange_of_ofChar?_eq_none h.2]
    exact h
  | run q body =>
    intro hmem
    rw [← Quote.exchange_char] at hmem
    exact h ((List.mem_map_of_injective Quote.exchange_involutive.injective).1 hmem)

@[simp] theorem Item.written_exchange (item : Item) :
    item.exchange.written = item.written.map Quote.exchange := by
  cases item with
  | space => rfl
  | plain c => rfl
  | run q body => simp [Item.exchange, Item.written]

@[simp] theorem Item.text_exchange (item : Item) :
    item.exchange.text = item.text.map Quote.exchange := by
  cases item <;> rfl

theorem written_map_exchange (items : List Item) :
    written (items.map Item.exchange) = (written items).map Quote.exchange := by
  simp [written, List.flatMap_map, List.map_flatMap]

theorem text_map_exchange (items : List Item) :
    text (items.map Item.exchange) = (text items).map Quote.exchange := by
  simp [text, List.flatMap_map, List.map_flatMap]

theorem itemWords_map_exchange (items : List Item) :
    itemWords (items.map Item.exchange) = (itemWords items).map (List.map Quote.exchange) := by
  induction items using items_induction with
  | stretch items h =>
    have hmap : Item.space ∉ items.map Item.exchange :=
      mt (space_mem_map_iff Item.exchange_eq_space_iff).1 h
    rw [itemWords_of_space_notMem hmap, itemWords_of_space_notMem h, text_map_exchange]
    by_cases htext : text items = [] <;> simp [htext]
  | space a b iha ihb =>
    rw [itemWords_append_space, List.map_append, List.map_append, ← iha, ← ihb]
    exact itemWords_append_space _ _

/-- Each quote becomes one of the other kind. -/
def Symmetry.exchange : Symmetry where
  onText := List.map Quote.exchange
  onItems := List.map Item.exchange
  onWords := List.map (List.map Quote.exchange)
  involutive := Quote.exchange_involutive.list_map
  length_onText _ := List.length_map _
  length_onWords _ := List.length_map _
  parses := by
    rintro _ items ⟨hitems, rfl⟩
    refine ⟨fun item hitem ↦ ?_, written_map_exchange items⟩
    obtain ⟨original, horiginal, rfl⟩ := List.mem_map.1 hitem
    exact (hitems original horiginal).exchange
  itemWords_onItems := itemWords_map_exchange

/-- The text in which each quote is of the other kind. -/
def exchangeQuotes (text : String) : String := String.ofList (text.toList.map Quote.exchange)

/-- **The two kinds of quote are interchangeable.**  If each quote of a line is replaced by one of
the other kind, the same happens to its words, and a line that is refused is refused as before. -/
theorem words_exchangeQuotes (line : String) :
    words (exchangeQuotes line) = (words line).map (List.map exchangeQuotes) := by
  have hwords : Symmetry.exchange.onLineWords = List.map exchangeQuotes := by
    funext ws
    simp [Symmetry.onLineWords, Symmetry.exchange, exchangeQuotes]
  rw [← hwords]
  exact Symmetry.exchange.words_onLine line

/-! ## Reading backwards -/

/-- The item read from its end. -/
def Item.backwards : Item → Item
  | run q body => run q body.reverse
  | item => item

theorem Item.backwards_eq_space_iff (item : Item) : item.backwards = .space ↔ item = .space := by
  cases item <;> simp [Item.backwards]

theorem Item.WellFormed.backwards {item : Item} (h : item.WellFormed) :
    item.backwards.WellFormed := by
  cases item with
  | space => trivial
  | plain c => exact h
  | run q body => exact mt List.mem_reverse.1 h

@[simp] theorem Item.written_backwards (item : Item) :
    item.backwards.written = item.written.reverse := by
  cases item <;> simp [Item.backwards, Item.written]

@[simp] theorem Item.text_backwards (item : Item) : item.backwards.text = item.text.reverse := by
  cases item <;> simp [Item.backwards, Item.text]

/-- The items read from the end of the last to the beginning of the first. -/
def itemsBackwards (items : List Item) : List Item := (items.map Item.backwards).reverse

theorem itemsBackwards_append (a b : List Item) :
    itemsBackwards (a ++ b) = itemsBackwards b ++ itemsBackwards a := by
  rw [itemsBackwards, List.map_append, List.reverse_append]
  rfl

theorem written_itemsBackwards (items : List Item) :
    written (itemsBackwards items) = (written items).reverse := by
  simp [written, itemsBackwards, List.reverse_flatMap, List.flatMap_map, ← List.map_reverse,
    Function.comp_def]

theorem text_itemsBackwards (items : List Item) :
    text (itemsBackwards items) = (text items).reverse := by
  simp [text, itemsBackwards, List.reverse_flatMap, List.flatMap_map, ← List.map_reverse,
    Function.comp_def]

theorem itemWords_itemsBackwards (items : List Item) :
    itemWords (itemsBackwards items) = ((itemWords items).map List.reverse).reverse := by
  induction items using items_induction with
  | stretch items h =>
    have hback : Item.space ∉ itemsBackwards items := by
      rwa [itemsBackwards, List.mem_reverse, space_mem_map_iff Item.backwards_eq_space_iff]
    rw [itemWords_of_space_notMem hback, itemWords_of_space_notMem h, text_itemsBackwards]
    by_cases htext : text items = [] <;> simp [htext]
  | space a b iha ihb =>
    have hback : itemsBackwards (a ++ .space :: b) =
        itemsBackwards b ++ .space :: itemsBackwards a := by
      rw [itemsBackwards_append, ← List.singleton_append, itemsBackwards_append, List.append_assoc]
      rfl
    rw [hback, itemWords_append_space, itemWords_append_space, iha, ihb, List.map_append,
      List.reverse_append]

/-- The last character becomes the first, and the last word the first word. -/
def Symmetry.backwards : Symmetry where
  onText := List.reverse
  onItems := itemsBackwards
  onWords ws := (ws.map List.reverse).reverse
  involutive := List.reverse_involutive
  length_onText _ := List.length_reverse
  length_onWords _ := by rw [List.length_reverse, List.length_map]
  parses := by
    rintro _ items ⟨hitems, rfl⟩
    refine ⟨fun item hitem ↦ ?_, written_itemsBackwards items⟩
    obtain ⟨original, horiginal, rfl⟩ := List.mem_map.1 (List.mem_reverse.1 hitem)
    exact (hitems original horiginal).backwards
  itemWords_onItems := itemWords_itemsBackwards

/-- The text read from its end. -/
def backwards (text : String) : String := String.ofList text.toList.reverse

/-- **A line may be read from either end.**  Read backwards it has the words of the line, each of
them read backwards and the last one first, and a line that is refused is refused as before. -/
theorem words_backwards (line : String) :
    words (backwards line) = (words line).map fun ws ↦ (ws.map backwards).reverse := by
  have hwords : Symmetry.backwards.onLineWords = fun ws ↦ (ws.map backwards).reverse := by
    funext ws
    simp [Symmetry.onLineWords, Symmetry.backwards, backwards]
  rw [← hwords]
  exact Symmetry.backwards.words_onLine line

end CommandShell.Line
