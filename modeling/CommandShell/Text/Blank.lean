import CommandShell.Text.CodePoints

/-!
# Blank characters

The characters that are cut off both ends of a line before it is read: the white space of
Unicode together with the four information separators `U+001C` to `U+001F`.  This set is larger
than the one that separates words inside a line, which is the plain space alone.
-/

namespace CommandShell.Text

/-- The 29 code points that count as blank at the ends of a line. -/
def blanks : CodePoints :=
  [(0x9, 0xD), (0x1C, 0x20), (0x85, 0x85), (0xA0, 0xA0), (0x1680, 0x1680), (0x2000, 0x200A),
   (0x2028, 0x2029), (0x202F, 0x202F), (0x205F, 0x205F), (0x3000, 0x3000)]

/-- Whether a character is blank. -/
def isBlank (c : Char) : Bool := blanks.contains c

@[simp] theorem isBlank_space : isBlank ' ' = true := by decide

/-- Drop the blank characters at both ends of a text. -/
def trimList (text : List Char) : List Char :=
  ((text.dropWhile isBlank).reverse.dropWhile isBlank).reverse

/-- Drop the blank characters at both ends of a text, and no others. -/
def trim (text : String) : String := String.ofList (trimList text.toList)

/-- Nothing is dropped from a text that neither begins nor ends with a blank character. -/
theorem trimList_of_ends {first last : Char} (hfirst : isBlank first = false)
    (hlast : isBlank last = false) (body : List Char) :
    trimList (first :: (body ++ [last])) = first :: (body ++ [last]) := by
  simp [trimList, hfirst, hlast]

@[simp] theorem toList_trim (text : String) : (trim text).toList = trimList text.toList :=
  String.toList_ofList

end CommandShell.Text
