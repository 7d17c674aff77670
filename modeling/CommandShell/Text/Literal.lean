import CommandShell.Text.Unprintable

/-!
# Quoted literals

A literal is the written form of a text inside a message: the text between two quote marks, with
the marks, the backslash and the unprintable characters escaped so that the literal stays on one
line and its end can be told.

The mark is an apostrophe, unless the text holds an apostrophe and no quotation mark: then it is a
quotation mark, and nothing needs escaping on its account.
-/

namespace CommandShell.Text.Literal

/-- The mark at both ends of the literal of a text. -/
def mark (text : List Char) : Char :=
  if '\x27' ∈ text ∧ '\x22' ∉ text then '\x22' else '\x27'

/-- A number in lower-case hexadecimal digits, with zeros in front up to the given width. -/
def hex (width number : Nat) : List Char :=
  (Nat.toDigits 16 number).leftpad width '0'

/-- A character written by its number: two, four or eight digits, the shortest that will do. -/
def numbered (c : Char) : List Char :=
  if c.toNat < 0x100 then '\\' :: 'x' :: hex 2 c.toNat
  else if c.toNat < 0x10000 then '\\' :: 'u' :: hex 4 c.toNat
  else '\\' :: 'U' :: hex 8 c.toNat

/-- What stands for one character between marks of the given kind. -/
def escape (mark c : Char) : List Char :=
  if c = mark ∨ c = '\\' then ['\\', c]
  else if c = '\t' then ['\\', 't']
  else if c = '\n' then ['\\', 'n']
  else if c = '\r' then ['\\', 'r']
  else if isUnprintable c then numbered c
  else [c]

/-- The characters of a literal: each character of the text escaped, between two marks. -/
def encode (text : List Char) : List Char :=
  mark text :: text.flatMap (escape (mark text)) ++ [mark text]

end CommandShell.Text.Literal

namespace CommandShell.Text

/-- The literal of a text. -/
def literal (text : String) : String := String.ofList (Literal.encode text.toList)

end CommandShell.Text
