import CommandShell.Options.Switch
import CommandShell.Text.DecimalDigit

/-!
# What one argument is

Before any argument is acted on, each is classified by itself: it is a word, a switch with or
without a value of its own, or unknown.  The first argument `--` is a divider, and all that
follows it are words.

A value can be part of the argument of its switch: it follows an equals sign, or a short switch at
once.  A long switch may be abbreviated as far as it stays clear which one is meant.
-/

namespace CommandShell

/-- What stands behind a switch in its own argument. -/
inductive Attachment where
  /-- A value behind an equals sign. -/
  | equals (value : String)
  /-- What stands at once behind a short switch. -/
  | direct (value : String)
deriving DecidableEq, Repr

namespace Attachment

/-- The value that is attached, in either way. -/
def value : Attachment → String
  | equals value => value
  | direct value => value

end Attachment

/-- What one argument is. -/
inductive Argument where
  /-- A word. -/
  | word (text : String)
  /-- A switch, with what is attached to it, if anything is. -/
  | switch (switch : Switch) (attachment : Option Attachment)
  /-- It looks like a switch and is none. -/
  | unknown (text : String)
  /-- The mark after which there are only words. -/
  | divider
deriving DecidableEq, Repr

namespace Argument

/-- The divider as it is written. -/
def dividerText : String := "--"

/-- The parts of a text before and after its first equals sign. -/
def cutAtEquals? (text : List Char) : Option (List Char × List Char) :=
  match text.dropWhile (· ≠ '=') with
  | [] => none
  | _ :: value => some (text.takeWhile (· ≠ '='), value)

/-- Digits, or digits after a point with or without digits before it. -/
def isUnsignedNumber (text : List Char) : Bool :=
  match text.dropWhile Text.isDecimalDigit with
  | [] => !text.isEmpty
  | '.' :: fraction => !fraction.isEmpty && fraction.all Text.isDecimalDigit
  | _ => false

/-- A minus sign and an unsigned number.  One line end after it does no harm. -/
def isNegativeNumber : List Char → Bool
  | '-' :: rest =>
    isUnsignedNumber (if rest.getLast? = some '\n' then rest.dropLast else rest)
  | _ => false

/-- What an argument is that begins with a minus sign and fits no switch: a negative number and a
text with a space in it are words. -/
def ofUnfit (text : List Char) : Argument :=
  if isNegativeNumber text || ' ' ∈ text then word (String.ofList text)
  else unknown (String.ofList text)

/-- A long switch, or the beginning of one. -/
def ofLong (text : List Char) : Except UsageError Argument :=
  let (name, attachment) :=
    match cutAtEquals? text with
    | some (name, value) => (name, some (.equals (String.ofList value)))
    | none => (text, none)
  match Switch.beginning name with
  | [] => .ok (ofUnfit text)
  | [(_, found)] => .ok (switch found attachment)
  | several => .error (.ambiguous (String.ofList text) (several.map Prod.fst))

/-- A short switch with something at once behind it. -/
def ofShort (text : List Char) : Argument :=
  match Switch.ofName? (String.ofList (text.take 2)) with
  | some found => switch found (some (.direct (String.ofList (text.drop 2))))
  | none => ofUnfit text

/-- An argument that spells no switch in full, neither by itself nor before an equals sign. -/
def ofUnspelled (text : List Char) : Except UsageError Argument :=
  if dividerText.toList.isPrefixOf text then ofLong text else .ok (ofShort text)

/-- What an argument is that begins with a minus sign, goes on, and is not itself a switch. -/
def ofDashed (text : List Char) : Except UsageError Argument :=
  match cutAtEquals? text with
  | none => ofUnspelled text
  | some (name, value) =>
    match Switch.ofName? (String.ofList name) with
    | some found => .ok (switch found (some (.equals (String.ofList value))))
    | none => ofUnspelled text

/-- What an argument is that stands before any divider. -/
def ofText (text : String) : Except UsageError Argument :=
  match text.toList with
  | '-' :: _ :: _ =>
    match Switch.ofName? text with
    | some found => .ok (switch found none)
    | none => ofDashed text.toList
  | _ => .ok (word text)

/-- What the arguments are. -/
def ofTexts : List String → Except UsageError (List Argument)
  | [] => .ok []
  | text :: rest =>
    if text = dividerText then .ok (divider :: rest.map word)
    else do
      let first ← ofText text
      let others ← ofTexts rest
      return first :: others

end Argument

end CommandShell
