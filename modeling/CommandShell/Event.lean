/-!
# Events: what a shell does that others can see

An event is one attempt to move, one attempt to run a program, one call of a registered extension,
or one piece of text written.  A trace is the list of events of a run in order of time.

`Event.join` puts a trace into the form in which it is shown: neighbouring pieces of text on the
same stream are one piece, and empty pieces are left out.
-/

namespace CommandShell

/-- Where text is written. -/
inductive Stream where
  /-- What was asked for. -/
  | output
  /-- Prompts and diagnostics. -/
  | diagnostics
deriving DecidableEq, Repr

/-- One thing that a shell does. -/
inductive Event where
  /-- Try to move the process. -/
  | enter (target : String)
  /-- Try to run a program with the given words in the given directory. -/
  | launch (executable : String) (words : List String) (directory : String)
  /-- Call a registered extension. -/
  | call (name : String) (arguments : List String)
  /-- Write text. -/
  | write (stream : Stream) (text : String)
deriving DecidableEq, Repr

namespace Event

/-- Whether the event does more than write text. -/
def isEffect : Event → Bool
  | write _ _ => false
  | _ => true

/-- The events of a trace that do more than write text. -/
def effects (trace : List Event) : List Event := trace.filter isEffect

/-- The text that a trace writes on a stream. -/
def textOn (stream : Stream) : List Event → String
  | [] => ""
  | write s text :: rest => if s = stream then text ++ textOn stream rest else textOn stream rest
  | _ :: rest => textOn stream rest

/-- Put a piece of text in front of a joined trace. -/
def mergeText (stream : Stream) (text : String) : List Event → List Event
  | write s first :: rest =>
    if s = stream then write stream (text ++ first) :: rest
    else if text = "" then write s first :: rest
    else write stream text :: write s first :: rest
  | trace => if text = "" then trace else write stream text :: trace

/-- The trace with neighbouring pieces of text joined and empty ones left out. -/
def join : List Event → List Event
  | [] => []
  | write stream text :: rest => mergeText stream text (join rest)
  | event :: rest => event :: join rest

/-! ## Laws -/

@[simp] theorem effects_nil : effects [] = [] := rfl

/-- An event that does more than write text is one of the effects of every trace it is in. -/
theorem mem_effects_iff {event : Event} {trace : List Event} :
    event ∈ effects trace ↔ event ∈ trace ∧ event.isEffect = true := List.mem_filter

@[simp] theorem effects_append (a b : List Event) : effects (a ++ b) = effects a ++ effects b :=
  List.filter_append ..

@[simp] theorem effects_write (stream : Stream) (text : String) (rest : List Event) :
    effects (write stream text :: rest) = effects rest := rfl

@[simp] theorem effects_enter (target : String) (rest : List Event) :
    effects (enter target :: rest) = enter target :: effects rest := rfl
@[simp] theorem effects_launch (executable : String) (words : List String) (directory : String)
    (rest : List Event) :
    effects (launch executable words directory :: rest) =
      launch executable words directory :: effects rest := rfl
@[simp] theorem effects_call (name : String) (arguments : List String) (rest : List Event) :
    effects (call name arguments :: rest) = call name arguments :: effects rest := rfl

@[simp] theorem textOn_append (stream : Stream) (a b : List Event) :
    textOn stream (a ++ b) = textOn stream a ++ textOn stream b := by
  induction a with
  | nil => simp [textOn]
  | cons event a ih =>
    cases event <;> simp only [List.cons_append, textOn, ih]
    split <;> simp [String.append_assoc]

/-- Putting text in front of a joined trace adds no effect and takes none away. -/
@[simp] theorem effects_mergeText (stream : Stream) (text : String) (trace : List Event) :
    effects (mergeText stream text trace) = effects trace := by
  unfold mergeText
  grind [effects_write]

theorem effects_join (trace : List Event) : effects (join trace) = effects trace := by
  induction trace with
  | nil => rfl
  | cons event rest ih => cases event <;> simp [join, ih]

end Event

end CommandShell
