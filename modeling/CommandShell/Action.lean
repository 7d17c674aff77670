import CommandShell.Event
import CommandShell.World

/-!
# Actions

An action is something a shell can do in a world.  Running it gives an outcome, the events that
took place, and the world that is left.  An action that is stopped early still leaves a world and
the events that took place before it stopped.

* `pure` and `bind` make actions a lawful monad: the events of a sequence are the events of its
  parts, one after the other.
* `Action.onFault` and `Action.onFailure` go on after a fault of a system call and after the
  failure of a line.  Whatever else stops an action passes through them.
-/

namespace CommandShell

/-- What stops an action early. -/
inductive Stop where
  /-- The line has failed. -/
  | failure (failure : Failure)
  /-- A system call has failed, and nothing more has been made of it. -/
  | fault (fault : Fault)
  /-- There is no more input. -/
  | endOfInput
  /-- The user has interrupted what was going on. -/
  | interrupt
deriving DecidableEq, Repr

/-- What running an action in a world gives. -/
@[ext]
structure Run (α : Type) where
  /-- The result, or what stopped the action before it had one. -/
  outcome : Except Stop α
  /-- What took place, in order of time. -/
  events : List Event
  /-- The world that is left. -/
  world : World

namespace Run

variable {α β : Type}

/-- The run seen by one who saw the given events before it. -/
def after (events : List Event) (run : Run α) : Run α :=
  { run with events := events ++ run.events }

@[simp] theorem outcome_after (events : List Event) (run : Run α) :
    (run.after events).outcome = run.outcome := rfl
@[simp] theorem events_after (events : List Event) (run : Run α) :
    (run.after events).events = events ++ run.events := rfl
@[simp] theorem world_after (events : List Event) (run : Run α) :
    (run.after events).world = run.world := rfl

@[simp] theorem after_mk (events events' : List Event) (outcome : Except Stop α) (world : World) :
    after events ⟨outcome, events', world⟩ = ⟨outcome, events ++ events', world⟩ := rfl

@[simp] theorem after_nil (run : Run α) : run.after [] = run := rfl

end Run

/-- Something a shell can do in a world. -/
@[ext]
structure Action (α : Type) where
  /-- Do it in a given world. -/
  run : World → Run α

namespace Action

variable {α β : Type}

/-- The action that does nothing and has the given result. -/
protected def pure (a : α) : Action α := ⟨fun world => ⟨.ok a, [], world⟩⟩

/-- One action and then another, which may depend on the result of the first. -/
protected def bind (first : Action α) (next : α → Action β) : Action β :=
  ⟨fun world =>
    match first.run world with
    | ⟨.ok a, events, left⟩ => ((next a).run left).after events
    | ⟨.error stop, events, left⟩ => ⟨.error stop, events, left⟩⟩

instance : Monad Action where
  pure := Action.pure
  bind := Action.bind

/-- Stop. -/
def stop (reason : Stop) : Action α := ⟨fun world => ⟨.error reason, [], world⟩⟩

/-- Stop because the line has failed. -/
def fail (failure : Failure) : Action α := stop (.failure failure)

/-- The world as it is. -/
def world : Action World := ⟨fun world => ⟨.ok world, [], world⟩⟩

/-- Change the world. -/
def change (f : World → World) : Action Unit := ⟨fun world => ⟨.ok (), [], f world⟩⟩

/-- Let an event take place. -/
def emit (event : Event) : Action Unit := ⟨fun world => ⟨.ok (), [event], world⟩⟩

/-- Write text on a stream. -/
def write (stream : Stream) (text : String) : Action Unit := emit (.write stream text)

/-- Take the result of a system call: its fault stops the action. -/
def call : Except Fault α → Action α
  | .ok a => Action.pure a
  | .error fault => stop (.fault fault)

/-- Go on after a fault. -/
def onFault (action : Action α) (handler : Fault → Action α) : Action α :=
  ⟨fun world =>
    match action.run world with
    | ⟨.error (.fault fault), events, left⟩ => ((handler fault).run left).after events
    | run => run⟩

/-- Go on after a failure. -/
def onFailure (action : Action α) (handler : Failure → Action α) : Action α :=
  ⟨fun world =>
    match action.run world with
    | ⟨.error (.failure failure), events, left⟩ => ((handler failure).run left).after events
    | run => run⟩

/-! ## Running -/

@[simp] theorem run_pure (a : α) (world : World) :
    (pure a : Action α).run world = ⟨.ok a, [], world⟩ := rfl

/-- Running a sequence, by how its first part turns out. -/
theorem run_bind (first : Action α) (next : α → Action β) (world : World) :
    (first >>= next).run world =
      match first.run world with
      | ⟨.ok a, events, left⟩ => ((next a).run left).after events
      | ⟨.error stop, events, left⟩ => ⟨.error stop, events, left⟩ := rfl

/-- A first part that has a result is followed by what depends on it. -/
theorem run_bind_of_ok {first : Action α} {next : α → Action β} {world left : World} {a : α}
    {events : List Event} (h : first.run world = ⟨.ok a, events, left⟩) :
    (first >>= next).run world = ((next a).run left).after events := by
  rw [run_bind, h]

/-- A first part that is stopped stops the sequence. -/
theorem run_bind_of_error {first : Action α} {next : α → Action β} {world left : World}
    {stop : Stop} {events : List Event} (h : first.run world = ⟨.error stop, events, left⟩) :
    (first >>= next).run world = ⟨.error stop, events, left⟩ := by
  rw [run_bind, h]

theorem run_map (f : α → β) (action : Action α) (world : World) :
    (f <$> action).run world =
      ⟨(action.run world).outcome.map f, (action.run world).events, (action.run world).world⟩ := by
  change (Action.bind action (Action.pure ∘ f)).run world = _
  unfold Action.bind Action.pure
  dsimp only [Function.comp]
  rcases action.run world with ⟨stop | a, events, left⟩
  · rfl
  · simp [Except.map]

@[simp] theorem run_stop (reason : Stop) (world : World) :
    (stop reason : Action α).run world = ⟨.error reason, [], world⟩ := rfl
@[simp] theorem run_fail (failure : Failure) (world : World) :
    (fail failure : Action α).run world = ⟨.error (.failure failure), [], world⟩ := rfl
@[simp] theorem run_world (w : World) : world.run w = ⟨.ok w, [], w⟩ := rfl
@[simp] theorem run_change (f : World → World) (world : World) :
    (change f).run world = ⟨.ok (), [], f world⟩ := rfl
@[simp] theorem run_emit (event : Event) (world : World) :
    (emit event).run world = ⟨.ok (), [event], world⟩ := rfl
@[simp] theorem run_write (stream : Stream) (text : String) (world : World) :
    (write stream text).run world = ⟨.ok (), [.write stream text], world⟩ := rfl
@[simp] theorem run_call_ok (a : α) (world : World) :
    (call (.ok a)).run world = ⟨.ok a, [], world⟩ := rfl
@[simp] theorem run_call_error (fault : Fault) (world : World) :
    (call (.error fault) : Action α).run world = ⟨.error (.fault fault), [], world⟩ := rfl

theorem run_onFault (action : Action α) (handler : Fault → Action α) (world : World) :
    (action.onFault handler).run world =
      match action.run world with
      | ⟨.error (.fault fault), events, left⟩ => ((handler fault).run left).after events
      | run => run := rfl

theorem run_onFailure (action : Action α) (handler : Failure → Action α) (world : World) :
    (action.onFailure handler).run world =
      match action.run world with
      | ⟨.error (.failure failure), events, left⟩ => ((handler failure).run left).after events
      | run => run := rfl

/-- A sequence of actions is built in one way only, however it is bracketed. -/
instance : LawfulMonad Action := LawfulMonad.mk' Action
  (fun x => by
    ext1; funext world
    change (Action.bind x fun a => Action.pure a).run world = x.run world
    unfold Action.bind Action.pure
    dsimp only
    split <;> simp_all [Run.after])
  (fun a f => by
    ext1; funext world
    exact Run.after_nil _)
  (fun x f g => by
    ext1; funext world
    simp only [run_bind]
    rcases x.run world with ⟨stop | a, events, left⟩
    · rfl
    · dsimp only [Run.after]
      rcases (f a).run left with ⟨stop | b, events', left'⟩
      · rfl
      · simp [List.append_assoc])

end Action

end CommandShell
