import CommandShell.Interpret
import CommandShell.Proofs.Command.Run
import CommandShell.Proofs.Line.Quoted

/-!
# What a line makes of its command

Interpreting a line adds two things to the command that the line says: a failure is reported and
does not go on, and the status tells how it went.  `Run.settled` is what becomes of a run in this
way, and `Line.run_carryOut` says that a line does just that to the run of its command.

The main result is `Line.interpret_ofWords`: a line of quoted words does exactly what the command of
these words does, whatever characters the words hold.
-/

namespace CommandShell

namespace Failure

/-- What is written when a failure is reported. -/
def reported (failure : Failure) : List Event :=
  if failure.kind = .command then [] else [.write .diagnostics failure.notice]

/-- Reporting a failure writes what there is to say and does nothing else. -/
theorem run_report (failure : Failure) (world : World) :
    failure.report.run world = ⟨.ok (), failure.reported, world⟩ := by
  by_cases h : failure.kind = .command <;> simp [report, reported, h]

@[simp] theorem effects_reported (failure : Failure) : Event.effects failure.reported = [] := by
  by_cases h : failure.kind = .command <;> simp [reported, h]

end Failure

namespace Run

/-- What a line makes of the run of its command.  If the command has a result the status is zero.
If it fails the failure is reported, the shell goes on, and the status is one.  Whatever else stops
it stops the line, and the status is what it was. -/
def settled (run : Run Next) : Run Next :=
  match run.outcome with
  | .ok next => ⟨.ok next, run.events, run.world.withStatus 0⟩
  | .error (.failure failure) =>
    ⟨.ok .proceed, run.events ++ failure.reported, run.world.withStatus 1⟩
  | .error stop => ⟨.error stop, run.events, run.world⟩

/-- Settling adds nothing but text. -/
@[simp] theorem effects_events_settled (run : Run Next) :
    Event.effects run.settled.events = Event.effects run.events := by
  rcases run with ⟨(failure | fault | _ | _) | next, events, world⟩ <;> simp [settled]

end Run

namespace Line

/-- A trimmed line settles the run of its command. -/
theorem run_carryOut (text : String) (world : World) :
    (carryOut text).run world = ((attempt text).run world).settled := by
  rcases h : (attempt text).run world with ⟨(failure | fault | _ | _) | next, events, left⟩ <;>
    simp [carryOut, recover, Action.run_onFailure, Action.run_bind, Action.run_map, Except.map,
      Failure.run_report, Run.settled, h]

theorem attempt_of_words {text : String} {ws : List String} (h : words text = .ok ws) :
    attempt text = Command.executeWords ws := by
  simp [attempt, h]

/-- A line of quoted words settles the run of the command of these words. -/
theorem run_interpret_ofWords {ws : List String} (hws : ws ≠ []) (hne : ∀ word ∈ ws, word ≠ "")
    (hcount : ws.length ≤ maxWords) (hlen : (ofWords ws).length ≤ maxLength) (world : World) :
    (interpret (ofWords ws)).run world = ((Command.executeWords ws).run world).settled := by
  have htrim : Text.trim (ofWords ws) = ofWords ws := trim_ofWords hws
  rw [interpret_of_trim_ne_empty (by rw [htrim]; exact ofWords_ne_empty hws), htrim, run_carryOut,
    attempt_of_words (words_ofWords hne hcount hlen)]

/-- **Quoting is faithful from end to end.**  A line of quoted words does what the command of these
words does, and settles it.  If the first word is not registered and a program is found for it,
that program is run once, with exactly these words and in the directory of the session; if it is
registered, the builtin is called with exactly the words after the first, and no program is run. -/
theorem interpret_ofWords (name : String) (arguments : List String)
    (hne : ∀ word ∈ name :: arguments, word ≠ "") (hcount : (name :: arguments).length ≤ 100)
    (hlen : (ofWords (name :: arguments)).length ≤ 1000) (world : World) :
    let run := (interpret (ofWords (name :: arguments))).run world
    run = ((Command.executeWords (name :: arguments)).run world).settled ∧
    (∀ executable, world.builtins.get? name = none →
      Search.program? world name = some executable →
      Event.effects run.events =
        [.launch executable (name :: arguments) world.session.directory]) ∧
    ∀ builtin, world.builtins.get? name = some builtin →
      run = ((builtin.execute name arguments).run world).settled ∧
      Event.effects run.events = builtin.visible name arguments ∧
      ∀ executable words directory, .launch executable words directory ∉ run.events := by
  intro run
  let command : Command := { name, arguments }
  have hrun : run = ((Command.executeWords (name :: arguments)).run world).settled :=
    run_interpret_ofWords (List.cons_ne_nil name arguments) hne hcount hlen world
  have hcommand : Command.executeWords (name :: arguments) = command.execute := rfl
  refine ⟨hrun, fun executable hb hs ↦ ?_, fun builtin hb ↦ ?_⟩
  · have hprogram : Search.program? world command.name = some executable := hs
    rw [hrun, Run.effects_events_settled, hcommand, Command.run_execute_of_none hb,
      Command.run_runExternal_of_some hprogram]
    simp [Command.words, command]
  · have hbuiltin : run = ((builtin.execute name arguments).run world).settled := by
      rw [hrun, hcommand, Command.run_execute_of_some hb]
    have heffects : Event.effects run.events = builtin.visible name arguments := by
      rw [hbuiltin, Run.effects_events_settled, Builtin.events_execute, Builtin.effects_visible]
    refine ⟨hbuiltin, heffects, fun executable words directory hmem ↦ ?_⟩
    apply builtin.launch_notMem_visible name arguments executable words directory
    rw [← heffects]
    exact Event.mem_effects_iff.2 ⟨hmem, rfl⟩

/-- A word that holds blanks, both kinds of quote and a tab reaches the program as it is. -/
theorem interpret_ofWords_mixed :
    (∀ word ∈ ["say", " it\x27s \x22so\x22\t"], word ≠ "") ∧
    ["say", " it\x27s \x22so\x22\t"].length ≤ 100 ∧
    (ofWords ["say", " it\x27s \x22so\x22\t"]).length ≤ 1000 ∧
    Event.effects ((interpret (ofWords ["say", " it\x27s \x22so\x22\t"])).run
        { host := Host.boot [("/bin/say", { kind := .file, executable := true })] "/w"
          session := { environment := [("PATH", "/bin")], directory := "/w" } }).events =
      [.launch "/bin/say" ["say", " it\x27s \x22so\x22\t"] "/w"] := by
  refine ⟨by decide, by decide, by decide, ?_⟩
  exact (interpret_ofWords "say" [" it\x27s \x22so\x22\t"] (by decide) (by decide) (by decide) _).2.1
    "/bin/say" rfl (by decide)

end Line

end CommandShell
