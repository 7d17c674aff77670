import CommandShell.Proofs.Command.Found

/-!
# How a move and a program end

Two things that a command does can end in more than one way: a move to a directory, and the run of a
program.  This file says of each which ways there are, when it ends in which of them, and what is
told about it, in the very words.

| what is done | its ends | what is told |
|---|---|---|
| `cd` | `Builtin.Attempts` | `Failure.Explains`, by the fault that the move has met |
| a program | `Command.Tells` | by how the program has ended |

The main statements are `Builtin.changeDirectoryTo_ends` and `Command.runExternal_ends`.  Both hold
in every world, so it makes no difference how a shell has got there.
-/

namespace CommandShell

/-! ## Moving -/

/-- A fault that keeps a process from moving to a target, or from learning where it has got to. -/
inductive Host.Hinders (host : Host) (target : String) : Fault → Prop
  /-- The process is not moved. -/
  | enter {fault : Fault} : host.enter target = .error fault → Hinders host target fault
  /-- The process is moved, and does not learn where it is. -/
  | whereabouts {moved : Host} {fault : Fault} :
    host.enter target = .ok moved → moved.whereabouts = .error fault → Hinders host target fault

namespace Failure

/-- What is said of a fault that was met on the way to a target. -/
inductive Explains (target : String) : Fault → String → Prop
  /-- Nothing bears the name of the target.  This has words of its own, whatever the system says. -/
  | noEntry (reason : String) (file : Option String) :
    Explains target (.numbered 2 reason file) ("no such file or directory: " ++ target)
  /-- The target is a file.  This has words of its own, too. -/
  | notDirectory (reason : String) (file : Option String) :
    Explains target (.numbered 20 reason file) ("not a directory: " ++ target)
  /-- The system gives any other reason. -/
  | reason {number : ErrorNumber} {reason : String} (file : Option String) :
    number ≠ 2 → number ≠ 20 → reason ≠ "" →
      Explains target (.numbered number reason file) (reason ++ ": " ++ target)
  /-- The system has a number for its reason, but no words. -/
  | wordless {number : ErrorNumber} (file : Option String) :
    number ≠ 2 → number ≠ 20 →
      Explains target (.numbered number "" file)
        ((Fault.numbered number "" file).text ++ ": " ++ target)
  /-- The system has nothing but words. -/
  | described (text : String) : Explains target (.described text) (text ++ ": " ++ target)
  /-- The target is refused as invalid, and is not repeated. -/
  | invalid (text : String) : Explains target (.invalid text) text

/-- The message about a fault is what is said of it, behind the words that the move has failed. -/
theorem explains_directoryMessage (target : String) (fault : Fault) :
    ∃ words, Explains target fault words ∧
      directoryMessage target fault = "cd failed: " ++ words := by
  cases fault with
  | numbered number reason file =>
    by_cases hentry : number = 2
    · subst hentry
      refine ⟨_, .noEntry reason file, ?_⟩
      rw [← String.append_assoc]
      rfl
    by_cases hdirectory : number = 20
    · subst hdirectory
      refine ⟨_, .notDirectory reason file, ?_⟩
      rw [← String.append_assoc]
      rfl
    have hentry' : number ≠ ErrorNumber.noEntry := hentry
    have hdirectory' : number ≠ ErrorNumber.notDirectory := hdirectory
    by_cases hreason : reason = ""
    · subst hreason
      refine ⟨_, .wordless file hentry hdirectory, ?_⟩
      simp only [directoryMessage, hentry', hdirectory', if_false, if_true, String.append_assoc]
    · refine ⟨_, .reason file hentry hdirectory hreason, ?_⟩
      simp only [directoryMessage, hentry', hdirectory', hreason, if_false, String.append_assoc]
  | described text =>
    refine ⟨_, .described text, ?_⟩
    simp only [directoryMessage, String.append_assoc]
  | invalid text => exact ⟨text, .invalid text, rfl⟩

/-- The failure of a move names its cause, and says what there is to say of it. -/
theorem explains_cannotEnter (target : String) (fault : Fault) :
    ∃ words, Explains target fault words ∧
      cannotEnter target fault =
        { kind := .directory, message := "cd failed: " ++ words, cause := some fault } := by
  obtain ⟨words, hwords, hmessage⟩ := explains_directoryMessage target fault
  exact ⟨words, hwords, by rw [cannotEnter, hmessage]⟩

end Failure

namespace Builtin

variable {w : World} {target : String}

/-- What a run comes to that attempts to move to a target. -/
structure Attempts (target : String) (w : World) (run : Run Next) : Prop where
  /-- There is one attempt, and it is made to the target itself. -/
  attempt : run.events = [.enter target]
  /-- The shell goes on exactly if the target is entered and has not been removed. -/
  arrives : run.outcome = .ok .proceed ↔
    ∃ moved, w.host.enter target = .ok moved ∧ moved.removed = false
  /-- Then the process has been moved, and the session is where the process is. -/
  place : run.outcome = .ok .proceed →
    w.host.enter target = .ok run.world.host ∧
      run.world.session.directory = run.world.host.directory
  /-- In every other case there is a failure.  Its cause is the fault that the attempt has met, and
  its message is what is said of that fault. -/
  fails : run.outcome ≠ .ok .proceed →
    ∃ fault words, w.host.Hinders target fault ∧ Failure.Explains target fault words ∧
      run.outcome = .error (.failure
        { kind := .directory, message := "cd failed: " ++ words, cause := some fault })
  /-- Then the session stays as it was. -/
  stays : run.outcome ≠ .ok .proceed → run.world.session = w.session

/-- What stops a move is met, named and explained. -/
theorem fails_of_hinders {fault : Fault} (h : w.host.Hinders target fault) :
    ∃ met words, w.host.Hinders target met ∧ Failure.Explains target met words ∧
      (.error (.failure (.cannotEnter target fault)) : Except Stop Next) =
        .error (.failure
          { kind := .directory, message := "cd failed: " ++ words, cause := some met }) := by
  obtain ⟨words, hwords, hfailure⟩ := Failure.explains_cannotEnter target fault
  exact ⟨fault, words, h, hwords, by rw [hfailure]⟩

theorem attempts_changeDirectoryTo (target : String) (w : World) :
    Attempts target w ((changeDirectoryTo [target]).run w) := by
  cases w.host.attempt target with
  | refused fault he =>
    rw [run_changeDirectoryTo_refused he]
    exact
      { attempt := rfl
        arrives := by simp [he]
        place := nofun
        fails := fun _ ↦ fails_of_hinders (.enter he)
        stays := fun _ ↦ rfl }
  | lost moved he hr =>
    rw [run_changeDirectoryTo_lost he hr]
    exact
      { attempt := rfl
        arrives := by simp [he, hr]
        place := nofun
        fails := fun _ ↦ fails_of_hinders (.whereabouts he (Host.whereabouts_of_removed hr))
        stays := fun _ ↦ rfl }
  | arrived moved he hr =>
    rw [run_changeDirectoryTo_arrived he hr]
    exact
      { attempt := rfl
        arrives := by simp [he, hr]
        place := fun _ ↦ ⟨he, rfl⟩
        fails := fun h ↦ absurd rfl h
        stays := fun h ↦ absurd rfl h }

/-- **How `cd` ends.**  Without exactly one argument it fails, without a cause, and attempts
nothing.  With one argument it attempts one move, to that target; it goes on exactly if the target
is entered and has not been removed, and the session is then where the process is.  In every other
case it fails because of the very fault that the move has met, with a message that says what there
is to say of this fault, and the session stays as it was.  Nothing else stops it. -/
theorem changeDirectoryTo_ends (w : World) :
    (∀ arguments : List String, arguments.length ≠ 1 →
      (changeDirectoryTo arguments).run w =
        { outcome := .error (.failure
            { kind := .directory, message := "cd requires exactly one argument", cause := none })
          events := [], world := w }) ∧
    ∀ target, Attempts target w ((changeDirectoryTo [target]).run w) :=
  ⟨fun _ hlen ↦ run_changeDirectoryTo_of_length_ne hlen w,
    fun target ↦ attempts_changeDirectoryTo target w⟩

end Builtin

/-! ## Running a program -/

namespace Command

/-- What the end of a program comes to: how the command that has run it ends, and what is
written. -/
structure Tells (ending : Except Fault Ending) (outcome : Except Stop Unit)
    (written : List Event) : Prop where
  /-- The program could not be started exactly if its start has met a fault.  This is the cause. -/
  unstarted (fault : Fault) : ending = .error fault ↔
    outcome = .error (.failure
      { kind := .inputOutput, message := "failed to execute command: " ++ fault.text
        cause := some fault })
  /-- The command has failed by itself exactly if its program has ended with a code but zero. -/
  failed : (∃ code, code ≠ 0 ∧ ending = .ok (.exited code)) ↔
    ∃ failure : Failure, failure.kind = .command ∧ outcome = .error (.failure failure)
  /-- Then a code is told, and written once.  It is positive: the code of the program, or one in the
  place of a negative code. -/
  told (code : Int) : code ≠ 0 → ending = .ok (.exited code) →
    ∃ n : Int, 1 ≤ n ∧ (0 < code → n = code) ∧ (code < 0 → n = 1) ∧
      outcome = .error (.failure
        { kind := .command, message := "command exited with code " ++ toString n, cause := none }) ∧
      written = [.write .diagnostics ("error: command exited with code " ++ toString n ++ "\n")]
  /-- Nothing is written in any other case. -/
  silent : (∀ code, code ≠ 0 → ending ≠ .ok (.exited code)) → written = []
  /-- The command is interrupted exactly if its program is. -/
  interrupted : ending = .ok .interrupted ↔ outcome = .error .interrupt
  /-- The command ends well exactly if its program has ended with the code zero. -/
  succeeded : ending = .ok (.exited 0) ↔ outcome = .ok ()

/-- A command ends well exactly if its program does. -/
theorem verdict_eq_ok_iff {ending : Except Fault Ending} :
    verdict ending = .ok () ↔ ending = .ok (.exited 0) := by
  rcases ending with fault | code | _
  · simp [verdict]
  · by_cases hc : code = 0 <;> simp [verdict, hc]
  · simp [verdict]

/-- A command fails by itself exactly if its program ends with a code but zero. -/
theorem exists_kind_verdict_iff {ending : Except Fault Ending} :
    (∃ failure : Failure, failure.kind = .command ∧ verdict ending = .error (.failure failure)) ↔
      ∃ code, code ≠ 0 ∧ ending = .ok (.exited code) := by
  constructor
  · rintro ⟨failure, hkind, h⟩
    rcases ending with fault | code | _
    · cases h
      cases hkind
    · refine ⟨code, ?_, rfl⟩
      rintro rfl
      cases h
    · cases h
  · rintro ⟨code, hc, rfl⟩
    exact ⟨.exitedWith (toldCode code), rfl, verdict_of_exited hc⟩

/-- The verdict on the end of a program, with the remarks on it, tells how the program has ended. -/
theorem tells_verdict (ending : Except Fault Ending) :
    Tells ending (verdict ending) (remarks ending) where
  unstarted _ := verdict_eq_cannotStart_iff.symm
  failed := exists_kind_verdict_iff.symm
  told code hc h := by
    subst h
    exact ⟨toldCode code, toldCode_pos code, toldCode_of_pos, toldCode_of_neg, verdict_of_exited hc,
      remarks_of_exited hc⟩
  silent h := by
    rcases ending with fault | code | _
    · rfl
    · exact if_pos (by_contra fun hc ↦ h code hc rfl)
    · rfl
  interrupted := verdict_eq_interrupt_iff.symm
  succeeded := verdict_eq_ok_iff.symm

/-- **How the program of a command ends.**  In every case the world is left as it was.  If no
program is found, and only then, the command fails for that, and nothing takes place.  Otherwise one
program is started: the one that was found, with the name and the arguments of the command for its
words, in the directory of the session.  The command fails because of the very fault that the start
has met, if it has met one; it fails with a positive code, which is written, if the program has
ended with a code but zero; it is interrupted if the program was; and otherwise it ends well. -/
theorem runExternal_ends (command : Command) (w : World) :
    let run := command.runExternal.run w
    let words := command.name :: command.arguments
    run.world = w ∧
    (Search.program? w command.name = none ↔
      run.outcome = .error (.failure
        { kind := .inputOutput, message := command.name ++ ": command not found"
          cause := some (.numbered 2 "No such file or directory" (some command.name)) }) ∧
      run.events = []) ∧
    ∀ executable, Search.program? w command.name = some executable →
      Event.effects run.events = [.launch executable words w.session.directory] ∧
      ∃ written, run.events = .launch executable words w.session.directory :: written ∧
        Tells (w.host.launch executable words w.session.directory) run.outcome written := by
  intro run words
  cases hs : Search.program? w command.name with
  | none =>
    have hrun : run = _ := run_runExternal_of_none hs
    rw [hrun]
    exact ⟨rfl, iff_of_true rfl ⟨rfl, rfl⟩, nofun⟩
  | some executable =>
    have hrun : run = _ := run_runExternal_of_some hs
    rw [hrun]
    refine ⟨rfl, iff_of_false nofun fun h ↦ ?_, ?_⟩
    · cases h.2
    · rintro _ ⟨⟩
      refine ⟨by simp [words, Command.words], _, rfl, tells_verdict _⟩

end Command

end CommandShell
