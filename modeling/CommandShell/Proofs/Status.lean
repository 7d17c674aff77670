import CommandShell.Proofs.Conversation

/-!
# What a line ends with, and the status it leaves

Whatever goes wrong in a line stays in the line: it is reported, and the shell goes on.  The one
thing that gets out is an interrupt.  The status says how the line went: one if it could not be
split into words or its command failed, zero if its command had a result, and what it was before if
there was nothing to do or the command was interrupted.

`interpret_contained` puts this together, with what follows for a session: its status is never
anything but zero or one.
-/

namespace CommandShell

namespace Run

theorem world_settled_of_interrupt {run : Run Next} (h : run.outcome = .error .interrupt) :
    run.settled.world = run.world := by
  simp [settled, h]

theorem status_settled_of_ok {run : Run Next} {next : Next} (h : run.outcome = .ok next) :
    run.settled.world.session.status = 0 := by
  simp [settled, h]

theorem status_settled_of_failure {run : Run Next} {failure : Failure}
    (h : run.outcome = .error (.failure failure)) : run.settled.world.session.status = 1 := by
  simp [settled, h]

end Run

namespace Line

/-! ## What an attempt ends with -/

/-- A line fails if it has no words, or the command that its words say fails. -/
def Fails (text : String) (w : World) : Prop :=
  (∃ kind, words text = .error kind) ∨
    ∃ ws failure, words text = .ok ws ∧
      ((Command.executeWords ws).run w).outcome = .error (.failure failure)

theorem fails_iff {text : String} {w : World} :
    Fails text w ↔ ∃ failure, ((attempt text).run w).outcome = .error (.failure failure) := by
  cases hw : words text with
  | error kind => simp [Fails, hw, attempt_of_words_error hw]
  | ok ws => simp [Fails, hw, attempt_of_words hw]

/-- What is neither a failure nor the plain result that no words have, an attempt ends with exactly
if the line says a command that ends with it. -/
theorem outcome_attempt_eq_iff {text : String} {w : World} {outcome : Except Stop Next}
    (hfailure : ∀ failure, outcome ≠ .error (.failure failure))
    (hproceed : outcome ≠ .ok .proceed) :
    ((attempt text).run w).outcome = outcome ↔
      ∃ command : Command, words text = .ok command.words ∧
        (command.execute.run w).outcome = outcome := by
  cases hw : words text with
  | error kind =>
    rw [attempt_of_words_error hw]
    constructor
    · exact fun h ↦ absurd h.symm (hfailure _)
    · rintro ⟨command, hcommand, -⟩
      cases hcommand
  | ok ws =>
    rw [attempt_of_words hw]
    cases ws with
    | nil =>
      constructor
      · exact fun h ↦ absurd h.symm hproceed
      · rintro ⟨command, hcommand, -⟩
        cases hcommand
    | cons name arguments =>
      constructor
      · exact fun h ↦ ⟨{ name, arguments }, rfl, h⟩
      · rintro ⟨command, hcommand, h⟩
        cases hcommand
        exact h

/-- An attempt is interrupted exactly if the line says a command whose program is interrupted. -/
theorem outcome_attempt_eq_interrupt_iff {text : String} {w : World} :
    ((attempt text).run w).outcome = .error .interrupt ↔
      ∃ command : Command, words text = .ok command.words ∧ command.Interrupted w := by
  refine (outcome_attempt_eq_iff (by simp) (by simp)).trans ?_
  simp only [Command.outcome_execute_eq_interrupt_iff]

/-- An attempt leaves the shell exactly if the line says a command of a builtin that leaves it. -/
theorem outcome_attempt_eq_leave_iff {text : String} {w : World} :
    ((attempt text).run w).outcome = .ok .leave ↔
      ∃ (command : Command) (builtin : Builtin), words text = .ok command.words ∧
        w.builtins.get? command.name = some builtin ∧
        ((builtin.execute command.name command.arguments).run w).outcome = .ok .leave := by
  refine (outcome_attempt_eq_iff (by simp) (by simp)).trans ?_
  simp only [Command.outcome_execute_eq_leave_iff, exists_and_left]

/-! ## Lines -/

/-- The empty text has no words, and an attempt at it does nothing. -/
theorem attempt_empty : attempt "" = pure .proceed :=
  attempt_of_words (show words "" = .ok [] from rfl)

/-- A line ends with what its attempt ends with, but for a failure: after a failure the shell goes
on. -/
theorem outcome_interpret_eq (line : String) (w : World) :
    ((interpret line).run w).outcome = ((attempt (Text.trim line)).run w).settled.outcome := by
  by_cases ht : Text.trim line = ""
  · rw [interpret_of_trim_eq_empty ht, ht, attempt_empty]
    rfl
  · rw [interpret_of_trim_ne_empty ht, run_carryOut]

/-- A line is interrupted exactly if it says a command whose program is interrupted. -/
theorem outcome_interpret_eq_interrupt_iff {line : String} {w : World} :
    ((interpret line).run w).outcome = .error .interrupt ↔
      ∃ command : Command, words (Text.trim line) = .ok command.words ∧ command.Interrupted w := by
  rw [outcome_interpret_eq, Run.outcome_settled_eq_interrupt_iff, outcome_attempt_eq_interrupt_iff]

/-- A line leaves the shell exactly if it says a command of a builtin that leaves it. -/
theorem outcome_interpret_eq_leave_iff {line : String} {w : World} :
    ((interpret line).run w).outcome = .ok .leave ↔
      ∃ (command : Command) (builtin : Builtin), words (Text.trim line) = .ok command.words ∧
        w.builtins.get? command.name = some builtin ∧
        ((builtin.execute command.name command.arguments).run w).outcome = .ok .leave := by
  rw [outcome_interpret_eq, Run.outcome_settled_eq_leave_iff, outcome_attempt_eq_leave_iff]

/-- An attempt that is interrupted leaves the world as it was. -/
theorem world_attempt_of_interrupt {text : String} {w : World}
    (h : ((attempt text).run w).outcome = .error .interrupt) :
    ((attempt text).run w).world = w := by
  obtain ⟨command, hwords, hinterrupted⟩ := outcome_attempt_eq_interrupt_iff.1 h
  rw [attempt_of_words hwords]
  exact hinterrupted.world_execute

/-! ## The status -/

/-- A blank line leaves the status as it was. -/
theorem status_interpret_of_blank {line : String} (h : Text.trim line = "") (w : World) :
    ((interpret line).run w).world.session.status = w.session.status := by
  rw [interpret_of_trim_eq_empty h]
  rfl

/-- An interrupt leaves the status as it was. -/
theorem status_interpret_of_interrupt {line : String} {w : World}
    (h : ((interpret line).run w).outcome = .error .interrupt) :
    ((interpret line).run w).world.session.status = w.session.status := by
  by_cases ht : Text.trim line = ""
  · exact status_interpret_of_blank ht w
  · have hattempt : ((attempt (Text.trim line)).run w).outcome = .error .interrupt := by
      rwa [outcome_interpret_eq, Run.outcome_settled_eq_interrupt_iff] at h
    rw [interpret_of_trim_ne_empty ht, run_carryOut, Run.world_settled_of_interrupt hattempt,
      world_attempt_of_interrupt hattempt]

/-- A line that fails leaves the status one. -/
theorem status_interpret_of_fails {line : String} {w : World} (h : Fails (Text.trim line) w) :
    ((interpret line).run w).world.session.status = 1 := by
  obtain ⟨failure, hfailure⟩ := fails_iff.1 h
  have ht : Text.trim line ≠ "" := by
    intro ht
    rw [ht, attempt_empty] at hfailure
    cases hfailure
  rw [interpret_of_trim_ne_empty ht, run_carryOut, Run.status_settled_of_failure hfailure]

/-- Any other line leaves the status zero. -/
theorem status_interpret_of_not_fails {line : String} {w : World} (ht : Text.trim line ≠ "")
    (hinterrupt : ((interpret line).run w).outcome ≠ .error .interrupt)
    (hfails : ¬ Fails (Text.trim line) w) :
    ((interpret line).run w).world.session.status = 0 := by
  rw [outcome_interpret_eq, Ne, Run.outcome_settled_eq_interrupt_iff] at hinterrupt
  rw [fails_iff] at hfails
  rw [interpret_of_trim_ne_empty ht, run_carryOut]
  rcases (contained_attempt (Text.trim line) w).cases with ⟨next, h⟩ | h | h
  · exact Run.status_settled_of_ok h
  · exact absurd h hfails
  · exact absurd h hinterrupt

/-- The status after a line is what it was before, or zero, or one. -/
theorem status_interpret (line : String) (w : World) :
    ((interpret line).run w).world.session.status = w.session.status ∨
      ((interpret line).run w).world.session.status = 0 ∨
      ((interpret line).run w).world.session.status = 1 := by
  by_cases ht : Text.trim line = ""
  · exact .inl (status_interpret_of_blank ht w)
  by_cases hinterrupt : ((interpret line).run w).outcome = .error .interrupt
  · exact .inl (status_interpret_of_interrupt hinterrupt)
  by_cases hfails : Fails (Text.trim line) w
  · exact .inr (.inr (status_interpret_of_fails hfails))
  · exact .inr (.inl (status_interpret_of_not_fails ht hinterrupt hfails))

/-- Lines never leave a status but zero or one, if there was no other before them. -/
theorem status_interpretAll {w : World} (h : w.session.status = 0 ∨ w.session.status = 1)
    (lines : List String) :
    (interpretAll lines w).world.session.status = 0 ∨
      (interpretAll lines w).world.session.status = 1 := by
  induction lines generalizing w with
  | nil => exact h
  | cons line rest ih =>
    rw [world_interpretAll_cons]
    apply ih
    rcases status_interpret line w with hline | hline
    · rwa [hline]
    · exact hline

/-- **A line contains what goes wrong in it**, and the status tells how it went.  A line has a
result, or it is interrupted; the latter exactly if it says a command whose program is interrupted.
It leaves the shell exactly if it says a command of a builtin that leaves it.  Then the status is
what it was, if the line is blank or was interrupted; one, if it has no words or its command fails;
and zero otherwise.  So in a session that has been opened, the status is always zero or one. -/
theorem interpret_contained (line : String) (w : World) :
    let run := (interpret line).run w
    let text := Text.trim line
    ((∃ next, run.outcome = .ok next) ∨ run.outcome = .error .interrupt) ∧
    (run.outcome = .error .interrupt ↔
      ∃ command : Command, words text = .ok command.words ∧ command.Interrupted w) ∧
    (run.outcome = .ok .leave ↔
      ∃ (command : Command) (builtin : Builtin), words text = .ok command.words ∧
        w.builtins.get? command.name = some builtin ∧
        ((builtin.execute command.name command.arguments).run w).outcome = .ok .leave) ∧
    (text = "" ∨ run.outcome = .error .interrupt →
      run.world.session.status = w.session.status) ∧
    (Fails text w → run.world.session.status = 1) ∧
    (text ≠ "" → run.outcome ≠ .error .interrupt → ¬ Fails text w →
      run.world.session.status = 0) ∧
    ∀ (host : Host) (environment : Environment) (builtins : Registry) (start : World),
      World.start host environment builtins = .ok start →
      (∀ lines, (interpretAll lines start).world.session.status = 0 ∨
        (interpretAll lines start).world.session.status = 1) ∧
      ∀ prompt input, (converse prompt input start).world.session.status = 0 ∨
        (converse prompt input start).world.session.status = 1 := by
  dsimp only
  refine ⟨outcome_interpret line w, outcome_interpret_eq_interrupt_iff,
    outcome_interpret_eq_leave_iff, ?_, status_interpret_of_fails, status_interpret_of_not_fails,
    fun host environment builtins start hs ↦ ?_⟩
  · rintro (hblank | hinterrupt)
    · exact status_interpret_of_blank hblank w
    · exact status_interpret_of_interrupt hinterrupt
  · have hstatus : start.session.status = 0 := (World.start_eq_ok hs).2.2.2.2.1
    refine ⟨status_interpretAll (.inl hstatus), fun prompt input ↦ ?_⟩
    obtain ⟨reads, unread, hreads⟩ := Reading.exists_reads start input
    rw [converse_of_reads hreads]
    exact status_interpretAll (.inl hstatus) (Reading.lines reads)

/-- A pair of quotes is not blank, but it has no words.  There is nothing to do, which goes
well. -/
example (w : World) : ((interpret "\x27\x27").run w).world.session.status = 0 := rfl

end Line

end CommandShell
