import CommandShell.Proofs.Options
import CommandShell.Proofs.Trace
import CommandShell.Program

/-!
# How a run of the program goes

A run takes one of five courses: it shows the help text, refuses its arguments, finds that no session
can be opened, runs one line, or converses (`Program.Course`).  `Program.Takes` says which course it
is, by what the arguments set and by what the program finds, and `Program.Course.Shows` says what is
to be seen of the run.  `Program.run_shows_one_course` is that every run takes exactly one course, and
shows it.

The program converses by reading lines, or runs one line that is given to it as an argument.
`Program.run_command_agrees` compares the two ways to run a line.  Both rest on `Program.run_runOne`:
the exit code of a line is the status that the line leaves.
-/

namespace CommandShell

/-- A session cannot be opened exactly where the process cannot learn where it is. -/
theorem World.start_eq_error_iff {host : Host} {environment : Environment} {builtins : Registry}
    {fault : Fault} :
    World.start host environment builtins = .error fault ↔ host.whereabouts = .error fault := by
  unfold World.start
  cases host.whereabouts <;> simp

/-! ## One line -/

namespace Line

/-- A line that leaves the shell leaves the status zero. -/
theorem status_interpret_of_leave {line : String} {w : World}
    (h : ((interpret line).run w).outcome = .ok .leave) :
    ((interpret line).run w).world.session.status = 0 := by
  have ht : Text.trim line ≠ "" := by
    intro ht
    rw [interpret_of_trim_eq_empty ht] at h
    cases h
  have hfails : ¬ Fails (Text.trim line) w := by
    rw [outcome_interpret_eq, Run.outcome_settled_eq_leave_iff] at h
    rw [fails_iff, h]
    simp
  exact status_interpret_of_not_fails ht (by simp [h]) hfails

/-- In a session that has just been opened a line that does not fail leaves the status zero. -/
theorem status_interpret_of_start {host : Host} {environment : Environment} {builtins : Registry}
    {w : World} (hstart : World.start host environment builtins = .ok w) {line : String}
    (hfails : ¬ Fails (Text.trim line) w) :
    ((interpret line).run w).world.session.status = 0 := by
  have hstatus : w.session.status = 0 := (World.start_eq_ok hstart).2.2.2.2.1
  by_cases ht : Text.trim line = ""
  · rw [status_interpret_of_blank ht, hstatus]
  by_cases hinterrupt : ((interpret line).run w).outcome = .error .interrupt
  · rw [status_interpret_of_interrupt hinterrupt, hstatus]
  · exact status_interpret_of_not_fails ht hinterrupt hfails

end Line

namespace Program

/-- The exit code of a line is the status that it leaves. -/
theorem run_runOne (line : String) (w : World) :
    (runOne line).run w =
      ⟨((Line.interpret line).run w).outcome.map fun _ ↦
          ((Line.interpret line).run w).world.session.status,
        ((Line.interpret line).run w).events, ((Line.interpret line).run w).world⟩ := by
  have hleave := @Line.status_interpret_of_leave line w
  rcases hrun : (Line.interpret line).run w with ⟨stop | next, events, left⟩
  · rw [runOne, Action.run_bind_of_error hrun]
    rfl
  · rw [runOne, Action.run_bind_of_ok hrun]
    cases next with
    | proceed => simp [Action.run_map, Except.map]
    | leave =>
      have hstatus : left.session.status = 0 := by simpa [hrun] using hleave
      simp [Except.map, success, hstatus]

/-! ## Courses -/

/-- The ways in which a run of the program can go. -/
inductive Course where
  /-- The help text is shown. -/
  | help
  /-- The arguments are refused. -/
  | refusal (error : UsageError)
  /-- No session can be opened. -/
  | closed (fault : Fault)
  /-- One line is run, in the world of a session that has just been opened. -/
  | line (world : World) (line : String)
  /-- Lines are read and run, from the world of a session that has just been opened. -/
  | conversation (world : World) (prompt : String)

/-- A run with the given arguments takes a course. -/
inductive Takes (arguments : List String) (surroundings : Surroundings) : Course → Prop
  /-- The arguments ask for help. -/
  | help : Invocation.Helps surroundings.helpRules arguments → Takes arguments surroundings .help
  /-- The arguments are refused. -/
  | refusal {error : UsageError} :
    Invocation.Refused surroundings.helpRules arguments error →
      Takes arguments surroundings (.refusal error)
  /-- The arguments are accepted, and the process cannot learn where it is. -/
  | closed {given : List (Setting × String)} {fault : Fault} :
    Invocation.Accepted arguments given → surroundings.host.whereabouts = .error fault →
      Takes arguments surroundings (.closed fault)
  /-- The arguments are accepted and give a line.  Of several lines the last counts. -/
  | line {given : List (Setting × String)} {world : World} {line : String} :
    Invocation.Accepted arguments given →
      World.start surroundings.host surroundings.environment surroundings.builtins = .ok world →
      (Setting.command.valuesIn given).getLast? = some line →
      Takes arguments surroundings (.line world line)
  /-- The arguments are accepted and give no line.  Of several prompts the last counts. -/
  | conversation {given : List (Setting × String)} {world : World} :
    Invocation.Accepted arguments given →
      World.start surroundings.host surroundings.environment surroundings.builtins = .ok world →
      Setting.command.valuesIn given = [] →
      Takes arguments surroundings
        (.conversation world ((Setting.prompt.valuesIn given).getLast?.getD standardPrompt))

/-- What is to be seen of a run that takes a course. -/
def Course.Shows (surroundings : Surroundings) (completion : Completion) : Course → Prop
  -- The run ends well and writes the help text.  Nothing else takes place.
  | help =>
    completion =
      { outcome := .ok 0, events := [.write .output Usage.help], host := surroundings.host
        unread := surroundings.input }
  -- The run writes what is wrong with the arguments.  Nothing else takes place.
  | refusal error =>
    completion =
      { outcome := .ok 2, events := [.write .diagnostics (Usage.complaint error)]
        host := surroundings.host, unread := surroundings.input }
  -- The run ends with the fault.  Nothing takes place.
  | closed fault =>
    completion =
      { outcome := .error (.fault fault), events := [], host := surroundings.host
        unread := surroundings.input }
  -- What takes place is the line, and the exit code tells whether it failed.  Nothing is read.
  | line world text =>
    let run := (Line.interpret text).run world
    completion.events = run.events ∧ completion.host = run.world.host ∧
    completion.unread = surroundings.input ∧
    (completion.outcome = .ok 1 ↔ Line.Fails (Text.trim text) world) ∧
    (completion.outcome = .error .interrupt ↔ run.outcome = .error .interrupt) ∧
    (completion.outcome = .ok 0 ↔
      ¬ Line.Fails (Text.trim text) world ∧ run.outcome ≠ .error .interrupt)
  -- What takes place is the conversation, and the run ends well.
  | conversation world prompt =>
    let exchange := converse prompt surroundings.input world
    completion =
      { outcome := .ok 0, events := exchange.events, host := exchange.world.host
        unread := exchange.unread }

/-- The course of a run that has got as far as its settings. -/
def Course.ofSettings (surroundings : Surroundings) (settings : Settings) : Course :=
  match World.start surroundings.host surroundings.environment surroundings.builtins with
  | .error fault => .closed fault
  | .ok world =>
    match settings.command with
    | some text => .line world text
    | none => .conversation world settings.prompt

/-- The course of a run whose arguments ask for something. -/
def Course.ofInvocation (surroundings : Surroundings) : Except UsageError Invocation → Course
  | .error error => .refusal error
  | .ok .help => .help
  | .ok (.run settings) => .ofSettings surroundings settings

variable {arguments : List String} {surroundings : Surroundings}

theorem takes_of_accepted {given : List (Setting × String)}
    (h : Invocation.Accepted arguments given) :
    Takes arguments surroundings (.ofSettings surroundings (({} : Settings).setAll given)) := by
  unfold Course.ofSettings
  rcases hstart : World.start surroundings.host surroundings.environment surroundings.builtins with
    fault | world
  · exact .closed h (World.start_eq_error_iff.1 hstart)
  · rw [Settings.command_setAll, Settings.prompt_setAll]
    rcases hcommand : (Setting.command.valuesIn given).getLast? with _ | text
    · exact .conversation h hstart (List.getLast?_eq_none_iff.1 hcommand)
    · exact .line h hstart hcommand

/-- A run takes the course that its arguments ask for, and no other. -/
theorem takes_iff {course : Course} :
    Takes arguments surroundings course ↔
      course =
        .ofInvocation surroundings (Invocation.ofTexts surroundings.helpRules arguments) := by
  constructor
  · rintro (h | h | ⟨h, hfault⟩ | ⟨h, hstart, hcommand⟩ | ⟨h, hstart, hcommand⟩)
    · rw [Invocation.ofTexts_of_helps h, Course.ofInvocation]
    · rw [Invocation.ofTexts_of_refused h, Course.ofInvocation]
    · rw [Invocation.ofTexts_of_accepted h, Course.ofInvocation, Course.ofSettings,
        World.start_eq_error_iff.2 hfault]
    · simp [Invocation.ofTexts_of_accepted h, Course.ofInvocation, Course.ofSettings, hstart,
        Settings.command_setAll, hcommand]
    · simp [Invocation.ofTexts_of_accepted h, Course.ofInvocation, Course.ofSettings, hstart,
        Settings.command_setAll, Settings.prompt_setAll, hcommand]
  · rintro rfl
    rcases Invocation.helps_or_refused_or_accepted surroundings.helpRules arguments with
      h | ⟨error, h⟩ | ⟨given, h⟩
    · rw [Invocation.ofTexts_of_helps h]
      exact .help h
    · rw [Invocation.ofTexts_of_refused h]
      exact .refusal h
    · rw [Invocation.ofTexts_of_accepted h]
      exact takes_of_accepted h

/-- A line that is run shows whether it failed. -/
theorem shows_runOne {world : World}
    (hstart : World.start surroundings.host surroundings.environment surroundings.builtins =
      .ok world) (text : String) :
    (Course.line world text).Shows surroundings
      { outcome := ((runOne text).run world).outcome, events := ((runOne text).run world).events
        host := ((runOne text).run world).world.host, unread := surroundings.input } := by
  rw [run_runOne]
  unfold Course.Shows
  dsimp only
  refine ⟨rfl, rfl, rfl, ?_⟩
  rcases Line.outcome_interpret text world with ⟨next, hout⟩ | hout
  · rw [hout]
    by_cases hfails : Line.Fails (Text.trim text) world
    · simp [Except.map, Line.status_interpret_of_fails hfails, hfails]
    · simp [Except.map, Line.status_interpret_of_start hstart hfails, hfails]
  · have hfails : ¬ Line.Fails (Text.trim text) world := Line.not_fails_of_interrupt hout
    simp [Except.map, hout, hfails]

/-- A run shows the course that its settings ask for. -/
theorem shows_runWith (surroundings : Surroundings) (settings : Settings) :
    (Course.ofSettings surroundings settings).Shows surroundings
      (runWith surroundings settings) := by
  unfold Course.ofSettings runWith
  rcases hstart : World.start surroundings.host surroundings.environment surroundings.builtins with
    fault | world
  · rfl
  · unfold runIn
    rcases settings.command with _ | text
    · simp only [Course.Shows, outcome_converse]
    · dsimp only
      exact shows_runOne hstart text

/-- A run shows the course that its arguments ask for. -/
theorem shows_run (arguments : List String) (surroundings : Surroundings) :
    (Course.ofInvocation surroundings
      (Invocation.ofTexts surroundings.helpRules arguments)).Shows surroundings
      (run arguments surroundings) := by
  unfold run
  rcases Invocation.ofTexts surroundings.helpRules arguments with error | _ | settings
  · rfl
  · rfl
  · exact shows_runWith surroundings settings

/-- **How a run of the program goes.**  It takes exactly one course, by what its arguments set and by
what it finds, and it shows that course: it writes the help text and ends well; or it writes what is
wrong with the arguments; or it ends with the fault for which no session can be opened; or it runs
the last line that it was given, and its exit code tells whether that line failed, unless the line was
interrupted; or it converses, with the last prompt that it was given, and ends well.  This holds
whichever rules there are for what is attached to a request for help; they only matter to the first
two courses. -/
theorem run_shows_one_course (arguments : List String) (surroundings : Surroundings) :
    ∃ course,
      Takes arguments surroundings course ∧
      (∀ other, Takes arguments surroundings other → other = course) ∧
      course.Shows surroundings (run arguments surroundings) :=
  ⟨_, takes_iff.2 rfl, fun _ ↦ takes_iff.1, shows_run arguments surroundings⟩

/-! ## One line in two ways -/

/-- A run that is given a line runs it in the session that it opens. -/
theorem run_of_accepted_line {world : World} {text : String}
    (h : Invocation.Accepted arguments [(.command, text)])
    (hstart : World.start surroundings.host surroundings.environment surroundings.builtins =
      .ok world) :
    run arguments surroundings =
      { outcome := ((Line.interpret text).run world).outcome.map fun _ ↦
          ((Line.interpret text).run world).world.session.status
        events := ((Line.interpret text).run world).events
        host := ((Line.interpret text).run world).world.host
        unread := surroundings.input } := by
  have hsettings : (({} : Settings).setAll [(.command, text)]).command = some text := rfl
  simp only [run, Invocation.ofTexts_of_accepted h, runWith, hstart, runIn, hsettings, run_runOne]

/-- A conversation of one line that leaves the shell is the prompt and the line. -/
theorem converse_line_of_leave {text : String} (hne : text ≠ "") {w : World}
    (h : ((Line.interpret text).run w).outcome = .ok .leave) (prompt : String) :
    converse prompt [.text text] w =
      { outcome := .ok 0
        events := .write .diagnostics prompt :: ((Line.interpret text).run w).events
        world := ((Line.interpret text).run w).world, unread := [] } := by
  have hstop : (Reading.text text).Stops w := Or.inr h
  rw [converse_cons_of_stops hstop]
  simp [Reading.trace, Reading.interpretAll_text hne, Reading.breaksLine, hne,
    Run.isInterrupted_of_ok h]

/-- A conversation of any other line goes on with the end of the input. -/
theorem converse_line_of_ne_leave {text : String} (hne : text ≠ "") {w : World}
    (h : ((Line.interpret text).run w).outcome ≠ .ok .leave) (prompt : String) :
    converse prompt [.text text] w =
      { outcome := .ok 0
        events := .write .diagnostics prompt :: ((Line.interpret text).run w).events ++
          (if ((Line.interpret text).run w).isInterrupted then [lineEnd] else []) ++
            [.write .diagnostics prompt, lineEnd]
        world := ((Line.interpret text).run w).world, unread := [] } := by
  have hstop : ¬ (Reading.text text).Stops w := not_or.2 ⟨hne, h⟩
  rw [converse_cons_of_not_stops hstop, converse_nil]
  simp [Exchange.after, Run.after, Reading.trace, Reading.interpretAll_text hne, Reading.ended,
    Reading.breaksLine, hne]

/-- **A line that is given and a line that is read do the same.**  Take a run whose one argument is
the short switch with a line at once after it, and a conversation in the same world whose input is
that line.  Both have the same effects and leave the process in the same place, and the run reads
nothing.  If the line is not interrupted, the exit code of the run is the status that the conversation
leaves, and the conversation writes the prompt, what the run writes, and, if the line does not leave
the shell, the prompt and the end of the line.  If it is interrupted, so is the run, but not the
conversation. -/
theorem run_command_agrees {text : String} (hne : text ≠ "")
    (hequals : text.toList.head? ≠ some '=') {surroundings : Surroundings} {world : World}
    (hstart : World.start surroundings.host surroundings.environment surroundings.builtins =
      .ok world) :
    let completion := run ["-c" ++ text] surroundings
    let conversation := converse standardPrompt [.text text] world
    let outcome := ((Line.interpret text).run world).outcome
    Event.effects completion.events = Event.effects conversation.events ∧
    completion.host = conversation.world.host ∧
    completion.unread = surroundings.input ∧
    conversation.outcome = .ok 0 ∧
    ((∃ next, outcome = .ok next) ∨ outcome = .error .interrupt) ∧
    (∀ next, outcome = .ok next →
      completion.outcome = .ok conversation.world.session.status ∧
      Event.textOn .diagnostics conversation.events =
        standardPrompt ++ Event.textOn .diagnostics completion.events ++
          if next = .leave then "" else standardPrompt ++ "\n") ∧
    (outcome = .error .interrupt → completion.outcome = .error .interrupt) := by
  have hrun : run ["-c" ++ text] surroundings = _ :=
    run_of_accepted_line (Invocation.accepted_command hne hequals) hstart
  dsimp only
  rw [hrun]
  rcases Line.outcome_interpret text world with ⟨_ | _, hout⟩ | hout
  · rw [converse_line_of_ne_leave hne (by simp [hout]), Run.isInterrupted_of_ok hout, hout]
    simp [Event.textOn, Except.map, lineEnd, String.append_assoc]
  · rw [converse_line_of_leave hne hout, hout]
    simp [Event.textOn, Except.map]
  · rw [converse_line_of_ne_leave hne (by simp [hout]), Run.isInterrupted_of_interrupt hout, hout]
    simp [Event.textOn, Except.map, lineEnd]

/-- A shell that has just been opened beside a program that ends with a code. -/
def besideFailing : World :=
  { host := Host.boot
      [("/bin/help", { kind := .file, executable := true, launch := some (.ok (.exited 7)) })] "/w"
    session := { environment := [("PATH", "/bin")], directory := "/w" } }

/-- What a program finds on the same host, with a line in its input. -/
def onFailingHost : Surroundings :=
  { host := besideFailing.host, environment := [("PATH", "/bin")], input := [.text "exit"] }

/-- A line that begins with the letter of a switch, and fails because its program does. -/
theorem run_command_agrees_failing :
    "help me" ≠ "" ∧ "help me".toList.head? ≠ some '=' ∧
    World.start onFailingHost.host onFailingHost.environment onFailingHost.builtins =
      .ok besideFailing ∧
    ((Line.interpret "help me").run besideFailing).outcome = .ok .proceed ∧
    (run ["-c" ++ "help me"] onFailingHost).outcome = .ok 1 ∧
    (run ["-c" ++ "help me"] onFailingHost).unread = [.text "exit"] ∧
    Event.textOn .diagnostics (converse standardPrompt [.text "help me"] besideFailing).events =
      standardPrompt ++ Event.textOn .diagnostics (run ["-c" ++ "help me"] onFailingHost).events ++
        (standardPrompt ++ "\n") := by
  have hne : "help me" ≠ "" := by decide
  have hequals : "help me".toList.head? ≠ some '=' := by decide
  have hstart : World.start onFailingHost.host onFailingHost.environment onFailingHost.builtins =
      .ok besideFailing := rfl
  have hout : ((Line.interpret "help me").run besideFailing).outcome = .ok .proceed := rfl
  obtain ⟨-, -, hunread, -, -, hnext, -⟩ := run_command_agrees hne hequals hstart
  obtain ⟨hcode, htext⟩ := hnext .proceed hout
  exact ⟨hne, hequals, hstart, hout, hcode, hunread, htext⟩

end Program

end CommandShell
