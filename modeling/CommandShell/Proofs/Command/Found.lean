import CommandShell.Proofs.Outcome
import CommandShell.Proofs.Place

/-!
# What is found is what is run

A program is looked for from where the process is, and it is started from where the session takes
itself to be.  In every world in which a shell can be these are the same place, unless the process
has got into a removed directory (`World.Reachable.located`).  So what was found to be a program is
what is started.

`Reachable.launches_what_was_found` says this, and what is left to go wrong: what is laid down for
that very program, and texts that no system call takes.
-/

namespace CommandShell

/-! ## The name in the path -/

/-- Where a file of a given name would be ends in that name. -/
theorem Path.suffix_inDirectory (directory name : String) :
    name.toList <:+ (inDirectory directory name).toList := by
  unfold inDirectory beneath
  split
  · exact List.suffix_refl _
  · split
    · rw [String.toList_append]
      exact List.suffix_append _ _
    · rw [String.toList_append]
      exact List.suffix_append _ _

namespace Search

variable {w : World} {name path : String}

/-- The path of a program ends in the name that stands for it. -/
theorem suffix_of_program? (h : program? w name = some path) : name.toList <:+ path.toList := by
  cases hn : Path.hasSeparator name with
  | true =>
    rw [program?_of_hasSeparator hn] at h
    cases h
    exact List.suffix_refl _
  | false =>
    rw [program?_of_not_hasSeparator hn] at h
    obtain ⟨entry, -, rfl⟩ := List.mem_map.1 (List.mem_of_find?_eq_some h)
    exact Path.suffix_inDirectory _ _

/-- If a name holds the character with number zero, so does the path of its program. -/
theorem holdsNull_of_program? (h : program? w name = some path)
    (hname : Host.holdsNull name = true) : Host.holdsNull path = true := by
  simp only [Host.holdsNull, decide_eq_true_eq] at hname ⊢
  exact (suffix_of_program? h).mem hname

end Search

/-! ## Starting a program -/

/-- How a program ends: as it is laid down, and well where nothing is. -/
def Entry.ending (entry : Entry) : Except Fault Ending := entry.launch.getD (.ok (.exited 0))

/-- One of the texts with which a program is started holds the character with number zero. -/
def Command.HoldsNull (executable directory : String) (arguments : List String) : Prop :=
  Host.holdsNull executable = true ∨ Host.holdsNull directory = true ∨
    ∃ argument ∈ arguments, Host.holdsNull argument = true

namespace Host

variable {host : Host} {executable directory : String} {words : List String}

/-- No program is started with the character with number zero. -/
theorem launch_of_holdsNull (h : Command.HoldsNull executable directory words) :
    host.launch executable words directory = .error .embeddedNull := by
  have hnull : (holdsNull executable || holdsNull directory || words.any holdsNull) = true := by
    simpa [Command.HoldsNull, or_assoc] using h
  simp [launch, hnull]

/-- Without it, a file that may be run ends as it is laid down. -/
theorem launch_of_isProgram (h : ¬ Command.HoldsNull executable directory words) {entry : Entry}
    (he : host.entry? directory executable = some entry) (hp : entry.isProgram = true) :
    host.launch executable words directory = entry.ending.mapError (Fault.about executable) := by
  have hnull : (holdsNull executable || holdsNull directory || words.any holdsNull) = false := by
    simpa [Command.HoldsNull, not_or, and_assoc] using h
  cases hl : entry.launch with
  | none =>
    have hending : entry.ending.mapError (Fault.about executable) = .ok (.exited 0) := by
      rw [Entry.ending, hl]
      rfl
    simp [launch, hnull, he, hl, hp, hending]
  | some result => simp [launch, hnull, he, hl, Entry.ending]

end Host

namespace Command

theorem cannotStart_inj {fault fault' : Fault} :
    Failure.cannotStart fault = .cannotStart fault' ↔ fault = fault' :=
  ⟨fun h ↦ Option.some.inj (congrArg Failure.cause h), congrArg Failure.cannotStart⟩

/-- A command cannot start its program exactly if the start meets a fault. -/
theorem verdict_eq_cannotStart_iff {ending : Except Fault Ending} {fault : Fault} :
    verdict ending = .error (.failure (.cannotStart fault)) ↔ ending = .error fault := by
  rcases ending with fault' | code | _
  · simp [verdict, cannotStart_inj]
  · have hkind : Failure.exitedWith (toldCode code) ≠ .cannotStart fault := by
      intro h
      cases congrArg Failure.kind h
    by_cases hc : code = 0 <;> simp [verdict, hc, hkind]
  · simp [verdict]

/-- That the name of a command is among its words makes no difference: its program ends in it. -/
theorem holdsNull_words_iff {command : Command} {w : World} {executable directory : String}
    (h : Search.program? w command.name = some executable) :
    HoldsNull executable directory command.words ↔
      HoldsNull executable directory command.arguments := by
  have hname : Host.holdsNull command.name = true → Host.holdsNull executable = true :=
    Search.holdsNull_of_program? h
  constructor
  · rintro (hnull | hnull | ⟨word, hmem, hnull⟩)
    · exact .inl hnull
    · exact .inr (.inl hnull)
    · rcases List.mem_cons.1 hmem with rfl | hmem
      · exact .inl (hname hnull)
      · exact .inr (.inr ⟨word, hmem, hnull⟩)
  · rintro (hnull | hnull | ⟨argument, hmem, hnull⟩)
    · exact .inl hnull
    · exact .inr (.inl hnull)
    · exact .inr (.inr ⟨argument, List.mem_cons_of_mem _ hmem, hnull⟩)

end Command

section MapError

variable {ε ε' α : Type} {f : ε → ε'} {result : Except ε α}

theorem mapError_eq_error_iff {e' : ε'} :
    result.mapError f = .error e' ↔ ∃ e, result = .error e ∧ e' = f e := by
  cases result with
  | error e =>
    constructor
    · rintro ⟨⟩
      exact ⟨e, rfl, rfl⟩
    · rintro ⟨_, ⟨⟩, rfl⟩
      rfl
  | ok a =>
    constructor
    · rintro ⟨⟩
    · rintro ⟨_, ⟨⟩, -⟩

theorem mapError_eq_ok_iff {a : α} : result.mapError f = .ok a ↔ result = .ok a := by
  cases result with
  | error e => exact ⟨nofun, nofun⟩
  | ok b =>
    constructor
    · rintro ⟨⟩
      rfl
    · rintro ⟨⟩
      rfl

end MapError

namespace Entry

variable {entry : Entry}

theorem ending_eq_error_iff {fault : Fault} :
    entry.ending = .error fault ↔ entry.launch = some (.error fault) := by
  cases h : entry.launch <;> simp [ending, h]

theorem ending_eq_interrupted_iff :
    entry.ending = .ok .interrupted ↔ entry.launch = some (.ok .interrupted) := by
  cases h : entry.launch <;> simp [ending, h]

end Entry

namespace World

/-- Where the process learns its place, the session is there. -/
theorem Reachable.directory_eq {w : World} (hw : w.Reachable) {here : String}
    (hhere : w.host.whereabouts = .ok here) : w.host.directory = w.session.directory := by
  obtain ⟨hr, -⟩ := Host.whereabouts_eq_ok.1 hhere
  exact hw.located.resolve_left (by simp [hr])

/-- **What is found is what is run.**  Wherever a shell can be whose process learns its place, if a
name that is no path stands for a program, then exactly this program is started for it, once, and
where it is started its path leads to the very entry that was looked at: a file that may be run.  So
it cannot be started only if one of the texts holds the character with number zero, or the entry
itself lays down a fault, and it is interrupted only if the entry lays that down. -/
theorem Reachable.launches_what_was_found {w : World} (hw : w.Reachable) {here : String}
    (hhere : w.host.whereabouts = .ok here) {command : Command}
    (hname : Path.hasSeparator command.name = false) {executable : String}
    (hfound : Search.program? w command.name = some executable) :
    Event.effects (command.runExternal.run w).events =
      [.launch executable command.words w.session.directory] ∧
    Path.resolve w.session.directory executable = Path.resolve w.host.directory executable ∧
    ∃ entry,
      w.host.entry? w.host.directory executable = some entry ∧
      w.host.entry? w.session.directory executable = some entry ∧
      entry.kind = .file ∧ entry.executable = true ∧
      (∀ fault, (command.runExternal.run w).outcome = .error (.failure (.cannotStart fault)) ↔
        Command.HoldsNull executable w.session.directory command.arguments ∧
            fault = .embeddedNull ∨
          ¬ Command.HoldsNull executable w.session.directory command.arguments ∧
            ∃ prescribed, entry.launch = some (.error prescribed) ∧
              fault = prescribed.about executable) ∧
      ((command.runExternal.run w).outcome = .error .interrupt ↔
        ¬ Command.HoldsNull executable w.session.directory command.arguments ∧
          entry.launch = some (.ok .interrupted)) := by
  have hplace : w.host.directory = w.session.directory := hw.directory_eq hhere
  obtain ⟨entry, he, hp⟩ := Host.isProgram_iff.1 (Search.isProgram_of_program? hname hfound)
  have hsession : w.host.entry? w.session.directory executable = some entry := by rwa [← hplace]
  obtain ⟨hkind, hexecutable⟩ := Entry.isProgram_iff.1 hp
  have hwords : Command.HoldsNull executable w.session.directory command.words ↔
      Command.HoldsNull executable w.session.directory command.arguments :=
    Command.holdsNull_words_iff hfound
  rw [Command.run_runExternal_of_some hfound]
  refine ⟨by simp, by rw [hplace], entry, he, hsession, hkind, hexecutable, fun fault ↦ ?_, ?_⟩
  · rw [Command.verdict_eq_cannotStart_iff]
    by_cases hnull : Command.HoldsNull executable w.session.directory command.arguments
    · rw [Host.launch_of_holdsNull (hwords.2 hnull)]
      simp [hnull, eq_comm]
    · rw [Host.launch_of_isProgram (mt hwords.1 hnull) hsession hp, mapError_eq_error_iff]
      simp [hnull, Entry.ending_eq_error_iff]
  · rw [Command.verdict_eq_interrupt_iff]
    by_cases hnull : Command.HoldsNull executable w.session.directory command.arguments
    · rw [Host.launch_of_holdsNull (hwords.2 hnull)]
      simp [hnull]
    · rw [Host.launch_of_isProgram (mt hwords.1 hnull) hsession hp,
        mapError_eq_ok_iff, Entry.ending_eq_interrupted_iff]
      simp [hnull]

/-- A shell that has just been opened, whose search path has an empty entry and a relative one,
beside a directory with a program in it. -/
def besidePrograms : World :=
  { host := Host.boot
      [("/w/sub", { kind := .directory }),
       ("/w/sub/bin/say",
        { kind := .file, executable := true, launch := some (.ok .interrupted) })]
      "/w"
    session := { environment := [("PATH", ":bin")], directory := "/w" } }

/-- The same shell once it has moved to that directory. -/
def amongPrograms : World :=
  (besidePrograms.withHost { besidePrograms.host with directory := "/w/sub" }).withDirectory "/w/sub"

/-- After a move, a program that is found under a relative path is started under the same path. -/
theorem Reachable.launches_what_was_found_relative :
    amongPrograms.Reachable ∧ amongPrograms.host.whereabouts = .ok "/w/sub" ∧
    Path.hasSeparator "say" = false ∧ Search.program? amongPrograms "say" = some "bin/say" ∧
    Event.effects ((Command.mk "say" ["so"]).runExternal.run amongPrograms).events =
      [.launch "bin/say" ["say", "so"] "/w/sub"] ∧
    ((Command.mk "say" ["so"]).runExternal.run amongPrograms).outcome = .error .interrupt := by
  have hw : amongPrograms.Reachable :=
    .answer (.moveTo "sub") [] (.start (show World.start besidePrograms.host [("PATH", ":bin")]
      .standard = .ok besidePrograms from rfl))
  have hhere : amongPrograms.host.whereabouts = .ok "/w/sub" := rfl
  have hname : Path.hasSeparator "say" = false := by decide
  have hfound : Search.program? amongPrograms "say" = some "bin/say" := by decide
  obtain ⟨heffects, -, entry, he, -, -, -, -, hinterrupt⟩ :=
    hw.launches_what_was_found hhere
      (show Path.hasSeparator (Command.mk "say" ["so"]).name = false from hname) hfound
  have hentry : amongPrograms.host.entry? amongPrograms.host.directory "bin/say" =
      some { kind := .file, executable := true, launch := some (.ok .interrupted) } := by
    rfl
  obtain rfl := Option.some.inj (he.symm.trans hentry)
  refine ⟨hw, hhere, hname, hfound, heffects, hinterrupt.2 ⟨?_, rfl⟩⟩
  rintro (hnull | hnull | ⟨argument, hmem, hnull⟩)
  · exact absurd hnull (by decide)
  · exact absurd hnull (by decide)
  · obtain rfl := List.mem_singleton.1 hmem
    exact absurd hnull (by decide)

end World

end CommandShell
