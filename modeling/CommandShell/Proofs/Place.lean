import CommandShell.Proofs.Conduct

/-!
# Where a shell is

The process of a shell is in a directory, and the session takes itself to be in one.  Moving changes
first the one and then the other, and can fail in between.

* `changeDirectoryTo_undisturbed_iff` says when a `cd` that fails leaves everything where it was:
  always, but for a target that is entered and turns out to have been removed.
* `Leads.knows_place` says what is true in spite of this: wherever a shell has got to, the process
  either cannot learn where it is or is where the session takes itself to be, and that is where the
  last successful move led.

The second is proved by retracing: `World.retrace` repeats the moves of a trace, and nothing but
these moves has a say in where a shell is (`tracing_admits`).
-/

namespace CommandShell

namespace World

/-! ## A move that fails -/

/-- Nothing has changed in where the process is, in what it learns about that, in where the session
takes itself to be, and in how its last line went. -/
structure Undisturbed (before after : World) : Prop where
  /-- The process is where it was. -/
  directory : after.host.directory = before.host.directory
  /-- It learns about that what it learned before. -/
  whereabouts : after.host.whereabouts = before.host.whereabouts
  /-- The session takes itself to be where it was. -/
  place : after.session.directory = before.session.directory
  /-- The status is what it was. -/
  status : after.session.status = before.session.status

theorem Undisturbed.refl (w : World) : w.Undisturbed w := ⟨rfl, rfl, rfl, rfl⟩

/-- Being moved into a removed directory goes unnoticed only by a process that was in a removed
directory with the same path. -/
theorem undisturbed_withHost_iff {w : World} {moved : Host} (hr : moved.removed = true) :
    w.Undisturbed (w.withHost moved) ↔
      w.host.removed = true ∧ moved.directory = w.host.directory := by
  constructor
  · intro h
    refine ⟨?_, h.directory⟩
    have hw : w.host.whereabouts = .error (.noEntry none) :=
      h.whereabouts.symm.trans (Host.whereabouts_of_removed hr)
    cases hn : w.host.removed with
    | true => rfl
    | false =>
      rw [Host.whereabouts_of_not_removed hn] at hw
      cases hw
  · rintro ⟨hw, hd⟩
    exact ⟨hd, (Host.whereabouts_of_removed hr).trans (Host.whereabouts_of_removed hw).symm, rfl, rfl⟩

/-- **A failing `cd`** never changes the session.  It leaves the process where it was, too, unless
its target was entered and had been removed, and the process was not in such a place before. -/
theorem changeDirectoryTo_undisturbed_iff {arguments : List String} {w : World} {stop : Stop}
    (h : ((Builtin.changeDirectoryTo arguments).run w).outcome = .error stop) :
    ((Builtin.changeDirectoryTo arguments).run w).world.session = w.session ∧
    (w.Undisturbed ((Builtin.changeDirectoryTo arguments).run w).world ↔
      ∀ target moved, arguments = [target] → w.host.enter target = .ok moved →
        w.host.removed = true ∧ moved.directory = w.host.directory) := by
  by_cases hlen : arguments.length = 1
  · obtain ⟨target, rfl⟩ := List.length_eq_one_iff.1 hlen
    cases w.host.attempt target with
    | refused fault he =>
      rw [Builtin.run_changeDirectoryTo_refused he]
      refine ⟨rfl, iff_of_true (Undisturbed.refl w) ?_⟩
      rintro _ moved ⟨⟩ hok
      rw [he] at hok
      cases hok
    | lost moved he hr =>
      rw [Builtin.run_changeDirectoryTo_lost he hr]
      refine ⟨rfl, (undisturbed_withHost_iff hr).trans ⟨?_, fun hall ↦ hall target moved rfl he⟩⟩
      rintro hw _ other ⟨⟩ hok
      rw [he] at hok
      cases hok
      exact hw
    | arrived moved he hr =>
      rw [Builtin.run_changeDirectoryTo_arrived he hr] at h
      cases h
  · rw [Builtin.run_changeDirectoryTo_of_length_ne hlen]
    refine ⟨rfl, iff_of_true (Undisturbed.refl w) ?_⟩
    rintro target moved rfl
    exact absurd rfl hlen

/-- A `cd` to a missing directory fails and leaves everything where it was. -/
theorem changeDirectoryTo_undisturbed_missing :
    ((Builtin.changeDirectoryTo ["lost"]).run
      { host := Host.boot [] "/w", session := { environment := [], directory := "/w" } }).outcome =
        .error (.failure (.cannotEnter "lost" (.noEntry (some "lost")))) ∧
    World.Undisturbed
      { host := Host.boot [] "/w", session := { environment := [], directory := "/w" } }
      ((Builtin.changeDirectoryTo ["lost"]).run
        { host := Host.boot [] "/w", session := { environment := [], directory := "/w" } }).world := by
  refine ⟨rfl, (changeDirectoryTo_undisturbed_iff rfl).2.2 ?_⟩
  rintro _ moved ⟨⟩ hok
  cases hok

/-- A shell that has just been opened beside a directory that has been removed, and that can run a
program. -/
def besideRemoved : World :=
  { host := Host.boot
      [("/w/gone", { kind := .directory, removed := true }),
       ("/bin/say", { kind := .file, executable := true })]
      "/w"
    session := { environment := [("PATH", "/bin")], directory := "/w" } }

/-- The same shell once its process is in the removed directory. -/
def inRemoved : World :=
  besideRemoved.withHost { besideRemoved.host with directory := "/w/gone", removed := true }

/-- A `cd` that fails can disturb where the process is: it enters a directory that has been removed,
and stays there. -/
theorem not_changeDirectoryTo_undisturbed :
    ¬ ∀ (w : World) (arguments : List String) (stop : Stop), w.Reachable →
      ((Builtin.changeDirectoryTo arguments).run w).outcome = .error stop →
      w.Undisturbed ((Builtin.changeDirectoryTo arguments).run w).world := by
  intro h
  have hw : besideRemoved.Reachable :=
    .start (show World.start besideRemoved.host [("PATH", "/bin")] .standard = .ok besideRemoved
      from rfl)
  have he : besideRemoved.host.enter "gone" = .ok inRemoved.host := by rfl
  have hrun := Builtin.run_changeDirectoryTo_lost he rfl
  have hd := (h besideRemoved ["gone"] _ hw (congrArg Run.outcome hrun)).directory
  rw [hrun] at hd
  exact absurd hd (by decide)

/-! ## Places -/

/-- Two worlds have their process and their session in the same places. -/
structure SamePlace (a b : World) : Prop where
  /-- The hosts are the same. -/
  host : a.host = b.host
  /-- The sessions take themselves to be in the same directory. -/
  directory : a.session.directory = b.session.directory

theorem SamePlace.refl (w : World) : w.SamePlace w := ⟨rfl, rfl⟩

theorem SamePlace.trans {a b c : World} (h : a.SamePlace b) (h' : b.SamePlace c) : a.SamePlace c :=
  ⟨h.host.trans h'.host, h.directory.trans h'.directory⟩

/-- The session knows where the process is, as far as the process can learn it. -/
def Located (w : World) : Prop :=
  w.host.removed = true ∨ w.host.directory = w.session.directory

/-- A session that has just been opened knows where the process is. -/
theorem located_of_start {host : Host} {environment : Environment} {builtins : Registry} {w : World}
    (h : World.start host environment builtins = .ok w) : w.Located := by
  obtain ⟨-, hhost, hdirectory, -⟩ := start_eq_ok h
  exact .inr (by rw [hhost, hdirectory])

/-- Where a session knows its place, the process learns nothing else. -/
theorem Located.whereabouts {w : World} (h : w.Located) :
    w.host.removed = true ∧ w.host.whereabouts = .error (.noEntry none) ∨
      w.host.whereabouts = .ok w.session.directory := by
  cases hr : w.host.removed with
  | true => exact .inl ⟨rfl, Host.whereabouts_of_removed hr⟩
  | false =>
    have hd : w.host.directory = w.session.directory := h.resolve_left (by simp [hr])
    exact .inr (hd ▸ Host.whereabouts_of_not_removed hr)

theorem SamePlace.located {a b : World} (h : a.SamePlace b) (hb : b.Located) : a.Located := by
  rwa [Located, h.host, h.directory]

theorem SamePlace.moveTo {a b : World} (h : a.SamePlace b) (target : String) :
    ((Action.moveTo target).run a).world.SamePlace ((Action.moveTo target).run b).world := by
  have hhost := h.host
  cases b.host.attempt target with
  | refused fault he =>
    rw [Action.run_moveTo_refused he, Action.run_moveTo_refused (hhost ▸ he)]
    exact h
  | lost moved he hr =>
    rw [Action.run_moveTo_lost he hr, Action.run_moveTo_lost (hhost ▸ he) hr]
    exact ⟨rfl, h.directory⟩
  | arrived moved he hr =>
    rw [Action.run_moveTo_arrived he hr, Action.run_moveTo_arrived (hhost ▸ he) hr]
    exact ⟨rfl, rfl⟩

theorem SamePlace.outcome_moveTo {a b : World} (h : a.SamePlace b) (target : String) :
    ((Action.moveTo target).run a).outcome = ((Action.moveTo target).run b).outcome := by
  have hhost := h.host
  cases b.host.attempt target with
  | refused fault he => rw [Action.run_moveTo_refused he, Action.run_moveTo_refused (hhost ▸ he)]
  | lost moved he hr => rw [Action.run_moveTo_lost he hr, Action.run_moveTo_lost (hhost ▸ he) hr]
  | arrived moved he hr =>
    rw [Action.run_moveTo_arrived he hr, Action.run_moveTo_arrived (hhost ▸ he) hr]

/-- Moving leaves the session knowing its place, also where it fails. -/
theorem Located.moveTo {w : World} (h : w.Located) (target : String) :
    ((Action.moveTo target).run w).world.Located := by
  cases w.host.attempt target with
  | refused fault he => rwa [Action.run_moveTo_refused he]
  | lost moved he hr =>
    rw [Action.run_moveTo_lost he hr]
    exact .inl hr
  | arrived moved he hr =>
    rw [Action.run_moveTo_arrived he hr]
    exact .inr rfl

/-! ## Retracing -/

/-- The world after the moves of a trace.  Each move is made where those before it have led; nothing
else that the trace holds is repeated. -/
def retrace : World → List Event → World
  | w, [] => w
  | w, .enter target :: rest => retrace ((Action.moveTo target).run w).world rest
  | w, _ :: rest => retrace w rest

/-- What the successful moves of a trace answer, in order.  Each move is made where those before it
have led. -/
def arrivals : World → List Event → List String
  | _, [] => []
  | w, .enter target :: rest =>
    match ((Action.moveTo target).run w).outcome with
    | .ok directory => directory :: arrivals ((Action.moveTo target).run w).world rest
    | .error _ => arrivals ((Action.moveTo target).run w).world rest
  | w, _ :: rest => arrivals w rest

theorem retrace_append (w : World) (es es' : List Event) :
    w.retrace (es ++ es') = (w.retrace es).retrace es' := by
  induction es generalizing w with
  | nil => rfl
  | cons event es ih => cases event <;> exact ih _

theorem SamePlace.retrace {a b : World} (h : a.SamePlace b) (events : List Event) :
    (a.retrace events).SamePlace (b.retrace events) := by
  induction events generalizing a b with
  | nil => exact h
  | cons event events ih =>
    cases event with
    | enter target => exact ih (h.moveTo target)
    | _ => exact ih h

theorem Located.retrace {w : World} (h : w.Located) (events : List Event) :
    (w.retrace events).Located := by
  induction events generalizing w with
  | nil => exact h
  | cons event events ih =>
    cases event with
    | enter target => exact ih (h.moveTo target)
    | _ => exact ih h

/-- Retracing leaves the session where the last successful move has led. -/
theorem directory_retrace (w : World) (events : List Event) :
    (w.retrace events).session.directory = (w.arrivals events).getLastD w.session.directory := by
  induction events generalizing w with
  | nil => rfl
  | cons event events ih =>
    cases event with
    | enter target =>
      rw [retrace, arrivals, ih]
      cases w.host.attempt target with
      | refused fault he => rw [Action.run_moveTo_refused he]
      | lost moved he hr => rw [Action.run_moveTo_lost he hr]; rfl
      | arrived moved he hr => rw [Action.run_moveTo_arrived he hr, List.getLastD_cons]; rfl
    | _ => exact ih w

/-! ## Only moves have a say -/

/-- A trace accounts for where it leads: to the same place as its moves alone, and with every
program started where the moves before its start have led. -/
structure AccountsFor (a : World) (events : List Event) (b : World) : Prop where
  /-- The moves lead to where the shell is. -/
  place : b.SamePlace (a.retrace events)
  /-- Every program is started where the moves before its start have led. -/
  launches (before : List Event) (executable : String) (words : List String) (directory : String)
    (after : List Event) :
    events = before ++ .launch executable words directory :: after →
      directory = (a.retrace before).session.directory

/-- A trace that starts no program and does not move accounts for a world in the same place. -/
theorem AccountsFor.of_quiet {a b : World} {events : List Event} (hplace : b.SamePlace a)
    (hretrace : a.retrace events = a)
    (hlaunch : ∀ executable words directory, .launch executable words directory ∉ events) :
    a.AccountsFor events b where
  place := by rwa [hretrace]
  launches before executable words directory after h :=
    absurd (h ▸ List.mem_append_right before List.mem_cons_self)
      (hlaunch executable words directory)

/-- If two traces account for where they lead, so do they in a row. -/
theorem AccountsFor.append {a b c : World} {es es' : List Event} (h : a.AccountsFor es b)
    (h' : b.AccountsFor es' c) : a.AccountsFor (es ++ es') c where
  place := by
    rw [retrace_append]
    exact h'.place.trans (h.place.retrace es')
  launches before executable words directory after hsplit := by
    -- The start of the program lies in the second trace or in the first.
    rcases List.append_eq_append_iff.1 hsplit with ⟨rest, rfl, hes'⟩ | ⟨rest, hes, hrest⟩
    · rw [h'.launches rest executable words directory after hes', retrace_append]
      exact (h.place.retrace rest).directory
    · rcases rest with _ | ⟨event, rest⟩
      · rw [List.append_nil] at hes
        subst hes
        rw [h'.launches [] executable words directory after hrest.symm]
        exact h.place.directory
      · obtain ⟨rfl, rfl⟩ := List.cons.inj hrest
        exact h.launches before executable words directory rest hes

/-- To account for where one is led is a conduct. -/
def tracing : Conduct where
  allows := AccountsFor
  refl w := .of_quiet (.refl w) rfl (by simp)
  trans := AccountsFor.append

/-- Nothing but moves has a say in where a shell is. -/
theorem tracing_admits : tracing.AdmitsRequests where
  move target w := ⟨.refl _, by
    intro before executable words directory after h
    rcases List.singleton_eq_append_iff.1 h with ⟨_, h⟩ | ⟨_, h⟩ <;> cases h⟩
  launch executable words w := ⟨.refl w, by
    intro before executable' words' directory after h
    rcases List.singleton_eq_append_iff.1 h with ⟨rfl, h⟩ | ⟨_, h⟩
    · cases h
      rfl
    · cases h⟩
  call name arguments w := .of_quiet (.refl w) rfl (by simp)
  note text w := .of_quiet (.refl w) rfl (by simp)
  status status w := .of_quiet ⟨rfl, rfl⟩ rfl (by simp)
  environment environment w := .of_quiet ⟨rfl, rfl⟩ rfl (by simp)
  builtin name builtin w := .of_quiet ⟨rfl, rfl⟩ rfl (by simp)

/-- In every world in which a shell can be, the session knows where the process is. -/
theorem Reachable.located {w : World} (hw : w.Reachable) : w.Located := by
  obtain ⟨host, environment, builtins, start, events, hs, hl⟩ := hw.exists_leads
  exact (tracing_admits.leads hl).place.located ((located_of_start hs).retrace events)

/-- Whatever a shell has gone through, its next move turns out as it does where the moves so far have
led: what a retraced move answers is what it answered when it was made. -/
theorem Leads.outcome_moveTo {start w : World} {events : List Event} (hl : start.Leads events w)
    (target : String) :
    ((Action.moveTo target).run w).outcome =
      ((Action.moveTo target).run (start.retrace events)).outcome :=
  (tracing_admits.leads hl).place.outcome_moveTo target

/-- **The session knows where it is.**  Whatever a shell has gone through since its session was
opened on a host, its process either sits in a removed directory and cannot learn where it is, or is
where the session takes itself to be.  The session is in the directory that its last successful
move has answered, and every program was started in the directory that the last successful move
before its start has answered; where there was no such move it is the directory in which the session
was opened. -/
theorem Leads.knows_place {host : Host} {environment : Environment} {builtins : Registry}
    {start : World} (hs : World.start host environment builtins = .ok start) {events : List Event}
    {w : World} (hl : start.Leads events w) :
    (w.host.removed = true ∧ w.host.whereabouts = .error (.noEntry none) ∨
      w.host.whereabouts = .ok w.session.directory) ∧
    w.host = (start.retrace events).host ∧
    w.session.directory = (start.arrivals events).getLastD host.directory ∧
    ∀ before executable words directory after,
      events = before ++ .launch executable words directory :: after →
        directory = (start.arrivals before).getLastD host.directory := by
  have hstart : start.session.directory = host.directory := (start_eq_ok hs).2.2.1
  have htrace : start.AccountsFor events w := tracing_admits.leads hl
  refine ⟨?_, htrace.place.host, ?_, fun before executable words directory after hsplit ↦ ?_⟩
  · exact (htrace.place.located ((located_of_start hs).retrace events)).whereabouts
  · rw [htrace.place.directory, directory_retrace, hstart]
  · rw [htrace.launches before executable words directory after hsplit, directory_retrace, hstart]

/-- A shell whose process has got into a removed directory still runs programs where its session
is. -/
theorem Leads.knows_place_inRemoved :
    World.start besideRemoved.host [("PATH", "/bin")] .standard = .ok besideRemoved ∧
    besideRemoved.Leads [.enter "gone", .launch "/bin/say" ["say"] "/w"] inRemoved ∧
    (inRemoved.host.removed = true ∧ inRemoved.host.whereabouts = .error (.noEntry none) ∨
      inRemoved.host.whereabouts = .ok inRemoved.session.directory) ∧
    "/w" = (besideRemoved.arrivals [.enter "gone"]).getLastD "/w" := by
  have hs : World.start besideRemoved.host [("PATH", "/bin")] .standard = .ok besideRemoved := rfl
  have hl : besideRemoved.Leads [.enter "gone", .launch "/bin/say" ["say"] "/w"] inRemoved :=
    (Leads.refl.answer (.moveTo "gone") []).answer (.interpret "say") []
  have h := Leads.knows_place hs hl
  exact ⟨hs, hl, h.1, h.2.2.2 [.enter "gone"] "/bin/say" ["say"] "/w" [] rfl⟩

end World

end CommandShell
