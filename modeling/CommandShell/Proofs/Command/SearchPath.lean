import CommandShell.Proofs.Command.SearchOrder
import CommandShell.Proofs.Place

/-!
# Joined search paths

Two search paths with a separator between them are a search path again.  Its entries are those of
the first and then those of the second (`entries_append`), even if the separator has another one
beside it, or nothing.  The empty search path is no exception: it has one entry, the empty one, so a
separator at either end of a search path stands for the directory that the session is in.

`program?_joined` says what this means for a search: what is found along the first path is found
along the joined one, and where nothing is found along the first the second decides.
-/

namespace CommandShell.Search

/-- The path of the program of a name in one directory, if there is a program. -/
def programIn? (w : World) (directory name : String) : Option String :=
  Option.guard w.host.isProgram (Path.inDirectory directory name)

/-! ## Entries and candidates -/

/-- The entries of a joined search path are those of its parts. -/
theorem entries_append (p q : String) : entries (p ++ ":" ++ q) = entries p ++ entries q := by
  have htext : (p ++ ":" ++ q).toList = p.toList ++ entrySeparator :: q.toList := by
    simp [entrySeparator]
  have hsplit : (p.toList ++ entrySeparator :: q.toList).splitOn entrySeparator =
      p.toList.splitOn entrySeparator ++ q.toList.splitOn entrySeparator :=
    List.splitOnP_append_cons _ _ (beq_self_eq_true entrySeparator)
  rw [entries, htext, hsplit, List.map_append]
  rfl

theorem candidates_append (p q here name : String) :
    candidates (p ++ ":" ++ q) here name = candidates p here name ++ candidates q here name := by
  rw [candidates, entries_append, List.map_append]
  rfl

/-- Along the empty search path there is one candidate. -/
theorem candidates_empty (here name : String) :
    candidates "" here name = [Path.inDirectory here name] := rfl

/-! ## Searches -/

variable {w : World} {name : String}

/-- A name that is no path is looked for along the search path that is set. -/
theorem program?_of_path {path : String} (hpath : w.session.environment.get? "PATH" = some path)
    (hname : Path.hasSeparator name = false) :
    program? w name = (candidates path w.session.directory name).find? w.host.isProgram := by
  rw [program?_of_not_hasSeparator hname, pathOf, pathVariable, hpath, Option.getD_some]

/-- Along the empty search path a name is looked for in the directory of the session alone. -/
theorem program?_of_path_empty (hpath : w.session.environment.get? "PATH" = some "")
    (hname : Path.hasSeparator name = false) :
    program? w name = programIn? w w.session.directory name := by
  rw [program?_of_path hpath hname, candidates_empty, List.find?_singleton]
  rfl

/-- What is in a directory is the same in worlds that are in the same places. -/
theorem programIn?_congr {a b : World} (h : a.SamePlace b) (directory name : String) :
    programIn? a directory name = programIn? b directory name := by
  rw [programIn?, h.host]
  rfl

section Joined

variable {joined first second : World} {p q : String}

/-- What is found along a joined search path is found along its first part, or else along its
second. -/
theorem program?_eq_or (hfirst : first.SamePlace joined) (hsecond : second.SamePlace joined)
    (hjoined : joined.session.environment.get? "PATH" = some (p ++ ":" ++ q))
    (hp : first.session.environment.get? "PATH" = some p)
    (hq : second.session.environment.get? "PATH" = some q) (name : String) :
    program? joined name = (program? first name).or (program? second name) := by
  cases hname : Path.hasSeparator name with
  | true =>
    -- No search is made for a path, whatever is set.
    rw [program?_of_hasSeparator hname, program?_of_hasSeparator hname, Option.some_or]
  | false =>
    rw [program?_of_path hjoined hname, program?_of_path hp hname, program?_of_path hq hname,
      hfirst.host, hfirst.directory, hsecond.host, hsecond.directory, candidates_append,
      List.find?_append]

/-- **Search paths compose.**  Take three worlds that are in the same places, the first with one
search path, the second with another, and one in which the two are joined.  What is found in that
world is what is found in the first, and where nothing is found there, what is found in the second.
So a search path that is put behind another takes nothing away from what was found along that other.
A part that is empty stands for the directory of the session, in the joined search path as by
itself. -/
theorem program?_joined (hfirst : first.SamePlace joined) (hsecond : second.SamePlace joined)
    (hjoined : joined.session.environment.get? "PATH" = some (p ++ ":" ++ q))
    (hp : first.session.environment.get? "PATH" = some p)
    (hq : second.session.environment.get? "PATH" = some q) (name : String) :
    program? joined name = (program? first name).or (program? second name) ∧
    (∀ path, program? first name = some path → program? joined name = some path) ∧
    (Path.hasSeparator name = false →
      let here := programIn? joined joined.session.directory name
      (p = "" →
        program? first name = here ∧ program? joined name = here.or (program? second name)) ∧
      (q = "" →
        program? second name = here ∧ program? joined name = (program? first name).or here)) := by
  have hor : program? joined name = (program? first name).or (program? second name) :=
    program?_eq_or hfirst hsecond hjoined hp hq name
  refine ⟨hor, fun path hfound ↦ ?_, fun hname ↦ ⟨?_, ?_⟩⟩
  · rw [hor, hfound, Option.some_or]
  · rintro rfl
    have hhere : program? first name = programIn? joined joined.session.directory name := by
      rw [program?_of_path_empty hp hname, hfirst.directory, programIn?_congr hfirst]
    exact ⟨hhere, by rw [hor, hhere]⟩
  · rintro rfl
    have hhere : program? second name = programIn? joined joined.session.directory name := by
      rw [program?_of_path_empty hq hname, hsecond.directory, programIn?_congr hsecond]
    exact ⟨hhere, by rw [hor, hhere]⟩

/-- The first part is empty, and beneath the directory of the session there is no program of the
name.  So the search goes on along the second part. -/
theorem program?_joined_namesakes :
    amongNamesakes.session.environment.get? "PATH" = some ("" ++ ":" ++ "tools/:/bin") ∧
    program? (amongNamesakes.withEnvironment [("PATH", "")]) "say" = none ∧
    programIn? amongNamesakes amongNamesakes.session.directory "say" = none ∧
    program? (amongNamesakes.withEnvironment [("PATH", "tools/:/bin")]) "say" = some "/bin/say" ∧
    program? amongNamesakes "say" = some "/bin/say" := by
  have hfirst : (amongNamesakes.withEnvironment [("PATH", "")]).SamePlace amongNamesakes :=
    ⟨rfl, rfl⟩
  have hsecond :
      (amongNamesakes.withEnvironment [("PATH", "tools/:/bin")]).SamePlace amongNamesakes :=
    ⟨rfl, rfl⟩
  have hjoined : amongNamesakes.session.environment.get? "PATH" =
      some ("" ++ ":" ++ "tools/:/bin") := by decide
  have hname : Path.hasSeparator "say" = false := by decide
  have hnone : program? (amongNamesakes.withEnvironment [("PATH", "")]) "say" = none := by decide
  have hsome : program? (amongNamesakes.withEnvironment [("PATH", "tools/:/bin")]) "say" =
      some "/bin/say" := by decide
  obtain ⟨hor, -, hempty⟩ := program?_joined hfirst hsecond hjoined rfl rfl "say"
  have hhere : programIn? amongNamesakes amongNamesakes.session.directory "say" = none :=
    ((hempty hname).1 rfl).1.symm.trans hnone
  refine ⟨hjoined, hnone, hhere, hsome, ?_⟩
  rw [hor, hnone, hsome, Option.none_or]

end Joined

end CommandShell.Search
