import CommandShell.Command.Search
import Mathlib.Logic.ExistsUnique

/-!
# The order of a search

A name that is no path is looked for in the directories of the search path, one after the other.
This file says what that comes to without saying how the search path is taken apart or how the
search goes on.

* `Divides` says that some texts are the entries of a search path: they hold no separator, and with
  separators between them they are the search path.  `divides_iff` says that there is one way to
  divide it, also where it is empty, begins or ends with a separator, or has two in a row.
* `Route` says in which entries an environment has a name looked for.
* `program?_first_on_route` says what is found: the first candidate that is a program, and nothing
  if there is none.  What is found has a path separator, so no one who is given it has to search
  for it again.
-/

namespace CommandShell

/-- Seen from where the process is, a path stands for a regular file that may be run. -/
def Host.HasProgram (host : Host) (path : String) : Prop :=
  ∃ entry, host.entry? host.directory path = some entry ∧
    entry.kind = .file ∧ entry.executable = true

theorem Host.hasProgram_iff {host : Host} {path : String} :
    host.HasProgram path ↔ host.isProgram path = true := by
  simp only [HasProgram, isProgram_iff, Entry.isProgram_iff]

instance (host : Host) (path : String) : Decidable (host.HasProgram path) :=
  decidable_of_iff (host.isProgram path = true) Host.hasProgram_iff.symm

namespace Search

/-! ## The entries of a search path -/

/-- Some texts are the entries of a search path. -/
structure Divides (path : String) (entries : List String) : Prop where
  /-- There is an entry, though it may be the empty one. -/
  ne_nil : entries ≠ []
  /-- No entry holds a separator. -/
  unbroken : ∀ entry ∈ entries, entrySeparator ∉ entry.toList
  /-- With separators between them the entries are the search path. -/
  joined : (String.singleton entrySeparator).intercalate entries = path

/-- No part of a list that is split at an element holds that element. -/
theorem notMem_of_mem_splitOn {α : Type} [DecidableEq α] {separator : α} {whole part : List α}
    (h : part ∈ whole.splitOn separator) : separator ∉ part := by
  -- The first part grows with the elements in front of it, all others are as they were.
  induction whole generalizing part with
  | nil =>
    obtain rfl := List.mem_singleton.1 h
    exact List.not_mem_nil
  | cons a whole ih =>
    rw [List.splitOn_cons_eq_if_modifyHead] at h
    by_cases ha : a = separator
    · rw [if_pos (by simpa using ha)] at h
      rcases List.mem_cons.1 h with rfl | h
      · exact List.not_mem_nil
      · exact ih h
    · obtain ⟨first, rest, hs⟩ := List.exists_cons_of_ne_nil (List.splitOn_ne_nil separator whole)
      rw [if_neg (by simpa using ha), hs, List.modifyHead_cons] at h
      rcases List.mem_cons.1 h with rfl | h
      · rw [List.mem_cons, not_or]
        exact ⟨Ne.symm ha, ih (hs ▸ List.mem_cons_self)⟩
      · exact ih (hs ▸ List.mem_cons_of_mem first h)

/-- The entries of a search path divide it. -/
theorem divides_entries (path : String) : Divides path (entries path) where
  ne_nil := by simp [entries]
  unbroken entry h := by
    obtain ⟨part, hpart, rfl⟩ := List.mem_map.1 h
    rw [String.toList_ofList]
    exact notMem_of_mem_splitOn hpart
  joined := by
    apply String.toList_injective
    have hparts : (entries path).map String.toList = path.toList.splitOn entrySeparator := by
      simp [entries, Function.comp_def]
    rw [String.toList_intercalate, hparts, String.toList_singleton, List.intercalate_splitOn]

/-- What divides a search path are its entries. -/
theorem Divides.eq_entries {path : String} {es : List String} (h : Divides path es) :
    es = entries path := by
  have hunbroken : ∀ part ∈ es.map String.toList, entrySeparator ∉ part := by
    intro part hpart
    obtain ⟨entry, hentry, rfl⟩ := List.mem_map.1 hpart
    exact h.unbroken entry hentry
  have hsplit : path.toList.splitOn entrySeparator = es.map String.toList := by
    rw [← h.joined, String.toList_intercalate, String.toList_singleton]
    exact List.splitOn_intercalate entrySeparator hunbroken (by simpa using h.ne_nil)
  simp [entries, hsplit, Function.comp_def]

/-- There is one way to divide a search path. -/
theorem divides_iff {path : String} {es : List String} : Divides path es ↔ es = entries path := by
  constructor
  · exact Divides.eq_entries
  · rintro rfl
    exact divides_entries path

/-- The entries in which an environment has a name looked for. -/
inductive Route (environment : Environment) : List String → Prop
  /-- The entries of the search path, if one is set. -/
  | set {path : String} {entries : List String} :
    environment.get? "PATH" = some path → Divides path entries → Route environment entries
  /-- Two standard directories, if none is set. -/
  | unset : environment.get? "PATH" = none → Route environment ["/bin", "/usr/bin"]

theorem route_iff {environment : Environment} {es : List String} :
    Route environment es ↔ es = entries (pathOf environment) := by
  have hstandard : entries standardPath = ["/bin", "/usr/bin"] := by decide
  constructor
  · rintro (⟨hset, hdivides⟩ | hunset)
    · rw [pathOf, pathVariable, hset, Option.getD_some]
      exact hdivides.eq_entries
    · rw [pathOf, pathVariable, hunset, Option.getD_none, hstandard]
  · rintro rfl
    cases h : environment.get? "PATH" with
    | some path =>
      rw [pathOf, pathVariable, h, Option.getD_some]
      exact .set h (divides_entries path)
    | none =>
      rw [pathOf, pathVariable, h, Option.getD_none, hstandard]
      exact .unset h

/-! ## Candidates -/

theorem directoryOf_ne_empty {here : String} (h : here ≠ "") (entry : String) :
    directoryOf here entry ≠ "" := by
  unfold directoryOf
  split
  · exact h
  · assumption

/-- A session that is somewhere looks for a name beneath each of the directories. -/
theorem candidates_eq_map_beneath {here : String} (h : here ≠ "") (path name : String) :
    candidates path here name =
      (entries path).map fun entry ↦ Path.beneath (directoryOf here entry) name := by
  apply List.map_congr_left
  intro entry _
  rw [Path.inDirectory, if_neg (directoryOf_ne_empty h entry)]

variable {w : World} {name : String}

/-- What a session that is somewhere finds has a separator. -/
theorem hasSeparator_of_program? (hplace : w.session.directory ≠ "") {path : String}
    (h : program? w name = some path) : Path.hasSeparator path = true := by
  cases hname : Path.hasSeparator name with
  | true =>
    rw [program?_of_hasSeparator hname] at h
    cases h
    exact hname
  | false =>
    rw [program?_of_not_hasSeparator hname, candidates_eq_map_beneath hplace] at h
    obtain ⟨entry, -, rfl⟩ := List.mem_map.1 (List.mem_of_find?_eq_some h)
    exact Path.hasSeparator_beneath _ _

/-- What is found is the first candidate that is a program. -/
theorem program?_eq_some_iff (hplace : w.session.directory ≠ "")
    (hname : Path.hasSeparator name = false) {es : List String}
    (hroute : Route w.session.environment es) {path : String} :
    program? w name = some path ↔
      ∃ (i : Nat) (hi : i < es.length),
        Path.beneath (directoryOf w.session.directory es[i]) name = path ∧
        w.host.HasProgram path ∧
        ∀ (j : Nat) (hj : j < i),
          ¬ w.host.HasProgram (Path.beneath (directoryOf w.session.directory es[j]) name) := by
  rw [program?_of_not_hasSeparator hname, candidates_eq_map_beneath hplace, ← route_iff.1 hroute,
    List.find?_eq_some_iff_getElem]
  simp only [List.length_map, List.getElem_map, Bool.not_eq_true', Host.hasProgram_iff,
    Bool.not_eq_true]
  constructor
  · rintro ⟨hprogram, i, hi, hpath, hbefore⟩
    exact ⟨i, hi, hpath, hprogram, hbefore⟩
  · rintro ⟨i, hi, hpath, hprogram, hbefore⟩
    exact ⟨hprogram, i, hi, hpath, hbefore⟩

/-- Nothing is found if no candidate is a program. -/
theorem program?_eq_none_iff (hplace : w.session.directory ≠ "")
    (hname : Path.hasSeparator name = false) {es : List String}
    (hroute : Route w.session.environment es) :
    program? w name = none ↔
      ∀ entry ∈ es,
        ¬ w.host.HasProgram (Path.beneath (directoryOf w.session.directory entry) name) := by
  rw [program?_of_not_hasSeparator hname, candidates_eq_map_beneath hplace, ← route_iff.1 hroute,
    List.find?_eq_none]
  simp only [List.forall_mem_map, Host.hasProgram_iff]

/-- **A search finds the first match.**  An environment has one route.  A session that is somewhere
looks for a name that is no path in the entries of that route: what it finds is the candidate of an
entry, is a regular file that may be run, and is preceded by no such candidate; and it finds nothing
exactly if no candidate is one.  Whatever stands for a name, be it found or taken as it is, has a
separator. -/
theorem program?_first_on_route (hplace : w.session.directory ≠ "") :
    (∃! es, Route w.session.environment es) ∧
    (∀ name es, Path.hasSeparator name = false → Route w.session.environment es →
      (∀ path, program? w name = some path ↔
        ∃ (i : Nat) (hi : i < es.length),
          Path.beneath (directoryOf w.session.directory es[i]) name = path ∧
          w.host.HasProgram path ∧
          ∀ (j : Nat) (hj : j < i),
            ¬ w.host.HasProgram (Path.beneath (directoryOf w.session.directory es[j]) name)) ∧
      (program? w name = none ↔
        ∀ entry ∈ es,
          ¬ w.host.HasProgram (Path.beneath (directoryOf w.session.directory entry) name))) ∧
    ∀ name path, program? w name = some path → Path.hasSeparator path = true := by
  refine ⟨⟨_, route_iff.2 rfl, fun _ ↦ route_iff.1⟩, ?_, ?_⟩
  · intro name es hname hroute
    exact ⟨fun _ ↦ program?_eq_some_iff hplace hname hroute,
      program?_eq_none_iff hplace hname hroute⟩
  · intro name path
    exact hasSeparator_of_program? hplace

/-- A session whose search path begins with an empty entry and has one that ends in a separator.
Beneath the first there is a directory of the name `say`, beneath the second a file that may not be
run, and beneath the third a program. -/
def amongNamesakes : World :=
  { host := Host.boot
      [("/w/say", { kind := .directory, executable := true }),
       ("/w/tools/say", { kind := .file }),
       ("/bin/say", { kind := .file, executable := true })]
      "/w"
    session := { environment := [("PATH", ":tools/:/bin")], directory := "/w" } }

/-- A directory and a file that may not be run do not keep the program behind them from being
found. -/
theorem program?_first_on_route_namesakes :
    amongNamesakes.session.directory ≠ "" ∧ Path.hasSeparator "say" = false ∧
    Route amongNamesakes.session.environment ["", "tools/", "/bin"] ∧
    program? amongNamesakes "say" = some "/bin/say" ∧ Path.hasSeparator "/bin/say" = true := by
  have hplace : amongNamesakes.session.directory ≠ "" := by decide
  have hname : Path.hasSeparator "say" = false := by decide
  have hroute : Route amongNamesakes.session.environment ["", "tools/", "/bin"] :=
    .set rfl ⟨by simp, by decide, by decide⟩
  obtain ⟨-, hsearch, hseparator⟩ := program?_first_on_route hplace
  have hfound : program? amongNamesakes "say" = some "/bin/say" :=
    ((hsearch "say" _ hname hroute).1 "/bin/say").2
      ⟨2, by decide, by decide, by decide, by decide⟩
  exact ⟨hplace, hname, hroute, hfound, hseparator "say" "/bin/say" hfound⟩

end Search

end CommandShell
