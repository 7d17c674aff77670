import CommandShell.Options

/-!
# What the arguments ask for

Reading the arguments from left to right comes to one of three ends.

| end | as a relation | as a result |
|---|---|---|
| help is reached | `Invocation.Helps` | `Invocation.ofTexts_eq_help_iff` |
| the arguments are refused | `Invocation.Refused` | `Invocation.ofTexts_eq_error_iff` |
| the arguments are accepted | `Invocation.Accepted` | `Invocation.ofTexts_eq_run_iff` |

The relations do not say how the arguments are read.  `Options.Passes` says which arguments can be
read to their end, what they set and which of them are of no use; `Options.Halts` says at which
arguments the reading ends early.  Of several values that are given for a setting the last counts
(`Settings.command_setAll`, `Settings.prompt_setAll`).

Only `Options.Halts` depends on the rules for what is attached to a request for help, so the rules
make no difference to arguments that are accepted (`Invocation.ofTexts_eq_run_iff_of_rules`).
`Options.helpLetters_eq_or_stray` says where they do make one, and `Options.Halts.later_of_earlier`
for which requests the newer rules are the more lenient ones.
-/

namespace CommandShell

/-! ## Settings -/

/-- The values among those given that are given for one setting, in order. -/
def Setting.valuesIn (setting : Setting) (given : List (Setting × String)) : List String :=
  (given.filter fun pair ↦ pair.1 = setting).map Prod.snd

namespace Settings

/-- Set things in order. -/
def setAll (settings : Settings) (given : List (Setting × String)) : Settings :=
  given.foldl (fun settings pair ↦ settings.set pair.2 pair.1) settings

@[simp] theorem setAll_nil (settings : Settings) : settings.setAll [] = settings := rfl

@[simp] theorem setAll_cons (settings : Settings) (setting : Setting) (value : String)
    (given : List (Setting × String)) :
    settings.setAll ((setting, value) :: given) = (settings.set value setting).setAll given := rfl

theorem command_setAll (settings : Settings) (given : List (Setting × String)) :
    (settings.setAll given).command =
      (Setting.command.valuesIn given).getLast?.or settings.command := by
  induction given generalizing settings with
  | nil => rfl
  | cons pair given ih =>
    obtain ⟨setting, value⟩ := pair
    rw [setAll_cons, ih]
    cases setting with
    | prompt => rfl
    | command =>
      have hvalues : Setting.command.valuesIn ((.command, value) :: given) =
          value :: Setting.command.valuesIn given := rfl
      rw [hvalues, List.getLast?_cons]
      cases (Setting.command.valuesIn given).getLast? <;> rfl

theorem prompt_setAll (settings : Settings) (given : List (Setting × String)) :
    (settings.setAll given).prompt =
      (Setting.prompt.valuesIn given).getLast?.getD settings.prompt := by
  induction given generalizing settings with
  | nil => rfl
  | cons pair given ih =>
    obtain ⟨setting, value⟩ := pair
    rw [setAll_cons, ih]
    cases setting with
    | command => rfl
    | prompt =>
      have hvalues : Setting.prompt.valuesIn ((.prompt, value) :: given) =
          value :: Setting.prompt.valuesIn given := rfl
      rw [hvalues, List.getLast?_cons]
      rfl

end Settings

namespace Options

/-! ## How far arguments can be read -/

/-- The arguments can be read to their end.  They set the given things in order, and some of their
texts are of no use. -/
inductive Passes : List Argument → List (Setting × String) → List String → Prop
  /-- There are none. -/
  | nil : Passes [] [] []
  /-- A word that no switch takes is of no use. -/
  | word (text : String) {rest : List Argument} {given : List (Setting × String)}
    {unused : List String} :
    Passes rest given unused → Passes (.word text :: rest) given (text :: unused)
  /-- What looks like a switch and is none is of no use. -/
  | unknown (text : String) {rest : List Argument} {given : List (Setting × String)}
    {unused : List String} :
    Passes rest given unused → Passes (.unknown text :: rest) given (text :: unused)
  /-- The divider is of no use. -/
  | divider {rest : List Argument} {given : List (Setting × String)} {unused : List String} :
    Passes rest given unused →
      Passes (.divider :: rest) given (Argument.dividerText :: unused)
  /-- A switch has its value in the same argument. -/
  | attached (setting : Setting) (attachment : Attachment) {rest : List Argument}
    {given : List (Setting × String)} {unused : List String} :
    Passes rest given unused →
      Passes (.switch (.set setting) (some attachment) :: rest)
        ((setting, attachment.value) :: given) unused
  /-- A switch takes the word after it for its value. -/
  | spaced (setting : Setting) (value : String) {rest : List Argument}
    {given : List (Setting × String)} {unused : List String} :
    Passes rest given unused →
      Passes (.switch (.set setting) none :: .word value :: rest) ((setting, value) :: given) unused

/-- The reading of the arguments ends before their end, with the given result. -/
inductive Halts (rules : HelpRules) : List Argument → Except UsageError Invocation → Prop
  /-- There is a switch that needs a value, and no word follows it. -/
  | missing {before rest : List Argument} {given : List (Setting × String)}
    {unused : List String} (setting : Setting) :
    Passes before given unused → startsWithWord rest = false →
      Halts rules (before ++ .switch (.set setting) none :: rest) (.error (.missingValue setting))
  /-- There is a request for help, which is granted or not. -/
  | help {before rest : List Argument} {given : List (Setting × String)} {unused : List String}
    (spelling : HelpSpelling) (attachment : Option Attachment) :
    Passes before given unused →
      Halts rules (before ++ .switch (.help spelling) attachment :: rest)
        (help rules rest spelling attachment)

variable {rules : HelpRules} {before rest arguments : List Argument}
  {given given' : List (Setting × String)} {unused unused' : List String}
  {result : Except UsageError Invocation}

theorem Passes.append (h : Passes before given unused) (h' : Passes rest given' unused') :
    Passes (before ++ rest) (given ++ given') (unused ++ unused') := by
  induction h with
  | nil => exact h'
  | word text _ ih => exact .word text ih
  | unknown text _ ih => exact .unknown text ih
  | divider _ ih => exact .divider ih
  | attached setting attachment _ ih => exact .attached setting attachment ih
  | spaced setting value _ ih => exact .spaced setting value ih

theorem Halts.append (h : Passes before given unused) (h' : Halts rules rest result) :
    Halts rules (before ++ rest) result := by
  cases h' with
  | missing setting hbefore hrest =>
    rw [← List.append_assoc]
    exact .missing setting (h.append hbefore) hrest
  | help spelling attachment hbefore =>
    rw [← List.append_assoc]
    exact .help spelling attachment (h.append hbefore)

theorem halts_missing {setting : Setting} (h : startsWithWord rest = false) :
    Halts rules (.switch (.set setting) none :: rest) (.error (.missingValue setting)) :=
  .missing setting .nil h

theorem halts_help (spelling : HelpSpelling) (attachment : Option Attachment)
    (rest : List Argument) :
    Halts rules (.switch (.help spelling) attachment :: rest)
      (help rules rest spelling attachment) :=
  .help spelling attachment .nil

/-- Arguments can be read to their end, or the reading ends early. -/
def Ends (rules : HelpRules) (arguments : List Argument) : Prop :=
  (∃ given unused, Passes arguments given unused) ∨ ∃ result, Halts rules arguments result

theorem Ends.append (h : Passes before given unused) (h' : Ends rules rest) :
    Ends rules (before ++ rest) := by
  rcases h' with ⟨given', unused', h'⟩ | ⟨result, h'⟩
  · exact .inl ⟨_, _, h.append h'⟩
  · exact .inr ⟨result, h'.append h⟩

/-- Every reading ends, early or not. -/
theorem ends (rules : HelpRules) : ∀ arguments, Ends rules arguments
  | [] => .inl ⟨[], [], .nil⟩
  | .word text :: rest => (ends rules rest).append (.word text .nil)
  | .unknown text :: rest => (ends rules rest).append (.unknown text .nil)
  | .divider :: rest => (ends rules rest).append (.divider .nil)
  | .switch (.help spelling) attachment :: rest => .inr ⟨_, halts_help spelling attachment rest⟩
  | .switch (.set setting) (some attachment) :: rest =>
    (ends rules rest).append (.attached setting attachment .nil)
  | .switch (.set setting) none :: .word value :: rest =>
    (ends rules rest).append (.spaced setting value .nil)
  | .switch (.set _) none :: [] => .inr ⟨_, halts_missing rfl⟩
  | .switch (.set _) none :: .unknown _ :: _ => .inr ⟨_, halts_missing rfl⟩
  | .switch (.set _) none :: .divider :: _ => .inr ⟨_, halts_missing rfl⟩
  | .switch (.set _) none :: .switch _ _ :: _ => .inr ⟨_, halts_missing rfl⟩

/-! ## What reading gives -/

/-- What has been read is set or of no use, and the reading goes on. -/
theorem read_append (rules : HelpRules) (h : Passes before given unused) (settings : Settings)
    (seen : List String) (rest : List Argument) :
    read rules settings seen (before ++ rest) =
      read rules (settings.setAll given) (seen ++ unused) rest := by
  induction h generalizing settings seen with
  | nil => simp
  | word text _ ih => simp [read, ih]
  | unknown text _ ih => simp [read, ih]
  | divider _ ih => simp [read, ih]
  | attached setting attachment _ ih => simp [read, ih]
  | spaced setting value _ ih => simp [read, ih]

/-- Arguments that are read to their end are accepted if all of them are of use. -/
theorem read_of_passes (h : Passes arguments given unused) (settings : Settings) :
    read rules settings [] arguments =
      if unused = [] then .ok (.run (settings.setAll given))
      else .error (.unrecognized unused) := by
  have hread := read_append rules h settings [] []
  rw [List.append_nil, List.nil_append] at hread
  rw [hread, read]

theorem read_missing {settings : Settings} {seen : List String} {setting : Setting}
    (h : startsWithWord rest = false) :
    read rules settings seen (.switch (.set setting) none :: rest) =
      .error (.missingValue setting) := by
  rcases rest with _ | ⟨_ | _ | _ | _, rest⟩
  · rfl
  · cases h
  all_goals rfl

theorem read_of_halts (h : Halts rules arguments result) (settings : Settings)
    (seen : List String) : read rules settings seen arguments = result := by
  cases h with
  | missing setting hbefore hrest => rw [read_append rules hbefore, read_missing hrest]
  | help spelling attachment hbefore => rw [read_append rules hbefore, read]

/-! ## Requests for help -/

theorem stray_ne_run (rules : HelpRules) (letters : List Char) (settings : Settings) :
    rules.stray letters ≠ .ok (.run settings) := by
  cases rules with
  | earlier => simp [HelpRules.stray]
  | later => unfold HelpRules.stray; split <;> simp

theorem helpLetters_ne_run (rules : HelpRules) (wordFollows : Bool) (letters : List Char)
    (settings : Settings) : helpLetters rules wordFollows letters ≠ .ok (.run settings) := by
  fun_induction helpLetters rules wordFollows letters with
  | case2 rest _ ih => exact ih
  | case6 letters => exact stray_ne_run rules letters settings
  | _ => simp

/-- A request for help that is granted is granted with help. -/
theorem help_ne_run (rules : HelpRules) (following : List Argument) (spelling : HelpSpelling)
    (attachment : Option Attachment) (settings : Settings) :
    help rules following spelling attachment ≠ .ok (.run settings) := by
  rcases attachment with _ | ⟨value⟩ | ⟨letters⟩
  · cases spelling <;> simp [help]
  · cases spelling with
    | short =>
      cases rules with
      | earlier => exact helpLetters_ne_run .earlier _ _ settings
      | later => simp [help]
    | long => simp [help]
  · cases spelling with
    | short => exact helpLetters_ne_run rules _ _ settings
    | long => simp [help]

theorem Halts.ne_run (h : Halts rules arguments result) (settings : Settings) :
    result ≠ .ok (.run settings) := by
  cases h with
  | missing setting => simp
  | help spelling attachment => exact help_ne_run rules _ spelling attachment settings

/-- What letters come to does not depend on the rules, unless one of them is no switch.  Then the
rules decide about that letter and all that follows it. -/
theorem helpLetters_eq_or_stray (wordFollows : Bool) (letters : List Char) :
    (∀ rules rules', helpLetters rules wordFollows letters =
      helpLetters rules' wordFollows letters) ∨
    ∃ before stray, letters = before ++ stray ∧ (∀ c ∈ before, c = 'h') ∧
      stray.head? ≠ some 'h' ∧ stray.head? ≠ some 'c' ∧
      ∀ rules : HelpRules, helpLetters rules wordFollows letters = rules.stray stray := by
  induction letters using helpLetters.induct wordFollows with
  | case1 => exact .inl fun _ _ ↦ rfl
  | case2 rest hrest ih =>
    have hstep (rules : HelpRules) : helpLetters rules wordFollows ('h' :: rest) =
        helpLetters rules wordFollows rest := by
      rw [helpLetters]
      exact hrest
    simp only [hstep]
    refine ih.imp id ?_
    rintro ⟨before, stray, rfl, hbefore, hstray⟩
    exact ⟨'h' :: before, stray, rfl, by simpa using hbefore, hstray⟩
  | case3 h => exact .inl fun _ _ ↦ rfl
  | case4 h => exact .inl fun _ _ ↦ rfl
  | case5 rest hrest =>
    left
    intro rules rules'
    simp only [helpLetters]
  | case6 stray _ hh _ hc =>
    refine .inr ⟨[], stray, rfl, by simp, ?_, ?_, fun rules ↦ ?_⟩
    · intro hhead
      obtain ⟨rest, hrest⟩ := List.head?_eq_some_iff.1 hhead
      exact hh rest hrest
    · intro hhead
      obtain ⟨rest, hrest⟩ := List.head?_eq_some_iff.1 hhead
      exact hc rest hrest
    · rw [helpLetters] <;> assumption

/-- Letters for which help is granted under the earlier rules have it granted under the later. -/
theorem helpLetters_later_of_earlier {wordFollows : Bool} {letters : List Char}
    (h : helpLetters .earlier wordFollows letters = .ok .help) :
    helpLetters .later wordFollows letters = .ok .help := by
  rcases helpLetters_eq_or_stray wordFollows letters with heq |
    ⟨before, stray, -, -, -, -, hstray⟩
  · rw [heq .later .earlier, h]
  · rw [hstray] at h
    cases h

/-- Help that is granted under the earlier rules is granted under the later ones, unless something
stands behind the short switch and an equals sign. -/
theorem Halts.later_of_earlier (h : Halts .earlier arguments (.ok .help))
    (hequals : ∀ value, .switch (.help .short) (some (.equals value)) ∉ arguments) :
    Halts .later arguments (.ok .help) := by
  generalize hresult : (.ok .help : Except UsageError Invocation) = result at h
  cases h with
  | missing setting => cases hresult
  | @help before rest given unused spelling attachment hbefore =>
    have hlater : Options.help .later rest spelling attachment = .ok .help := by
      rcases attachment with _ | ⟨value⟩ | ⟨letters⟩ <;> cases spelling
      · rfl
      · rfl
      · exact absurd (by simp) (hequals value)
      -- The long spelling grants nothing to which something is attached.
      · cases hresult
      · exact helpLetters_later_of_earlier hresult.symm
      · cases hresult
    rw [← hresult, ← hlater]
    exact .help spelling attachment hbefore

end Options

/-! ## Invocations -/

namespace Invocation

open Options

/-- The arguments reach a request for help, and it is granted. -/
def Helps (rules : HelpRules) (arguments : List String) : Prop :=
  ∃ read, Argument.ofTexts arguments = .ok read ∧ Halts rules read (.ok .help)

/-- The arguments are refused for the given reason. -/
inductive Refused (rules : HelpRules) (arguments : List String) : UsageError → Prop
  /-- It is not clear what one of them is. -/
  | unclear {error : UsageError} :
    Argument.ofTexts arguments = .error error → Refused rules arguments error
  /-- The reading of them ends early, and not with help. -/
  | halted {read : List Argument} {error : UsageError} :
    Argument.ofTexts arguments = .ok read → Halts rules read (.error error) →
      Refused rules arguments error
  /-- Some of them are of no use. -/
  | useless {read : List Argument} {given : List (Setting × String)} {unused : List String} :
    Argument.ofTexts arguments = .ok read → Passes read given unused → unused ≠ [] →
      Refused rules arguments (.unrecognized unused)

/-- The arguments are read to their end, all of them are of use, and they set the given things in
order.  This does not depend on the rules for help. -/
def Accepted (arguments : List String) (given : List (Setting × String)) : Prop :=
  ∃ read, Argument.ofTexts arguments = .ok read ∧ Passes read given []

variable {rules : HelpRules} {arguments : List String}

theorem ofTexts_of_ok {read : List Argument} (h : Argument.ofTexts arguments = .ok read) :
    ofTexts rules arguments = Options.read rules {} [] read := by
  rw [ofTexts, h]
  rfl

theorem ofTexts_of_error {error : UsageError} (h : Argument.ofTexts arguments = .error error) :
    ofTexts rules arguments = .error error := by
  rw [ofTexts, h]
  rfl

theorem ofTexts_of_helps (h : Helps rules arguments) : ofTexts rules arguments = .ok .help := by
  obtain ⟨read, hread, hhalts⟩ := h
  rw [ofTexts_of_ok hread, read_of_halts hhalts]

theorem ofTexts_of_refused {error : UsageError} (h : Refused rules arguments error) :
    ofTexts rules arguments = .error error := by
  cases h with
  | unclear hread => exact ofTexts_of_error hread
  | halted hread hhalts => rw [ofTexts_of_ok hread, read_of_halts hhalts]
  | useless hread hpasses hunused => rw [ofTexts_of_ok hread, read_of_passes hpasses, if_neg hunused]

theorem ofTexts_of_accepted {given : List (Setting × String)} (h : Accepted arguments given) :
    ofTexts rules arguments = .ok (.run (({} : Settings).setAll given)) := by
  obtain ⟨read, hread, hpasses⟩ := h
  rw [ofTexts_of_ok hread, read_of_passes hpasses, if_pos rfl]

/-- Arguments ask for help, or are refused, or are accepted. -/
theorem helps_or_refused_or_accepted (rules : HelpRules) (arguments : List String) :
    Helps rules arguments ∨ (∃ error, Refused rules arguments error) ∨
      ∃ given, Accepted arguments given := by
  rcases hread : Argument.ofTexts arguments with error | read
  · exact .inr (.inl ⟨error, .unclear hread⟩)
  rcases ends rules read with ⟨given, unused, hpasses⟩ | ⟨error | asked, hhalts⟩
  · by_cases hunused : unused = []
    · exact .inr (.inr ⟨given, read, hread, hunused ▸ hpasses⟩)
    · exact .inr (.inl ⟨_, .useless hread hpasses hunused⟩)
  · exact .inr (.inl ⟨error, .halted hread hhalts⟩)
  · cases asked with
    | help => exact .inl ⟨read, hread, hhalts⟩
    | run settings => exact absurd rfl (hhalts.ne_run settings)

theorem ofTexts_eq_help_iff : ofTexts rules arguments = .ok .help ↔ Helps rules arguments := by
  refine ⟨fun h ↦ ?_, ofTexts_of_helps⟩
  rcases helps_or_refused_or_accepted rules arguments with hhelps | ⟨error, hrefused⟩ |
    ⟨given, haccepted⟩
  · exact hhelps
  · simp [ofTexts_of_refused hrefused] at h
  · simp [ofTexts_of_accepted haccepted] at h

/-- Of these two requests for help each is granted under one of the rules and refused under the
other. -/
example :
    ofTexts .earlier ["-hx"] = .error (.unusedValue "x") ∧ ofTexts .later ["-hx"] = .ok .help ∧
    ofTexts .earlier ["-h=c", "w"] = .ok .help ∧
      ofTexts .later ["-h=c", "w"] = .error (.unusedValue "c") :=
  ⟨rfl, rfl, rfl, rfl⟩

theorem ofTexts_eq_error_iff {error : UsageError} :
    ofTexts rules arguments = .error error ↔ Refused rules arguments error := by
  refine ⟨fun h ↦ ?_, ofTexts_of_refused⟩
  rcases helps_or_refused_or_accepted rules arguments with hhelps | ⟨other, hrefused⟩ |
    ⟨given, haccepted⟩
  · simp [ofTexts_of_helps hhelps] at h
  · rw [ofTexts_of_refused hrefused] at h
    cases h
    exact hrefused
  · simp [ofTexts_of_accepted haccepted] at h

theorem ofTexts_eq_run_iff {settings : Settings} :
    ofTexts rules arguments = .ok (.run settings) ↔
      ∃ given, Accepted arguments given ∧ settings = ({} : Settings).setAll given := by
  constructor
  · intro h
    rcases helps_or_refused_or_accepted rules arguments with hhelps | ⟨error, hrefused⟩ |
      ⟨given, haccepted⟩
    · simp [ofTexts_of_helps hhelps] at h
    · simp [ofTexts_of_refused hrefused] at h
    · rw [ofTexts_of_accepted haccepted] at h
      cases h
      exact ⟨given, haccepted, rfl⟩
  · rintro ⟨given, haccepted, rfl⟩
    exact ofTexts_of_accepted haccepted

/-- The rules for help make no difference to arguments that are accepted. -/
theorem ofTexts_eq_run_iff_of_rules (rules rules' : HelpRules) {settings : Settings} :
    ofTexts rules arguments = .ok (.run settings) ↔
      ofTexts rules' arguments = .ok (.run settings) := by
  rw [ofTexts_eq_run_iff, ofTexts_eq_run_iff]

end Invocation

/-! ## A value at once after a short switch -/

/-- No switch is spelled like the short switch of the command with more text at once after it. -/
theorem Switch.ofName?_command_cons (c : Char) (rest : List Char) :
    ofName? (String.ofList ('-' :: 'c' :: c :: rest)) = none := by
  have hne : ∀ name : String, name.toList ≠ '-' :: 'c' :: c :: rest →
      String.ofList ('-' :: 'c' :: c :: rest) ≠ name := by
    rintro name hname rfl
    exact hname String.toList_ofList
  rw [ofName?, List.lookup_eq_none_iff]
  intro spelling hmem
  simp only [spellings, List.mem_cons, List.not_mem_nil, or_false] at hmem
  rw [bne_iff_ne]
  rcases hmem with rfl | rfl | rfl | rfl <;>
    exact hne _ (by simp [shortHelp, longHelp, Setting.name])

namespace Argument

theorem ofText_command_cons {c : Char} (hc : c ≠ '=') (rest : List Char) :
    ofText (String.ofList ('-' :: 'c' :: c :: rest)) =
      .ok (.switch (.set .command) (some (.direct (String.ofList (c :: rest))))) := by
  have hshort : ofShort ('-' :: 'c' :: c :: rest) =
      .switch (.set .command) (some (.direct (String.ofList (c :: rest)))) := rfl
  have hunspelled : ofUnspelled ('-' :: 'c' :: c :: rest) =
      .ok (.switch (.set .command) (some (.direct (String.ofList (c :: rest))))) := by
    rw [ofUnspelled, hshort, if_neg]
    simp [dividerText]
  have hdashed : ofDashed ('-' :: 'c' :: c :: rest) =
      ofUnspelled ('-' :: 'c' :: c :: rest) := by
    have hbefore : ('-' :: 'c' :: c :: rest).takeWhile (· ≠ '=') =
        '-' :: 'c' :: c :: rest.takeWhile (· ≠ '=') := by
      simp [hc]
    unfold ofDashed cutAtEquals?
    rw [hbefore]
    cases ('-' :: 'c' :: c :: rest).dropWhile (· ≠ '=') with
    | nil => rfl
    | cons d value => simp only [Switch.ofName?_command_cons]
  unfold ofText
  rw [String.toList_ofList]
  simp only [Switch.ofName?_command_cons, hdashed, hunspelled]

end Argument

/-- One argument that begins with the short switch of the command gives it the text that follows, if
there is one and it does not begin with an equals sign. -/
theorem Invocation.accepted_command {line : String} (hne : line ≠ "")
    (hequals : line.toList.head? ≠ some '=') :
    Accepted [Setting.command.name ++ line] [(.command, line)] := by
  obtain ⟨c, rest, hline⟩ : ∃ c rest, line.toList = c :: rest :=
    List.exists_cons_of_ne_nil fun h ↦ hne (String.toList_eq_nil_iff.1 h)
  obtain rfl : String.ofList (c :: rest) = line := by rw [← hline, String.ofList_toList]
  have hc : c ≠ '=' := by simpa using hequals
  have htext : Setting.command.name ++ String.ofList (c :: rest) =
      String.ofList ('-' :: 'c' :: c :: rest) := by
    rw [← String.toList_inj, String.toList_append, String.toList_ofList, String.toList_ofList]
    rfl
  have hdivider : String.ofList ('-' :: 'c' :: c :: rest) ≠ Argument.dividerText := by
    rw [Ne, ← String.toList_inj, String.toList_ofList]
    simp [Argument.dividerText]
  refine ⟨[.switch (.set .command) (some (.direct (String.ofList (c :: rest))))], ?_,
    .attached _ _ .nil⟩
  rw [htext, Argument.ofTexts, if_neg hdivider, Argument.ofText_command_cons hc]
  rfl

end CommandShell
