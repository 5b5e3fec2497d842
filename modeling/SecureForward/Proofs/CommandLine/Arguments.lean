import SecureForward.CommandLine.Arguments
import SecureForward.Proofs.Text.Split

/-!
# Command lines that are read as they were meant

A `Setting` is one option with its value, if it has one, and `Setting.written` the text for it, in
which an equals sign stands between the two. `Sets` says which value an option gets by it. A command
with such settings is read as the arguments in which the options are set one after the other
(`parse_settings`): what stands in front of the first equals sign is always a whole spelling, so no
value can be mistaken for something else.
-/

namespace SecureForward.CommandLine

open SecureForward.Text (cut cut_eq_none_iff cut_eq_some_iff)

/-! ## Spellings -/

/-- How an option is written. -/
def Flag.name (flag : Flag) : String :=
  flag.spellings.headD ""

/-- No spelling holds an equals sign. -/
theorem Flag.equals_not_mem (flag : Flag) : ∀ spelling ∈ flag.spellings, '=' ∉ spelling.toList := by
  cases flag <;> decide

/-- A text with an equals sign is no spelling. -/
theorem flagOf?_of_equals {text : String} (h : '=' ∈ text.toList) (flags : List Flag) :
    flagOf? flags text = none := by
  unfold flagOf?
  rw [Option.map_eq_none_iff, List.find?_eq_none]
  intro entry hentry
  obtain ⟨flag, -, hmem⟩ := List.mem_flatMap.1 hentry
  obtain ⟨spelling, hspelling, rfl⟩ := List.mem_map.1 hmem
  have hnot := flag.equals_not_mem spelling hspelling
  rw [beq_iff_eq]
  rintro rfl
  exact hnot h

/-- Each option of a command is found by its name. -/
theorem flagOf?_name {command : Command} {flag : Flag} (h : flag ∈ flags command) :
    flagOf? (flags command) flag.name = some flag := by
  cases command <;> revert flag <;> decide

/-- The name of an option begins with a hyphen, and something stands behind it. -/
theorem Flag.name_eq (flag : Flag) :
    flag.name.toList.head? = some '-' ∧ 1 < flag.name.toList.length ∧
      flag.name ∈ flag.spellings := by
  cases flag <;> decide

/-! ## Settings -/

/-- An option, and the text of its value if it has one. -/
abbrev Setting := Flag × Option String

namespace Setting

/-- A setting on the command line. -/
def written : Setting → String
  | (flag, none) => flag.name
  | (flag, some value) => flag.name ++ "=" ++ value

/-- What is read of a setting that was written. -/
def token : Setting → Token
  | (flag, value?) => .option flag flag.name value?

/-- A setting is written as the name of the option, with an equals sign between it and the value. -/
theorem toList_written (setting : Setting) :
    setting.written.toList = setting.1.name.toList ++ setting.2.elim [] fun value =>
      '=' :: value.toList := by
  obtain ⟨flag, value?⟩ := setting
  cases value? with
  | none => simp [written]
  | some value =>
    change (flag.name ++ "=" ++ value).toList = _
    rw [String.toList_append, String.toList_append, List.append_assoc]
    rfl

/-- A setting begins with a hyphen. -/
theorem head?_written (setting : Setting) : setting.written.toList.head? = some '-' := by
  rw [toList_written, List.head?_append, setting.1.name_eq.1]
  rfl

/-- Something stands behind the hyphen. -/
theorem length_written_ne (setting : Setting) : setting.written.toList.length ≠ 1 := by
  have hname := setting.1.name_eq.2.1
  rw [toList_written, List.length_append]
  omega

/-- The name of the option is cut off from what is attached to it. -/
theorem cutValue_written (setting : Setting) :
    cutValue setting.written = (setting.1.name, setting.2) := by
  have htext := toList_written setting
  obtain ⟨flag, value?⟩ := setting
  have hname : '=' ∉ flag.name.toList := flag.equals_not_mem _ flag.name_eq.2.2
  unfold cutValue
  cases value? with
  | none =>
    rw [Option.elim_none, List.append_nil] at htext
    rw [htext, cut_eq_none_iff.2 ⟨hname, rfl⟩]
    simp
  | some value =>
    rw [Option.elim_some] at htext
    rw [htext, cut_eq_some_iff.2 ⟨hname, rfl⟩]
    simp

/-- A setting with a value is no spelling. -/
theorem flagOf?_written_some (flags : List Flag) (flag : Flag) (value : String) :
    flagOf? flags (written (flag, some value)) = none := by
  refine flagOf?_of_equals ?_ flags
  rw [toList_written]
  exact List.mem_append_right _ List.mem_cons_self

/-- A setting is not the two hyphens behind which there are no options. -/
theorem written_ne_separator (setting : Setting) : setting.written ≠ "--" := by
  obtain ⟨flag, value?⟩ := setting
  intro h
  have hcut := cutValue_written (flag, value?)
  rw [h] at hcut
  have hname : "--" = flag.name := congrArg Prod.fst hcut
  revert hname
  cases flag <;> decide

/-- A setting is read as the option with its value where the option exists. -/
theorem ofText_written {flags : List Flag} {setting : Setting}
    (h : flagOf? flags setting.1.name = some setting.1) :
    Token.ofText flags setting.written = .ok setting.token := by
  unfold Token.ofText
  dsimp only
  rw [if_neg (by simp [head?_written])]
  obtain ⟨flag, value?⟩ := setting
  cases value? with
  | none =>
    rw [show flagOf? flags (written (flag, none)) = some flag from h]
    rfl
  | some value =>
    have hvalue : flagWithValue? flags (written (flag, some value)) =
        some (token (flag, some value)) := by
      unfold flagWithValue?
      rw [cutValue_written]
      dsimp only
      rw [h]
      rfl
    rw [flagOf?_written_some]
    dsimp only
    rw [if_neg (length_written_ne _), hvalue]

/-- Settings are read as what they were written for. -/
theorem tokens_written {flags : List Flag} {settings : List Setting}
    (h : ∀ setting ∈ settings, flagOf? flags setting.1.name = some setting.1) :
    tokens flags (settings.map written) = .ok (settings.map token) := by
  induction settings with
  | nil => rfl
  | cons setting settings ih =>
    obtain ⟨hsetting, hsettings⟩ := List.forall_mem_cons.1 h
    rw [List.map_cons, tokens, if_neg (written_ne_separator setting), ofText_written hsetting,
      ih hsettings]
    rfl

/-- The program itself has no option of a command but help. -/
theorem flagOf?_written_of_ne_help {setting : Setting} (h : setting.1 ≠ .help) :
    flagOf? [.help] setting.written = none := by
  obtain ⟨flag, value?⟩ := setting
  cases value? with
  | none =>
    change flagOf? [.help] flag.name = none
    revert h
    cases flag <;> decide
  | some value => exact flagOf?_written_some [.help] flag value

/-- What is attached to such an option does not make it one of the program. -/
theorem flagWithValue?_written_of_ne_help {setting : Setting} (h : setting.1 ≠ .help) :
    flagWithValue? [.help] setting.written = none := by
  have hname : flagOf? [.help] setting.1.name = none :=
    @flagOf?_written_of_ne_help (setting.1, none) h
  unfold flagWithValue?
  rw [cutValue_written]
  cases setting.2 with
  | none => rfl
  | some value =>
    dsimp only
    rw [hname]
    rfl

/-- Such an option is no abbreviation of help, either. -/
theorem candidates_written_of_ne_help {setting : Setting} (h : setting.1 ≠ .help) :
    candidates [.help] setting.written = [] := by
  have hlong : (∃ rest, setting.1.name.toList = '-' :: '-' :: rest) ∧
      ∀ spelling ∈ Flag.spellings .help,
        setting.1.name.toList.isPrefixOf spelling.toList = false := by
    revert h
    cases setting.1 <;> first | exact fun h => absurd rfl h | exact fun _ => ⟨⟨_, rfl⟩, by decide⟩
  obtain ⟨⟨rest, hrest⟩, hnone⟩ := hlong
  unfold candidates
  rw [toList_written, hrest, cutValue_written]
  refine List.filterMap_eq_nil_iff.2 fun entry hentry => ?_
  obtain ⟨flag, hflag, hmem⟩ := List.mem_flatMap.1 hentry
  obtain rfl := List.mem_singleton.1 hflag
  obtain ⟨spelling, hspelling, rfl⟩ := List.mem_map.1 hmem
  simp [hnone spelling hspelling]

/-- For the program itself such a setting is something that it does not look at: an argument or an
unknown option. -/
theorem exists_ofText_written {setting : Setting} (h : setting.1 ≠ .help) :
    ∃ token, Token.ofText [.help] setting.written = .ok token := by
  unfold Token.ofText
  dsimp only
  rw [if_neg (by simp [head?_written]), flagOf?_written_of_ne_help h]
  dsimp only
  rw [if_neg (length_written_ne _), flagWithValue?_written_of_ne_help h]
  dsimp only
  rw [candidates_written_of_ne_help h]
  dsimp only
  split
  · exact ⟨_, rfl⟩
  · exact ⟨_, rfl⟩

end Setting

/-! ## The arguments of a command -/

/-- A command has an option, and a setting of it gives it a value. -/
inductive Sets (command : Command) : Setting → Value → Prop where
  /-- A value is attached to the option, and can be read. -/
  | value {flag : Flag} {text : String} {v : Value} (known : flag ∈ flags command)
      (takesValue : flag.takesValue = true) (reads : valueOf flag text = .ok v) :
    Sets command (flag, some text) v
  /-- The option is a switch. -/
  | switch {flag : Flag} (known : flag ∈ flags command) (takesValue : flag.takesValue = false)
      (ne_help : flag ≠ .help) :
    Sets command (flag, none) .null

variable {command : Command} {setting : Setting} {v : Value}

/-- The option of a setting is one of the command. -/
theorem Sets.known (h : Sets command setting v) : setting.1 ∈ flags command := by
  cases h with
  | value hknown => exact hknown
  | switch hknown => exact hknown

/-- No setting asks for help. -/
theorem Sets.ne_help (h : Sets command setting v) : setting.1 ≠ .help := by
  cases h with
  | @value flag _ _ _ htakes =>
    intro hhelp
    rw [show flag = .help from hhelp] at htakes
    cases htakes
  | switch _ _ hne => exact hne

/-- A setting gives a value to its option, and the rest is read after it. -/
theorem readArguments_token (h : Sets command setting v) (reading : Reading) (rest : List Token) :
    readArguments command reading (setting.token :: rest) =
      readArguments command (reading.give setting.1 v) rest := by
  cases h with
  | value _ htakes hreads =>
    rw [Setting.token, readArguments, if_pos htakes]
    dsimp only
    rw [hreads]
  | switch _ htakes hne =>
    conv =>
      lhs
      unfold Setting.token readArguments
    dsimp only [checkFlag]
    rw [if_neg (by simp [htakes]), if_neg hne]

variable {settings : List (Setting × Value)}

/-- The reading after some settings. -/
def Reading.giveAll (reading : Reading) (settings : List (Setting × Value)) : Reading :=
  settings.foldl (fun reading entry => reading.give entry.1.1 entry.2) reading

/-- Settings give values to their options one after the other. -/
theorem readArguments_tokens (h : ∀ entry ∈ settings, Sets command entry.1 entry.2)
    (reading : Reading) :
    readArguments command reading (settings.map (·.1.token)) = .ok (reading.giveAll settings) := by
  induction settings generalizing reading with
  | nil => rfl
  | cons entry settings ih =>
    obtain ⟨hentry, hsettings⟩ := List.forall_mem_cons.1 h
    rw [List.map_cons, readArguments_token hentry, ih hsettings]
    rfl

/-- The arguments in which options are set one after the other. -/
def setAll (arguments : Arguments) (settings : List (Setting × Value)) : Arguments :=
  settings.foldl (fun arguments entry => assign arguments entry.1.1 entry.2) arguments

/-- The options that settings are about. -/
def optionsOf (settings : List (Setting × Value)) : List Flag :=
  settings.map fun entry => entry.1.1

/-- Settings change the arguments and the options that were given; nothing is left over. -/
theorem giveAll_eq (reading : Reading) (settings : List (Setting × Value)) :
    reading.giveAll settings =
      { arguments := setAll reading.arguments settings
        given := (optionsOf settings).reverse ++ reading.given
        extras := reading.extras } := by
  induction settings generalizing reading with
  | nil => rfl
  | cons entry settings ih =>
    change (reading.give entry.1.1 entry.2).giveAll settings = _
    rw [ih, optionsOf, optionsOf, List.map_cons, List.reverse_cons, List.append_assoc]
    rfl

/-- A command with settings, among which no required option is missing, has the arguments in which
they are set. -/
theorem parseCommand_settings (h : ∀ entry ∈ settings, Sets command entry.1 entry.2)
    (hrequired : ∀ flag ∈ flags command, flag.isRequired = true → flag ∈ optionsOf settings)
    (acceptsNewHosts : Bool) :
    parseCommand acceptsNewHosts command (settings.map (·.1.written)) =
      .ok (setAll (noArguments acceptsNewHosts) settings, []) := by
  have htokens :
      tokens (flags command) (settings.map (·.1.written)) = .ok (settings.map (·.1.token)) := by
    have hfound : ∀ setting ∈ settings.map (·.1),
        flagOf? (flags command) setting.1.name = some setting.1 := by
      intro setting hsetting
      obtain ⟨entry, hentry, rfl⟩ := List.mem_map.1 hsetting
      exact flagOf?_name (h entry hentry).known
    have hwritten := Setting.tokens_written hfound
    rwa [List.map_map, List.map_map] at hwritten
  -- The options that were given are found in the reverse order of the settings.
  have hmissing : ((flags command).filter fun flag =>
      flag.isRequired && !((optionsOf settings).reverse ++ []).contains flag) = [] := by
    refine List.filter_eq_nil_iff.2 fun flag hflag => ?_
    cases hflagRequired : flag.isRequired with
    | false => simp
    | true => simpa using hrequired flag hflag hflagRequired
  unfold parseCommand
  rw [htokens]
  change (readArguments command _ _ >>= _) = _
  rw [readArguments_tokens h, giveAll_eq]
  change (if (!List.isEmpty (List.filter _ (flags command))) = true then _ else _) = _
  rw [hmissing]
  rfl

/-! ## The whole command line -/

/-- For the program itself the settings of a command are some tokens, as many as there are. -/
theorem exists_tokens_written {settings : List Setting}
    (h : ∀ setting ∈ settings, setting.1 ≠ .help) :
    ∃ read, tokens [.help] (settings.map Setting.written) = .ok read ∧
      read.length = settings.length := by
  induction settings with
  | nil => exact ⟨[], rfl, rfl⟩
  | cons setting settings ih =>
    obtain ⟨hsetting, hsettings⟩ := List.forall_mem_cons.1 h
    obtain ⟨token, htoken⟩ := Setting.exists_ofText_written hsetting
    obtain ⟨read, hread, hlength⟩ := ih hsettings
    refine ⟨token :: read, ?_, congrArg (· + 1) hlength⟩
    rw [List.map_cons, tokens, if_neg (Setting.written_ne_separator setting), htoken, hread]
    rfl

/-- A command is read by its word, and what stands behind it is left to the command. -/
theorem parse_command (command : Command) {settings : List Setting}
    (h : ∀ setting ∈ settings, setting.1 ≠ .help) {acceptsNewHosts : Bool} {arguments : Arguments}
    (hcommand : parseCommand acceptsNewHosts command (settings.map Setting.written) =
      .ok (arguments, [])) :
    parse acceptsNewHosts (command.word :: settings.map Setting.written) =
      .ok (some (command, arguments)) := by
  obtain ⟨read, hread, hlength⟩ := exists_tokens_written h
  have htokens : tokens [.help] (command.word :: settings.map Setting.written) =
      .ok (.argument command.word :: read) := by
    rw [tokens, if_neg (by cases command <;> decide), hread]
    cases command <;> rfl
  -- The texts are handed on to the command, not what the program made of them.
  have htexts :
      (read.zip (settings.map Setting.written)).map (·.2) = settings.map Setting.written := by
    refine List.map_snd_zip (Nat.le_of_eq ?_)
    rw [List.length_map, hlength]
  have hword : command? command.word = some command := by cases command <;> decide
  unfold parse
  rw [htokens]
  change (parseFrom acceptsNewHosts [] ((.argument command.word, command.word) ::
    read.zip (settings.map Setting.written)) >>= _) = _
  simp only [parseFrom]
  rw [hword]
  dsimp only
  rw [htexts, hcommand]
  rfl

/-- A command with settings, among which no required option is missing, is read as the arguments in
which they are set. -/
theorem parse_settings (h : ∀ entry ∈ settings, Sets command entry.1 entry.2)
    (hrequired : ∀ flag ∈ flags command, flag.isRequired = true → flag ∈ optionsOf settings)
    (acceptsNewHosts : Bool) :
    parse acceptsNewHosts (command.word :: settings.map (·.1.written)) =
      .ok (some (command, setAll (noArguments acceptsNewHosts) settings)) := by
  have hhelp : ∀ setting ∈ settings.map (·.1), setting.1 ≠ .help := by
    intro setting hsetting
    obtain ⟨entry, hentry, rfl⟩ := List.mem_map.1 hsetting
    exact (h entry hentry).ne_help
  have hcommand := parseCommand_settings h hrequired acceptsNewHosts
  have hwritten : settings.map (·.1.written) = (settings.map (·.1)).map Setting.written := by
    rw [List.map_map]
    rfl
  rw [hwritten] at hcommand ⊢
  exact parse_command command hhelp hcommand

end SecureForward.CommandLine
