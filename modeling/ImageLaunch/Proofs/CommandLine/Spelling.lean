import ImageLaunch.Proofs.CommandLine.Passthrough
import Mathlib.Data.List.Forall2
import Mathlib.Data.List.Perm.Basic

/-!
# ImageLaunch.Proofs.CommandLine.Spelling

Writing a command line that says a given thing.  An option may be spelled by its name or its
letter, with its value attached to it or in an argument of its own (`ValueSpelling`), and the
options may come in any order; behind `--` stand the segment and the arguments for the engine,
whatever they look like.

* `leadsTo_spelled` — reading any spelling of an option makes its setting;
* `matchFrom_escaped` — what stands behind `--` is taken by its place;
* `parseLaunch_spelled` — so every command line that is written in this way reads back as what it
  was to say.
-/

namespace ImageLaunch.CommandLine

open Command (Shape LeadsTo)

/-! ## Spellings -/

/-- The value can be an argument of its own: it begins with no hyphen, or is a lone one. -/
def StandsAlone (value : Bytes) : Prop := value.head? ≠ some 0x2D ∨ value = [0x2D]

/-- The arguments that give a value to an option with a long name and a letter. -/
inductive ValueSpelling (long letter value : Bytes) : List Bytes → Prop
  | longAttached :
      ValueSpelling long letter value [Bytes.ofString "--" ++ long ++ Bytes.ofString "=" ++ value]
  | letterEquals :
      ValueSpelling long letter value [Bytes.ofString "-" ++ letter ++ Bytes.ofString "=" ++ value]
  /-- An equals sign here would be taken as the mark in front of the value. -/
  | letterAttached : value.head? ≠ some 0x3D →
      ValueSpelling long letter value [Bytes.ofString "-" ++ letter ++ value]
  | longApart : StandsAlone value →
      ValueSpelling long letter value [Bytes.ofString "--" ++ long, value]
  | letterApart : StandsAlone value →
      ValueSpelling long letter value [Bytes.ofString "-" ++ letter, value]

/-- The arguments that make a setting. -/
inductive Spelled : LaunchSetting → List Bytes → Prop
  | engine {program : Bytes} {arguments : List Bytes} :
      ValueSpelling (Bytes.ofString "engine") (Bytes.ofString "e") program arguments →
      Spelled (.engine program) arguments
  | config {path : Bytes} {arguments : List Bytes} :
      ValueSpelling (Bytes.ofString "config") (Bytes.ofString "c") path arguments →
      Spelled (.config path) arguments
  | quietLetter : Spelled .quiet [Bytes.ofString "-q"]
  | quietLong : Spelled .quiet [Bytes.ofString "--quiet"]
  | verboseLetter : Spelled .verbose [Bytes.ofString "-v"]
  | verboseLong : Spelled .verbose [Bytes.ofString "--verbose"]

/-! ## The shapes of spellings -/

theorem ofString_hyphen : Bytes.ofString "-" = [0x2D] := rfl

theorem ofString_hyphens : Bytes.ofString "--" = [0x2D, 0x2D] := rfl

theorem ofString_equals : Bytes.ofString "=" = [0x3D] := rfl

theorem StandsAlone.shape {value : Bytes} (h : StandsAlone value) : Shape.of value = .plain := by
  rcases h with hhead | rfl
  · unfold Shape.of
    split <;> simp_all
  · rfl

theorem shape_long {body : Bytes} (h : body ≠ []) :
    Shape.of (0x2D :: 0x2D :: body) =
      .long (Bytes.cutAt 0x3D body).1 (Bytes.cutAt 0x3D body).2 := by
  cases body with
  | nil => exact absurd rfl h
  | cons first rest => rfl

theorem shape_letters {letter : UInt8} (rest : Bytes) (h : letter ≠ 0x2D) :
    Shape.of (0x2D :: letter :: rest) = .short (letter :: rest) := by
  unfold Shape.of
  split <;> simp_all

/-! ## Where the reading stands -/

/-- Some settings have been made, of which the last may still have to be settled, and options
are still read. -/
structure Reads (state : State LaunchSetting) (settings : List LaunchSetting) : Prop where
  settle : state.settle = (stateOf settings, none)
  escaped : state.escaped = false
  operandTaken : state.operandTaken = false

theorem reads_stateOf (settings : List LaunchSetting) : Reads (stateOf settings) settings where
  settle := rfl
  escaped := rfl
  operandTaken := rfl

/-- An option has been named, and waits for its value. -/
def awaitingState (settings : List LaunchSetting) (spec : OptionSpec LaunchSetting) :
    State LaunchSetting :=
  { stateOf settings with pending := some (.option spec, none) }

/-- An option has got its value, which has yet to be settled. -/
def valuedState (settings : List LaunchSetting) (spec : OptionSpec LaunchSetting) (value : Bytes) :
    State LaunchSetting :=
  { stateOf settings with pending := some (.option spec, some value) }

/-- An option of the launcher that takes a value, with its name and its letter. -/
structure Takes (spec : OptionSpec LaunchSetting) (long : Bytes) (letter : UInt8) : Prop where
  findLong : launchCommand.findLong long = some spec
  findShort : launchCommand.findShort letter = some spec
  effect : ∃ placeholder read, spec.effect = .value placeholder read
  long_ne : long ≠ []
  not_mem : 0x3D ∉ long
  letter_ne : letter ≠ 0x2D

theorem engineOption_takes : Takes engineOption (Bytes.ofString "engine") 0x65 where
  findLong := rfl
  findShort := rfl
  effect := ⟨_, _, rfl⟩
  long_ne := by decide
  not_mem := by decide
  letter_ne := by decide

theorem configOption_takes : Takes configOption (Bytes.ofString "config") 0x63 where
  findLong := rfl
  findShort := rfl
  effect := ⟨_, _, rfl⟩
  long_ne := by decide
  not_mem := by decide
  letter_ne := by decide

section Steps

variable (calledBy : String) {state : State LaunchSetting} {settings : List LaunchSetting}
  {setting : LaunchSetting} {spec : OptionSpec LaunchSetting} {long value : Bytes} {letter : UInt8}

/-- The state in which a value has come makes the setting when it is settled. -/
theorem reads_valuedState (hspec : setting.subject = .option spec)
    (hread : (Subject.option spec).readValue value = .ok setting)
    (hfresh : setting.topic ∉ settings.map LaunchSetting.topic) :
    Reads (valuedState settings spec value) (settings ++ [setting]) where
  settle := by
    have henter := @enter_setting (stateOf settings) settings setting rfl hfresh
    rw [hspec] at henter
    simp only [State.settle, valuedState, hread]
    exact henter
  escaped := rfl
  operandTaken := rfl

theorem trailingIsNext_of_reads (hreads : Reads state settings) :
    launchCommand.trailingIsNext state = false := by
  simp [Command.trailingIsNext, hreads.operandTaken, launchCommand]

/-- A cluster in front of the segment is read letter by letter. -/
theorem step_letters (hreads : Reads state settings) (hletter : letter ≠ 0x2D) (rest : Bytes) :
    launchCommand.step calledBy state (0x2D :: letter :: rest) =
      Command.Step.next <$> launchCommand.readLetters calledBy state (letter :: rest) := by
  have hnext := trailingIsNext_of_reads hreads
  simp only [Command.step, hreads.escaped, shape_letters rest hletter, Command.readShort, hnext]
  cases launchCommand.readLetters calledBy state (letter :: rest) <;> rfl

/-- A value behind the letter of its option makes the setting, without an equals sign in front
of it. -/
theorem readLetters_value (htakes : Takes spec long letter) (hreads : Reads state settings)
    (hspec : setting.subject = .option spec)
    (hread : (Subject.option spec).readValue value = .ok setting)
    (hfresh : setting.topic ∉ settings.map LaunchSetting.topic) {rest : Bytes} (hrest : rest ≠ [])
    (hvalue : rest = 0x3D :: value ∨ rest = value ∧ value.head? ≠ some 0x3D) :
    launchCommand.readLetters calledBy state (letter :: rest) =
      .ok (stateOf (settings ++ [setting])) := by
  obtain ⟨placeholder, read, heffect⟩ := htakes.effect
  have hgive := give_setting calledBy hreads.settle hspec (by simp [OptionSpec.sets, heffect])
    (by rw [hspec, hread]) hfresh
  rw [Command.readLetters, htakes.findShort]
  simp only [heffect]
  rcases hvalue with rfl | ⟨rfl, hequals⟩
  · exact hgive
  · split <;> simp_all

/-- The name of an option alone leaves it waiting for its value. -/
theorem await_of_reads (hreads : Reads state settings) :
    launchCommand.await calledBy state spec = .ok (awaitingState settings spec) := by
  simp only [Command.await, Command.settled, hreads.settle, Command.proceed, bind, Except.bind]
  rfl

theorem step_longApart (htakes : Takes spec long letter) (hreads : Reads state settings) :
    launchCommand.step calledBy state (0x2D :: 0x2D :: long) =
      .ok (.next (awaitingState settings spec)) := by
  obtain ⟨placeholder, read, heffect⟩ := htakes.effect
  simp only [Command.step, hreads.escaped, shape_long htakes.long_ne,
    Bytes.cutAt_of_not_mem htakes.not_mem, Command.readLong, htakes.findLong, heffect,
    await_of_reads calledBy hreads]
  rfl

theorem step_letterApart (htakes : Takes spec long letter) (hreads : Reads state settings) :
    launchCommand.step calledBy state [0x2D, letter] =
      .ok (.next (awaitingState settings spec)) := by
  obtain ⟨placeholder, read, heffect⟩ := htakes.effect
  rw [step_letters calledBy hreads htakes.letter_ne, Command.readLetters, htakes.findShort]
  simp only [heffect, await_of_reads calledBy hreads]
  rfl

/-- An option that waits takes the next argument if that can be a value. -/
theorem step_value (hvalue : StandsAlone value) :
    launchCommand.step calledBy (awaitingState settings spec) value =
      .ok (.next (valuedState settings spec value)) := by
  rw [Command.step, if_neg (by simp [awaitingState, stateOf]), hvalue.shape]
  rfl

/-- However a value is given to an option, it makes the setting. -/
theorem leadsTo_value (htakes : Takes spec long letter) (hreads : Reads state settings)
    (hspec : setting.subject = .option spec)
    (hread : (Subject.option spec).readValue value = .ok setting)
    (hfresh : setting.topic ∉ settings.map LaunchSetting.topic) (hvalue : value ≠ [])
    {arguments : List Bytes} (hspelled : ValueSpelling long [letter] value arguments) :
    ∃ next, Reads next (settings ++ [setting]) ∧
      LeadsTo launchCommand calledBy state arguments next := by
  cases hspelled with
  | longAttached =>
      have hshape : Shape.of (Bytes.ofString "--" ++ long ++ Bytes.ofString "=" ++ value) =
          .long long (some value) := by
        have hargument : Bytes.ofString "--" ++ long ++ Bytes.ofString "=" ++ value =
            0x2D :: 0x2D :: (long ++ 0x3D :: value) := by
          simp [ofString_hyphens, ofString_equals]
        rw [hargument, shape_long (by simp), Bytes.cutAt_append value htakes.not_mem]
      obtain ⟨placeholder, read, heffect⟩ := htakes.effect
      have hstep := step_long calledBy hreads.settle hreads.escaped hshape htakes.findLong heffect
        hspec (by rw [hspec, hread]) hfresh
      exact ⟨_, reads_stateOf _, .of_step hstep⟩
  | letterEquals =>
      have hargument : Bytes.ofString "-" ++ [letter] ++ Bytes.ofString "=" ++ value =
          0x2D :: letter :: 0x3D :: value := by
        simp [ofString_hyphen, ofString_equals]
      have hletters := readLetters_value calledBy htakes hreads hspec hread hfresh
        (List.cons_ne_nil 0x3D value) (.inl rfl)
      refine ⟨_, reads_stateOf _, .of_step ?_⟩
      rw [hargument, step_letters calledBy hreads htakes.letter_ne, hletters]
      rfl
  | letterAttached hequals =>
      have hargument : Bytes.ofString "-" ++ [letter] ++ value = 0x2D :: letter :: value := by
        simp [ofString_hyphen]
      have hletters := readLetters_value calledBy htakes hreads hspec hread hfresh hvalue
        (.inr ⟨rfl, hequals⟩)
      refine ⟨_, reads_stateOf _, .of_step ?_⟩
      rw [hargument, step_letters calledBy hreads htakes.letter_ne, hletters]
      rfl
  | longApart halone =>
      exact ⟨_, reads_valuedState hspec hread hfresh,
        (LeadsTo.of_step (step_longApart calledBy htakes hreads)).append
          (.of_step (step_value calledBy halone))⟩
  | letterApart halone =>
      exact ⟨_, reads_valuedState hspec hread hfresh,
        (LeadsTo.of_step (step_letterApart calledBy htakes hreads)).append
          (.of_step (step_value calledBy halone))⟩

/-- A flag given by its name makes its setting. -/
theorem step_flag (hreads : Reads state settings) {argument : Bytes}
    (hshape : Shape.of argument = .long long none)
    (hlong : launchCommand.findLong long = some spec) (hset : spec.effect = .set setting)
    (hspec : setting.subject = .option spec)
    (hfresh : setting.topic ∉ settings.map LaunchSetting.topic) :
    launchCommand.step calledBy state argument = .ok (.next (stateOf (settings ++ [setting]))) := by
  have hread : setting.subject.readValue [] = .ok setting := by
    rw [hspec, Subject.readValue, hset]
  have hgive := give_setting calledBy hreads.settle hspec (by simp [OptionSpec.sets, hset]) hread
    hfresh
  simp only [Command.step, hreads.escaped, hshape, Command.readLong, hlong, hset, hgive]
  rfl

/-- Reading any spelling of an option makes its setting. -/
theorem leadsTo_spelled (hreads : Reads state settings) {arguments : List Bytes}
    (hspelled : Spelled setting arguments) (hoption : setting.IsOption)
    (hfresh : setting.topic ∉ settings.map LaunchSetting.topic) :
    ∃ next, Reads next (settings ++ [setting]) ∧
      LeadsTo launchCommand calledBy state arguments next := by
  cases hspelled with
  | engine hspelled =>
      exact leadsTo_value calledBy engineOption_takes hreads rfl (readValue_engine hoption) hfresh
        hoption hspelled
  | config hspelled =>
      exact leadsTo_value calledBy configOption_takes hreads rfl (readValue_config hoption) hfresh
        hoption hspelled
  | quietLetter =>
      exact ⟨_, reads_stateOf _, .of_step (step_letter calledBy hreads.settle hreads.escaped
        hreads.operandTaken rfl rfl rfl rfl hfresh)⟩
  | quietLong =>
      exact ⟨_, reads_stateOf _, .of_step (step_flag calledBy hreads rfl rfl rfl rfl hfresh)⟩
  | verboseLetter =>
      exact ⟨_, reads_stateOf _, .of_step (step_letter calledBy hreads.settle hreads.escaped
        hreads.operandTaken rfl rfl rfl rfl hfresh)⟩
  | verboseLong =>
      exact ⟨_, reads_stateOf _, .of_step (step_flag calledBy hreads rfl rfl rfl rfl hfresh)⟩

/-- Spellings one after the other make their settings, in order. -/
theorem leadsTo_flatten {done todo : List LaunchSetting} {groups : List (List Bytes)}
    (hreads : Reads state done) (hspelled : List.Forall₂ Spelled todo groups)
    (hoption : ∀ setting ∈ todo, setting.IsOption)
    (hnodup : ((done ++ todo).map LaunchSetting.topic).Nodup) :
    ∃ next, Reads next (done ++ todo) ∧
      LeadsTo launchCommand calledBy state groups.flatten next := by
  induction hspelled generalizing done state with
  | nil =>
      rw [List.append_nil]
      exact ⟨state, hreads, .refl state⟩
  | @cons setting group todo groups hhead htail ih =>
      have hfresh : setting.topic ∉ done.map LaunchSetting.topic := by
        rw [List.map_append, List.map_cons] at hnodup
        exact fun hmem => (List.nodup_append.mp hnodup).2.2 _ hmem _ List.mem_cons_self rfl
      obtain ⟨middle, hmiddle, hgroup⟩ :=
        leadsTo_spelled calledBy hreads hhead (hoption setting List.mem_cons_self) hfresh
      obtain ⟨next, hnext, hgroups⟩ := ih hmiddle
        (fun other hother => hoption other (List.mem_cons_of_mem setting hother))
        (by simpa using hnodup)
      refine ⟨next, by simpa using hnext, ?_⟩
      rw [List.flatten_cons]
      exact hgroup.append hgroups

/-! ## Behind the escape -/

/-- Ending the options does not touch what is pending. -/
theorem settle_escaped (state : State LaunchSetting) :
    { state with escaped := true }.settle =
      ({ state.settle.1 with escaped := true }, state.settle.2) := by
  obtain ⟨given, pending, operandTaken, escaped⟩ := state
  rcases pending with _ | ⟨subject, _ | value⟩
  · rfl
  · rfl
  · by_cases hhas : (given.any fun entry => entry.1.same subject) = true
    · simp only [State.settle, State.enter, State.has, hhas, if_true]
    · simp only [State.settle, State.enter, State.has, hhas]
      cases subject.readValue value <;> rfl

/-- Behind the escape the segment is taken, and everything after it, as it is. -/
theorem matchFrom_escaped (hreads : Reads state settings) {segment : Bytes}
    (hsegment : segment ≠ []) (hfresh : .segment ∉ settings.map LaunchSetting.topic)
    (hflags : ¬ (.quiet ∈ settings ∧ .verbose ∈ settings)) (args : List Bytes) :
    launchCommand.matchFrom calledBy state (Bytes.ofString "--" :: segment :: args) =
      .ok ⟨settings ++ [.segment segment], args⟩ := by
  have hescape : launchCommand.step calledBy state (Bytes.ofString "--") =
      .ok (.next { state with escaped := true }) := by
    rw [Command.step, hreads.escaped]
    rfl
  have htake : launchCommand.step calledBy { state with escaped := true } segment =
      .ok (.next { segmentState settings segment with escaped := true }) := by
    have hoperand : launchCommand.operand = some segmentOperand := rfl
    have hfree : { state with escaped := true }.operandTaken = false := hreads.operandTaken
    rw [Command.step, if_pos rfl, Command.takeOperand_of_free segment hoperand hfree,
      Command.settled, settle_escaped, hreads.settle]
    rfl
  have hsettle : { segmentState settings segment with escaped := true }.settle =
      ({ completeState settings segment with escaped := true }, none) := by
    rw [settle_escaped, settle_segmentState hsegment hfresh]
  rw [Command.matchFrom_next _ hescape, Command.matchFrom_next _ htake]
  cases args with
  | nil => exact finish_of_given calledBy [] hsettle rfl hflags
  | cons first rest =>
      have htrail : launchCommand.step calledBy
          { segmentState settings segment with escaped := true } first =
            .ok (.trail { completeState settings segment with escaped := true }) := by
        rw [Command.step, if_pos rfl, Command.takeOperand_of_trailingIsNext first rfl,
          Command.settled, hsettle]
        rfl
      rw [Command.matchFrom_trail rest htrail]
      exact finish_of_given calledBy (first :: rest) rfl rfl hflags

end Steps

/-! ## The whole command line -/

namespace LaunchArguments

/-- The settings that say what a command line is to say in front of the segment. -/
def settings (arguments : LaunchArguments) : List LaunchSetting :=
  arguments.engine.toList.map .engine ++ arguments.config.toList.map .config ++
    (if arguments.quiet then [.quiet] else []) ++ if arguments.verbose then [.verbose] else []

/-- What can be said by a command line: paths are not empty, and the flags are not both given. -/
structure Sayable (arguments : LaunchArguments) : Prop where
  engine : ∀ program ∈ arguments.engine, program ≠ []
  config : ∀ path ∈ arguments.config, path ≠ []
  segment : arguments.segment ≠ []
  flags : ¬ (arguments.quiet = true ∧ arguments.verbose = true)

variable {arguments : LaunchArguments}

theorem Sayable.isOption (h : arguments.Sayable) :
    ∀ setting ∈ arguments.settings, setting.IsOption := by
  intro setting hsetting
  simp only [settings, List.mem_append, List.mem_map, Option.mem_toList] at hsetting
  rcases hsetting with ((⟨program, hprogram, rfl⟩ | ⟨path, hpath, rfl⟩) | hquiet) | hverbose
  · exact h.engine program hprogram
  · exact h.config path hpath
  · split at hquiet <;> simp_all [LaunchSetting.IsOption]
  · split at hverbose <;> simp_all [LaunchSetting.IsOption]

theorem Sayable.nodup (h : arguments.Sayable) :
    (arguments.settings.map LaunchSetting.topic).Nodup := by
  obtain ⟨engine, config, quiet, verbose, segment, args⟩ := arguments
  have hflags : ¬ (quiet = true ∧ verbose = true) := h.flags
  cases engine <;> cases config <;> cases quiet <;> cases verbose <;>
    simp_all [settings, LaunchSetting.topic]

/-- Some settings are options in front of the segment, in any order. -/
def Sayable.leading (h : arguments.Sayable) {order : List LaunchSetting}
    (horder : order.Perm arguments.settings) : Leading where
  settings := order
  isOption setting hsetting := h.isOption setting (horder.mem_iff.mp hsetting)
  nodup := (horder.map LaunchSetting.topic).nodup_iff.mpr h.nodup

/-- What is found at most once is found in any order. -/
theorem findSome?_of_perm {α : Type} {order : List LaunchSetting} {found : Option α}
    {find : LaunchSetting → Option α} (horder : order.Perm arguments.settings)
    (hfind : arguments.settings.filterMap find = found.toList) :
    order.findSome? find = found := by
  have hperm : (order.filterMap find).Perm found.toList := hfind ▸ horder.filterMap find
  rw [← List.head?_filterMap]
  cases found with
  | none => rw [List.perm_nil.mp hperm]; rfl
  | some value => rw [List.perm_singleton.mp hperm]; rfl

/-- The settings say what they are to say. -/
theorem settings_say (arguments : LaunchArguments) :
    arguments.settings.filterMap LaunchSetting.engine? = arguments.engine.toList ∧
      arguments.settings.filterMap LaunchSetting.config? = arguments.config.toList ∧
      arguments.settings.contains .quiet = arguments.quiet ∧
      arguments.settings.contains .verbose = arguments.verbose := by
  obtain ⟨engine, config, quiet, verbose, segment, args⟩ := arguments
  cases engine <;> cases config <;> cases quiet <;> cases verbose <;> exact ⟨rfl, rfl, rfl, rfl⟩

/-- In any order the settings say the same. -/
theorem Sayable.leading_arguments (h : arguments.Sayable) {order : List LaunchSetting}
    (horder : order.Perm arguments.settings) :
    (h.leading horder).arguments arguments.segment arguments.args = arguments := by
  obtain ⟨hengine, hconfig, hquiet, hverbose⟩ := arguments.settings_say
  rw [Leading.arguments, leading, findSome?_of_perm horder hengine,
    findSome?_of_perm horder hconfig, horder.contains_eq, hquiet, horder.contains_eq, hverbose]

end LaunchArguments

/-- **A command line says what it is written to say.**  Options in any order, each in any of its
spellings, and behind `--` the segment and the arguments for the engine, read back as the values
they were written for. -/
theorem parseLaunch_spelled (name : Bytes) {arguments : LaunchArguments}
    (hsayable : arguments.Sayable) {order : List LaunchSetting}
    (horder : order.Perm arguments.settings) {groups : List (List Bytes)}
    (hspelled : List.Forall₂ Spelled order groups) :
    parseLaunch (name :: (groups.flatten ++
      Bytes.ofString "--" :: arguments.segment :: arguments.args)) = .ok arguments := by
  let leading := hsayable.leading horder
  obtain ⟨state, hreads, hgroups⟩ := leadsTo_flatten ((programName? name).getD "image-launcher")
    (reads_stateOf []) hspelled leading.isOption leading.nodup
  have hbehind := matchFrom_escaped ((programName? name).getD "image-launcher") hreads
    hsayable.segment leading.segment_fresh leading.flags arguments.args
  have hmatched := (hgroups (Bytes.ofString "--" :: arguments.segment :: arguments.args)).trans
    hbehind
  have hread : parseLaunch (name :: (groups.flatten ++
      Bytes.ofString "--" :: arguments.segment :: arguments.args)) =
        .ok (.ofMatches ⟨leading.settings ++ [.segment arguments.segment], arguments.args⟩) :=
    congrArg (Except.map LaunchArguments.ofMatches) hmatched
  rw [hread, leading.ofMatches_eq, hsayable.leading_arguments horder]

/-- The flag by its name, the configuration behind its letter, an engine that is no text in an
argument of its own, a segment like an option, and arguments that the launcher knows itself. -/
theorem parseLaunch_spelled_awkward :
    let arguments : LaunchArguments := {
      engine := some [0x3D, 0xFF, 0x20]
      config := some (Bytes.ofString "-c.toml")
      quiet := false
      verbose := true
      segment := Bytes.ofString "--help"
      args := [Bytes.ofString "--", [], Bytes.ofString "-q"] }
    let order : List LaunchSetting :=
      [.verbose, .config (Bytes.ofString "-c.toml"), .engine [0x3D, 0xFF, 0x20]]
    let groups : List (List Bytes) := [
      [Bytes.ofString "--verbose"], [Bytes.ofString "-c-c.toml"],
      [Bytes.ofString "--engine", [0x3D, 0xFF, 0x20]]]
    arguments.Sayable ∧ order.Perm arguments.settings ∧ List.Forall₂ Spelled order groups ∧
      parseLaunch (Bytes.ofString "prog" :: (groups.flatten ++
        Bytes.ofString "--" :: arguments.segment :: arguments.args)) = .ok arguments := by
  intro arguments order groups
  have hsayable : arguments.Sayable := ⟨by decide, by decide, by decide, by decide⟩
  have horder : order.Perm arguments.settings := by decide
  have hspelled : List.Forall₂ Spelled order groups :=
    .cons .verboseLong (.cons (.config (.letterAttached (by decide)))
      (.cons (.engine (.longApart (.inl (by decide)))) .nil))
  exact ⟨hsayable, horder, hspelled, parseLaunch_spelled _ hsayable horder hspelled⟩

end ImageLaunch.CommandLine
