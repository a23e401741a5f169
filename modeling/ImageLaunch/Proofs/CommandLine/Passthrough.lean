import ImageLaunch.CommandLine.Launch
import ImageLaunch.Proofs.CommandLine.Reading
import Mathlib.Data.List.Nodup

/-!
# ImageLaunch.Proofs.CommandLine.Passthrough

What becomes of the arguments that follow the segment.  `Leading` options stand in front of
the segment, each with its value attached and each topic at most once; they fix everything
but the arguments for the engine.

Those are all the arguments that follow if none follows or the first of them is `HandedOn`:
the launcher goes on reading its own options until the first argument that it does not know.
`parseLaunch_leading_iff` says so, and `parseLaunch_flag_after_segment` is the shortest
case of an argument that is not handed on.  Once one argument is handed on, all that follow it
are, however they were reached (`parseLaunch_append_of_args`).
-/

namespace ImageLaunch.CommandLine

open Command (Shape)

/-! ## Options in front of the segment -/

/-- What a setting is about; the two flags are about the same thing. -/
inductive Topic
  | engine
  | config
  | verbosity
  | segment
  deriving DecidableEq

namespace LaunchSetting

/-- What the setting is about. -/
def topic : LaunchSetting → Topic
  | .engine _ => .engine
  | .config _ => .config
  | .quiet | .verbose => .verbosity
  | .segment _ => .segment

/-- The option or operand that makes the setting. -/
def subject : LaunchSetting → Subject LaunchSetting
  | .engine _ => .option engineOption
  | .config _ => .option configOption
  | .quiet => .option quietOption
  | .verbose => .option verboseOption
  | .segment _ => .operand segmentOperand

/-- The setting as one argument. -/
def spelling : LaunchSetting → Bytes
  | .engine program => Bytes.ofString "--engine=" ++ program
  | .config path => Bytes.ofString "--config=" ++ path
  | .quiet => Bytes.ofString "-q"
  | .verbose => Bytes.ofString "-v"
  | .segment path => path

/-- The setting is an option, with a value if it takes one. -/
def IsOption : LaunchSetting → Prop
  | .engine value | .config value => value ≠ []
  | .quiet | .verbose => True
  | .segment _ => False

theorem shown_ne_of_topic_ne {a b : LaunchSetting} (h : a.topic ≠ b.topic) :
    a.subject.shown ≠ b.subject.shown := by
  cases a <;> cases b <;> simp only [subject] <;> first | exact absurd rfl h | decide

end LaunchSetting

/-- Options in front of the segment: each has a value if it takes one, and no topic comes
twice. -/
structure Leading where
  settings : List LaunchSetting
  isOption : ∀ setting ∈ settings, setting.IsOption
  nodup : (settings.map LaunchSetting.topic).Nodup

/-- What the command line says if it gives these options, a segment and the arguments to hand
on. -/
def Leading.arguments (leading : Leading) (segment : Bytes) (args : List Bytes) :
    LaunchArguments where
  engine := leading.settings.findSome? LaunchSetting.engine?
  config := leading.settings.findSome? LaunchSetting.config?
  quiet := leading.settings.contains .quiet
  verbose := leading.settings.contains .verbose
  segment := segment
  args := args

/-- What a state has been given once some settings are made, in order. -/
def givenFor (settings : List LaunchSetting) :
    List (Subject LaunchSetting × Option LaunchSetting) :=
  settings.map fun setting => (setting.subject, some setting)

/-- The state in which some options have made their settings. -/
def stateOf (settings : List LaunchSetting) : State LaunchSetting := { given := givenFor settings }

/-- A setting that is entered for the first time is added at the end. -/
theorem enter_setting {state : State LaunchSetting} {settings : List LaunchSetting}
    {setting : LaunchSetting} (hgiven : state.given = givenFor settings)
    (hfresh : setting.topic ∉ settings.map LaunchSetting.topic) :
    state.enter setting.subject (.ok setting) =
      ({ state with given := givenFor (settings ++ [setting]) }, none) := by
  have hhas : state.has setting.subject = false := by
    rw [State.has, List.any_eq_false, hgiven]
    intro entry hentry
    obtain ⟨other, hother, rfl⟩ := List.mem_map.mp hentry
    have htopic : other.topic ≠ setting.topic :=
      fun heq => hfresh (List.mem_map.mpr ⟨other, hother, heq⟩)
    simpa [Subject.same] using LaunchSetting.shown_ne_of_topic_ne htopic
  exact State.enter_eq_iff.mpr ⟨hhas, setting, rfl, by simp [hgiven, givenFor]⟩

/-! ## Reading the options -/

/-- A value that may not be empty makes its setting if it is not. -/
theorem read_eq_ok_iff {make : Bytes → LaunchSetting} {rename : ValueFault → Problem}
    {value : Bytes} {setting : LaunchSetting} :
    ((nonEmpty value).map make).mapError rename = .ok setting ↔
      make value = setting ∧ value ≠ [] := by
  rw [mapError_eq_ok_iff, map_eq_ok_iff, nonEmpty]
  split <;> simp_all

theorem readValue_engine {program : Bytes} (h : program ≠ []) :
    (Subject.option engineOption).readValue program = .ok (.engine program) :=
  read_eq_ok_iff.mpr ⟨rfl, h⟩

theorem readValue_config {path : Bytes} (h : path ≠ []) :
    (Subject.option configOption).readValue path = .ok (.config path) :=
  read_eq_ok_iff.mpr ⟨rfl, h⟩

theorem readValue_segment {path : Bytes} (h : path ≠ []) :
    (Subject.operand segmentOperand).readValue path = .ok (.segment path) :=
  read_eq_ok_iff.mpr ⟨rfl, h⟩

section

variable (calledBy : String)

/-- Giving an option makes its setting, once what was pending is settled. -/
theorem give_setting {state : State LaunchSetting} {settings : List LaunchSetting}
    {setting : LaunchSetting} {spec : OptionSpec LaunchSetting} {value : Bytes}
    (hsettle : state.settle = (stateOf settings, none)) (hspec : setting.subject = .option spec)
    (hsets : spec.sets) (hread : setting.subject.readValue value = .ok setting)
    (hfresh : setting.topic ∉ settings.map LaunchSetting.topic) :
    launchCommand.give calledBy state spec value = .ok (stateOf (settings ++ [setting])) := by
  have henter := @enter_setting (stateOf settings) settings setting rfl hfresh
  rw [hspec] at hread henter
  simp only [Command.give, Command.settled, hsettle, Command.proceed, bind, Except.bind]
  split
  · simp_all [OptionSpec.sets]
  · simp_all [OptionSpec.sets]
  · rw [hread, henter]
    rfl

/-- A long option with its value attached makes its setting. -/
theorem step_long {state : State LaunchSetting} {settings : List LaunchSetting}
    {setting : LaunchSetting} {spec : OptionSpec LaunchSetting} {argument long value : Bytes}
    {placeholder : String} {read : Bytes → Except ValueFault LaunchSetting}
    (hsettle : state.settle = (stateOf settings, none)) (hescaped : state.escaped = false)
    (hshape : Shape.of argument = .long long (some value))
    (hlong : launchCommand.findLong long = some spec)
    (hvalue : spec.effect = .value placeholder read)
    (hspec : setting.subject = .option spec) (hread : setting.subject.readValue value = .ok setting)
    (hfresh : setting.topic ∉ settings.map LaunchSetting.topic) :
    launchCommand.step calledBy state argument = .ok (.next (stateOf (settings ++ [setting]))) := by
  have hgive := give_setting calledBy hsettle hspec (by simp [OptionSpec.sets, hvalue]) hread hfresh
  simp only [Command.step, hescaped, hshape, Command.readLong, hlong, hvalue, hgive]
  rfl

/-- A flag given by its letter makes its setting. -/
theorem step_letter {state : State LaunchSetting} {settings : List LaunchSetting}
    {setting : LaunchSetting} {spec : OptionSpec LaunchSetting} {letter : UInt8}
    (hsettle : state.settle = (stateOf settings, none)) (hescaped : state.escaped = false)
    (htaken : state.operandTaken = false)
    (hshape : Shape.of [0x2D, letter] = .short [letter])
    (hshort : launchCommand.findShort letter = some spec) (hset : spec.effect = .set setting)
    (hspec : setting.subject = .option spec)
    (hfresh : setting.topic ∉ settings.map LaunchSetting.topic) :
    launchCommand.step calledBy state [0x2D, letter] =
      .ok (.next (stateOf (settings ++ [setting]))) := by
  have hread : setting.subject.readValue [] = .ok setting := by
    rw [hspec, Subject.readValue, hset]
  have hgive := give_setting calledBy hsettle hspec (by simp [OptionSpec.sets, hset]) hread hfresh
  have hnext : launchCommand.trailingIsNext state = false := by
    simp [Command.trailingIsNext, htaken, launchCommand]
  simp only [Command.step, hescaped, hshape, Command.readShort, hnext, Command.readLetters,
    hshort, hset, hgive]
  rfl

/-- An option in front of the segment makes its setting. -/
theorem step_spelling {settings : List LaunchSetting} {setting : LaunchSetting}
    (hoption : setting.IsOption) (hfresh : setting.topic ∉ settings.map LaunchSetting.topic) :
    launchCommand.step calledBy (stateOf settings) setting.spelling =
      .ok (.next (stateOf (settings ++ [setting]))) := by
  cases setting with
  | segment => exact hoption.elim
  | engine program =>
      have hshape : Shape.of (LaunchSetting.engine program).spelling =
          .long (Bytes.ofString "engine") (some program) := by
        simp [LaunchSetting.spelling, Bytes.ofString, String.utf8EncodeChar, Shape.of, Bytes.cutAt]
      exact step_long calledBy rfl rfl hshape rfl rfl rfl (readValue_engine hoption) hfresh
  | config path =>
      have hshape : Shape.of (LaunchSetting.config path).spelling =
          .long (Bytes.ofString "config") (some path) := by
        simp [LaunchSetting.spelling, Bytes.ofString, String.utf8EncodeChar, Shape.of, Bytes.cutAt]
      exact step_long calledBy rfl rfl hshape rfl rfl rfl (readValue_config hoption) hfresh
  | quiet => exact step_letter calledBy rfl rfl rfl rfl rfl rfl rfl hfresh
  | verbose => exact step_letter calledBy rfl rfl rfl rfl rfl rfl rfl hfresh

/-- A run of options in front of the segment makes their settings, in order. -/
theorem matchFrom_spellings (done todo : List LaunchSetting) (rest : List Bytes)
    (hoption : ∀ setting ∈ todo, setting.IsOption)
    (hnodup : ((done ++ todo).map LaunchSetting.topic).Nodup) :
    launchCommand.matchFrom calledBy (stateOf done) (todo.map LaunchSetting.spelling ++ rest) =
      launchCommand.matchFrom calledBy (stateOf (done ++ todo)) rest := by
  induction todo generalizing done with
  | nil => simp
  | cons setting todo ih =>
      have hfresh : setting.topic ∉ done.map LaunchSetting.topic := by
        rw [List.map_append, List.map_cons] at hnodup
        exact fun hmem => (List.nodup_append.mp hnodup).2.2 _ hmem _ List.mem_cons_self rfl
      have hstep := step_spelling calledBy (hoption setting List.mem_cons_self) hfresh
      rw [List.map_cons, List.cons_append, Command.matchFrom_next _ hstep,
        ih _ (fun other hother => hoption other (List.mem_cons_of_mem setting hother))
          (by simpa using hnodup)]
      simp

/-! ## The segment, and the end -/

/-- The state in which the options and the segment have been made. -/
def completeState (settings : List LaunchSetting) (segment : Bytes) : State LaunchSetting :=
  { stateOf (settings ++ [.segment segment]) with operandTaken := true }

/-- The state right after the segment, which has yet to be settled. -/
def segmentState (settings : List LaunchSetting) (segment : Bytes) : State LaunchSetting :=
  { stateOf settings with
    pending := some (.operand segmentOperand, some segment)
    operandTaken := true }

theorem step_segment {settings : List LaunchSetting} {segment : Bytes}
    (hplain : Shape.of segment = .plain) :
    launchCommand.step calledBy (stateOf settings) segment =
      .ok (.next (segmentState settings segment)) := by
  rw [Command.step, if_neg (by simp [stateOf]), hplain]
  rfl

theorem settle_segmentState {settings : List LaunchSetting} {segment : Bytes}
    (hsegment : segment ≠ []) (hfresh : .segment ∉ settings.map LaunchSetting.topic) :
    (segmentState settings segment).settle = (completeState settings segment, none) := by
  have henter := @enter_setting { segmentState settings segment with pending := none } settings
    (.segment segment) rfl hfresh
  rw [LaunchSetting.subject] at henter
  simp only [State.settle, segmentState, readValue_segment hsegment]
  exact henter

/-- Of the launcher's options only the two flags exclude each other. -/
theorem excludes_subject {a b : LaunchSetting}
    (h : launchCommand.excludes a.subject b.subject = true) :
    a = .quiet ∧ b = .verbose ∨ a = .verbose ∧ b = .quiet := by
  cases a <;> cases b <;> simp only [LaunchSetting.subject] at h <;>
    first | exact absurd h (by decide) | simp

section Given

variable {state : State LaunchSetting} {settings : List LaunchSetting} {segment : Bytes}

theorem conflict?_of_given (hgiven : state.given = givenFor (settings ++ [.segment segment]))
    (hflags : ¬ (.quiet ∈ settings ∧ .verbose ∈ settings)) :
    launchCommand.conflict? state = none := by
  rw [Command.conflict?_eq_none_iff]
  intro first hfirst second hsecond
  rw [Bool.eq_false_iff]
  intro hexcludes
  simp only [State.subjects, hgiven, givenFor, List.map_map, List.mem_map] at hfirst hsecond
  obtain ⟨a, ha, rfl⟩ := hfirst
  obtain ⟨b, hb, rfl⟩ := hsecond
  rcases excludes_subject hexcludes with ⟨rfl, rfl⟩ | ⟨rfl, rfl⟩ <;> simp_all

/-- Only the segment has to be given. -/
theorem missing_of_given (hgiven : state.given = givenFor (settings ++ [.segment segment])) :
    launchCommand.missing state = [] := by
  have hneeded : launchCommand.requiredOptions.map Subject.option ++
      launchCommand.operand.toList.map Subject.operand = [.operand segmentOperand] := rfl
  have hhas : state.has (.operand segmentOperand) = true := by
    simp [State.has, hgiven, givenFor, LaunchSetting.subject, Subject.same]
  simp [Command.missing, hneeded, hhas]

/-- Once the options and the segment are there, whatever trails completes the command line. -/
theorem finish_of_given {next : State LaunchSetting} (trailing : List Bytes)
    (hsettle : state.settle = (next, none))
    (hgiven : next.given = givenFor (settings ++ [.segment segment]))
    (hflags : ¬ (.quiet ∈ settings ∧ .verbose ∈ settings)) :
    launchCommand.finish calledBy state trailing =
      .ok ⟨settings ++ [.segment segment], trailing⟩ := by
  have hsettings : next.given.filterMap (·.2) = settings ++ [.segment segment] := by
    simp [hgiven, givenFor, List.filterMap_map]
  exact Command.finish_eq_ok_iff.mpr ⟨next, Command.proceed_eq_ok_iff.mpr hsettle,
    conflict?_of_given hgiven hflags, missing_of_given hgiven, by rw [hsettings]⟩

theorem finish_of_settle (trailing : List Bytes)
    (hsettle : state.settle = (completeState settings segment, none))
    (hflags : ¬ (.quiet ∈ settings ∧ .verbose ∈ settings)) :
    launchCommand.finish calledBy state trailing =
      .ok ⟨settings ++ [.segment segment], trailing⟩ :=
  finish_of_given calledBy trailing hsettle rfl hflags

end Given

end

/-! ## What is handed on -/

/-- The long names of the launcher's options. -/
def longNames : List Bytes :=
  ["engine", "config", "quiet", "verbose", "help", "version"].map Bytes.ofString

/-- The letters of the launcher's options. -/
def optionLetters : Bytes := Bytes.ofString "ecqvhV"

/-- The argument is handed on where it comes first after the segment: it is plain, or a long
name in UTF-8 that is none of the launcher's, or a cluster with a letter that is none of the
launcher's. -/
def HandedOn (argument : Bytes) : Prop :=
  match Shape.of argument with
  | .escape => False
  | .long long _ => long ∉ longNames ∧ (Text.Utf8.decode? long).isSome
  | .short letters => ∃ letter ∈ letters, letter ∉ optionLetters
  | .plain => True

theorem findLong_eq_none_iff {long : Bytes} :
    launchCommand.findLong long = none ↔ long ∉ longNames := by
  have hnames : longNames = launchCommand.options.map fun spec => Bytes.ofString spec.long := rfl
  rw [Command.findLong, List.find?_eq_none, hnames]
  simp

theorem findShort_eq_none_iff {letter : UInt8} :
    launchCommand.findShort letter = none ↔ letter ∉ optionLetters := by
  have hletters : optionLetters = [0x65, 0x63, 0x71, 0x76, 0x68, 0x56] := rfl
  rw [Command.findShort, List.find?_eq_none, hletters]
  simp [launchCommand, engineOption, configOption, quietOption, verboseOption, helpOption,
    versionOption, ← UInt8.toNat_inj]
  omega

/-- The launcher's command passes on what is handed on. -/
theorem passesOn_iff {argument : Bytes} : launchCommand.PassesOn argument ↔ HandedOn argument := by
  unfold Command.PassesOn HandedOn
  cases Shape.of argument with
  | escape | plain => exact Iff.rfl
  | long long attached => simp only [findLong_eq_none_iff]
  | short letters => simp only [findShort_eq_none_iff]

/-! ## The whole command line -/

theorem Leading.segment_fresh (leading : Leading) :
    .segment ∉ leading.settings.map LaunchSetting.topic := by
  intro hmem
  obtain ⟨setting, hsetting, htopic⟩ := List.mem_map.mp hmem
  cases setting with
  | segment => exact leading.isOption _ hsetting
  | _ => cases htopic

theorem Leading.flags (leading : Leading) :
    ¬ (.quiet ∈ leading.settings ∧ .verbose ∈ leading.settings) := by
  rintro ⟨hquiet, hverbose⟩
  have heq := List.inj_on_of_nodup_map leading.nodup hquiet hverbose rfl
  cases heq

theorem Leading.ofMatches_eq (leading : Leading) (segment : Bytes) (args : List Bytes) :
    LaunchArguments.ofMatches ⟨leading.settings ++ [.segment segment], args⟩ =
      leading.arguments segment args := by
  have hsegment : leading.settings.findSome? LaunchSetting.segment? = none := by
    rw [List.findSome?_eq_none_iff]
    intro setting hsetting
    cases setting with
    | segment => exact (leading.isOption _ hsetting).elim
    | _ => rfl
  simp [LaunchArguments.ofMatches, Leading.arguments, List.findSome?_append, hsegment,
    LaunchSetting.engine?, LaunchSetting.config?, LaunchSetting.segment?]

theorem shape_of_segment {segment : Bytes} (hsegment : segment ≠ [])
    (hhyphen : segment.head? ≠ some 0x2D) : Shape.of segment = .plain := by
  cases segment with
  | nil => exact absurd rfl hsegment
  | cons first rest =>
      unfold Shape.of
      split <;> simp_all

/-- Options and a segment are read up to what follows the segment. -/
theorem parseLaunch_leading (name : Bytes) (leading : Leading) {segment : Bytes}
    (hplain : Shape.of segment = .plain) (rest : List Bytes) :
    ∃ calledBy,
      parseLaunch (name :: (leading.settings.map LaunchSetting.spelling ++ segment :: rest)) =
        (launchCommand.matchFrom calledBy (segmentState leading.settings segment) rest).map
          LaunchArguments.ofMatches := by
  refine ⟨(programName? name).getD "image-launcher", ?_⟩
  have hread := matchFrom_spellings ((programName? name).getD "image-launcher") []
    leading.settings (segment :: rest) leading.isOption leading.nodup
  rw [Command.matchFrom_next rest (step_segment _ hplain)] at hread
  exact congrArg (Except.map LaunchArguments.ofMatches) hread

/-- **What follows the segment is handed on untouched exactly if the first of it is.**  The
options in front of the segment fix everything else. -/
theorem parseLaunch_leading_iff (name : Bytes) (leading : Leading) {segment : Bytes}
    (hsegment : segment ≠ []) (hhyphen : segment.head? ≠ some 0x2D) (rest : List Bytes) :
    parseLaunch (name :: (leading.settings.map LaunchSetting.spelling ++ segment :: rest)) =
        .ok (leading.arguments segment rest) ↔
      ∀ first ∈ rest.head?, HandedOn first := by
  obtain ⟨calledBy, hparse⟩ :=
    parseLaunch_leading name leading (shape_of_segment hsegment hhyphen) rest
  have hsettle := settle_segmentState hsegment leading.segment_fresh
  rw [hparse, ← leading.ofMatches_eq]
  cases rest with
  | nil =>
      rw [Command.matchFrom, finish_of_settle calledBy [] hsettle leading.flags]
      simp [Except.map]
  | cons first rest =>
      have hbegin {next : State LaunchSetting} := @Command.step_eq_trail_iff _ launchCommand
        calledBy (segmentState leading.settings segment) next first rfl rfl rfl
      simp only [List.head?_cons, Option.mem_some_iff, forall_eq', ← passesOn_iff]
      constructor
      · intro h
        cases hfound : launchCommand.matchFrom calledBy (segmentState leading.settings segment)
            (first :: rest) with
        | error error => simp [hfound, Except.map] at h
        | ok found =>
            have hargs : found.trailing = first :: rest := by
              simpa [hfound, Except.map, LaunchArguments.ofMatches] using
                congrArg (Except.map LaunchArguments.args) h
            obtain ⟨next, hstep⟩ := Command.exists_trail_of_trailing_eq hfound hargs
            exact (hbegin.mp hstep).1
      · intro hpasses
        have hsettled : launchCommand.settled calledBy (segmentState leading.settings segment) =
            .ok (completeState leading.settings segment) := by
          rw [Command.settled, hsettle]
          rfl
        rw [Command.matchFrom_trail rest (hbegin.mpr ⟨hpasses, hsettled⟩),
          finish_of_settle calledBy (first :: rest) rfl leading.flags]
        rfl

/-- An option of the engine's own after the segment, and the launcher's flag behind it. -/
theorem parseLaunch_leading_heap :
    let leading : Leading :=
      ⟨[.engine (Bytes.ofString "vm"), .quiet], by simp [LaunchSetting.IsOption]; decide, by decide⟩
    let segment := Bytes.ofString "kernel.seg"
    let rest := ["--heap", "-v"].map Bytes.ofString
    segment ≠ [] ∧ segment.head? ≠ some 0x2D ∧
      parseLaunch (Bytes.ofString "prog" ::
        (leading.settings.map LaunchSetting.spelling ++ segment :: rest)) =
          .ok (leading.arguments segment rest) := by
  refine ⟨by decide, by decide, (parseLaunch_leading_iff _ _ (by decide) (by decide) _).mpr ?_⟩
  have hheap : HandedOn (Bytes.ofString "--heap") := by
    show Bytes.ofString "heap" ∉ longNames ∧ (Text.Utf8.decode? (Bytes.ofString "heap")).isSome
    decide
  simpa using hheap

/-- The launcher's own flag right after the segment is read, and not handed on. -/
theorem parseLaunch_flag_after_segment :
    let argv := ["prog", "kernel.seg", "-v"].map Bytes.ofString
    let segment := Bytes.ofString "kernel.seg"
    parseLaunch argv = .ok ⟨none, none, false, true, segment, []⟩ ∧
      parseLaunch argv ≠ .ok ⟨none, none, false, false, segment, [Bytes.ofString "-v"]⟩ := by
  decide

/-- **Once an argument is handed on, so is everything that follows it.**  A command line that is
accepted with arguments for the engine may be continued in any way: what is added comes behind
those arguments, and nothing else changes. -/
theorem parseLaunch_append_of_args {argv : List Bytes} {arguments : LaunchArguments}
    (h : parseLaunch argv = .ok arguments) (hargs : arguments.args ≠ []) (more : List Bytes) :
    parseLaunch (argv ++ more) = .ok { arguments with args := arguments.args ++ more } := by
  obtain ⟨found, hfound, rfl⟩ := map_eq_ok_iff.mp h
  obtain ⟨front, first, rest, htail, htrailing, hmore⟩ :=
    Command.exists_front_of_matchFrom hfound hargs
  cases argv with
  | nil => simp at htail
  | cons name tail =>
      rw [List.tail_cons] at htail
      have hcontinued : (name :: tail ++ more).tail = front ++ first :: (rest ++ more) := by
        rw [List.cons_append, List.tail_cons, htail, List.append_assoc, List.cons_append]
      refine map_eq_ok_iff.mpr ⟨{ found with trailing := first :: (rest ++ more) }, ?_, ?_⟩
      · rw [hcontinued]
        exact hmore (rest ++ more)
      · simp [LaunchArguments.ofMatches, htrailing]

/-- Behind an unknown letter come requests for help, an escape, nothing at all, bytes that are no
text and the launcher's own flags. -/
theorem parseLaunch_append_of_args_flags :
    let argv := ["prog", "-q", "kernel.seg", "-x"].map Bytes.ofString
    let arguments : LaunchArguments :=
      ⟨none, none, true, false, Bytes.ofString "kernel.seg", [Bytes.ofString "-x"]⟩
    let more := [Bytes.ofString "--help", Bytes.ofString "--", [], [0xFF], Bytes.ofString "-qv"]
    parseLaunch argv = .ok arguments ∧ arguments.args ≠ [] ∧
      parseLaunch (argv ++ more) = .ok { arguments with args := arguments.args ++ more } := by
  intro argv arguments more
  have hargv : parseLaunch argv = .ok arguments := by decide
  exact ⟨hargv, by decide, parseLaunch_append_of_args hargv (by decide) more⟩

end ImageLaunch.CommandLine
