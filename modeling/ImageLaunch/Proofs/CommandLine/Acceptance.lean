import ImageLaunch.Proofs.CommandLine.Spelling

/-!
# ImageLaunch.Proofs.CommandLine.Acceptance

What an accepted command line can say, however it is written.

For any command, the reading keeps an account of what it holds (`Command.Accounted`): what waits
to be settled belongs to a subject of the command, and each setting was read from a value for
such a subject.  Every argument keeps it, whatever way it takes through the reading
(`Accounted.step`), and so does a whole run (`exists_accounted_of_matchFrom`), at whose end no
two options exclude each other and nothing is missing.

For the launcher this leaves what is `Sayable`, and all of that can be said
(`exists_parseLaunch_iff`).
-/

namespace ImageLaunch.CommandLine

/-! ## The account of what a reading holds -/

section

variable {σ : Type} {command : Command σ} {calledBy : String}

namespace Command

variable (command) in
/-- The subject is one of the command's. -/
def Offers : Subject σ → Prop
  | .option spec => spec ∈ command.options
  | .operand spec => command.operand = some spec

variable (command) in
/-- The setting was read from a value for a subject of the command. -/
def Makes (subject : Subject σ) (setting : σ) : Prop :=
  command.Offers subject ∧ ∃ value, subject.readValue value = .ok setting

variable (command) in
/-- Each setting was read from a value for a subject of the command, and what waits to be settled
belongs to such a subject. -/
structure Accounted (state : State σ) : Prop where
  given : ∀ entry ∈ state.given, ∃ setting, entry.2 = some setting ∧ command.Makes entry.1 setting
  pending : ∀ entry ∈ state.pending, command.Offers entry.1

theorem accounted_start : command.Accounted {} where
  given := by simp
  pending := by simp

namespace Accounted

variable {state next : State σ} {spec : OptionSpec σ} {subject : Subject σ}
  {value argument long letters : Bytes} {attached : Option Bytes}

theorem enter (h : command.Accounted state) (hoffers : command.Offers subject)
    (henter : state.enter subject (subject.readValue value) = (next, none)) :
    command.Accounted next := by
  -- a value that was refused would have been a problem
  obtain ⟨-, setting, hread, rfl⟩ := State.enter_eq_iff.mp henter
  refine ⟨fun entry hentry => ?_, h.pending⟩
  rcases List.mem_append.mp hentry with hbefore | hlast
  · exact h.given entry hbefore
  · rw [List.mem_singleton.mp hlast]
    exact ⟨setting, rfl, hoffers, value, hread⟩

theorem settled (h : command.Accounted state)
    (hsettled : command.settled calledBy state = .ok next) : command.Accounted next := by
  rw [Command.settled, proceed_eq_ok_iff, State.settle] at hsettled
  split at hsettled
  · cases hsettled
    exact h
  · cases hsettled
  · next subject value hpending =>
      have hrest : command.Accounted { state with pending := none } := ⟨h.given, by simp⟩
      exact hrest.enter (h.pending _ hpending) hsettled

theorem give (h : command.Accounted state) (hspec : spec ∈ command.options)
    (hgive : command.give calledBy state spec value = .ok next) : command.Accounted next := by
  have hoffers : command.Offers (.option spec) := hspec
  obtain ⟨middle, hsettled, hentered⟩ := bind_eq_ok_iff.mp hgive
  split at hentered
  · cases hentered
  · cases hentered
  · exact (h.settled hsettled).enter hoffers (proceed_eq_ok_iff.mp hentered)

theorem await (h : command.Accounted state) (hspec : spec ∈ command.options)
    (hawait : command.await calledBy state spec = .ok next) : command.Accounted next := by
  obtain ⟨middle, hsettled, hwaits⟩ := bind_eq_ok_iff.mp hawait
  cases hwaits
  refine ⟨(h.settled hsettled).given, fun entry hentry => ?_⟩
  cases hentry
  exact hspec

theorem readLong (h : command.Accounted state)
    (hread : command.readLong calledBy state long attached = .ok (some next)) :
    command.Accounted next := by
  unfold Command.readLong at hread
  split at hread
  · next spec hfind =>
      have hspec : spec ∈ command.options := List.mem_of_find?_eq_some hfind
      split at hread
      · exact h.give hspec (map_some_eq_ok_iff.mp hread)
      · exact h.await hspec (map_some_eq_ok_iff.mp hread)
      · cases hread
      · exact h.give hspec (map_some_eq_ok_iff.mp hread)
  · split at hread <;> cases hread

theorem readLetters (h : command.Accounted state)
    (hread : command.readLetters calledBy state letters = .ok next) : command.Accounted next := by
  induction letters generalizing state with
  | nil =>
      cases hread
      exact h
  | cons letter rest ih =>
      rw [Command.readLetters] at hread
      split at hread
      · cases hread
      · next spec hfind =>
          have hspec : spec ∈ command.options := List.mem_of_find?_eq_some hfind
          split at hread
          · exact h.await hspec hread
          · exact h.give hspec hread
          · exact h.give hspec hread
          · obtain ⟨middle, hgive, hrest⟩ := bind_eq_ok_iff.mp hread
            exact ih (h.give hspec hgive) hrest

theorem readShort (h : command.Accounted state)
    (hread : command.readShort calledBy state letters = .ok (some next)) :
    command.Accounted next := by
  unfold Command.readShort at hread
  split at hread
  · cases hread
  · exact h.readLetters (map_some_eq_ok_iff.mp hread)

end Accounted

/-- The state that an argument leaves. -/
def Step.state : Step σ → State σ
  | .next state | .trail state => state

namespace Accounted

variable {state : State σ} {argument : Bytes} {outcome : Step σ}

theorem takeOperand (h : command.Accounted state)
    (htake : command.takeOperand calledBy state argument = .ok outcome) :
    command.Accounted outcome.state := by
  unfold Command.takeOperand at htake
  split at htake
  · next spec hoperand _ =>
      obtain ⟨middle, hsettled, hnext⟩ := bind_eq_ok_iff.mp htake
      cases hnext
      refine ⟨(h.settled hsettled).given, fun entry hentry => ?_⟩
      cases hentry
      exact hoperand
  · split at htake
    · obtain ⟨middle, hsettled, htrail⟩ := bind_eq_ok_iff.mp htake
      cases htrail
      exact h.settled hsettled
    · cases htake

theorem takePlain (h : command.Accounted state)
    (htake : command.takePlain calledBy state argument = .ok outcome) :
    command.Accounted outcome.state := by
  unfold Command.takePlain at htake
  split at htake
  · next subject hawaiting =>
      cases htake
      refine ⟨h.given, fun entry hentry => ?_⟩
      cases hentry
      -- the subject that gets the value is the one that waited for it
      unfold State.awaiting at hawaiting
      split at hawaiting
      · next hpending =>
          cases hawaiting
          exact h.pending (subject, none) hpending
      · cases hawaiting
  · exact h.takeOperand htake

theorem orPlain (h : command.Accounted state) {left : Except UsageError (Option (State σ))}
    (hleft : ∀ next, left = .ok (some next) → command.Accounted next)
    (htake : command.orPlain calledBy state argument left = .ok outcome) :
    command.Accounted outcome.state := by
  rcases left with error | _ | next
  · cases htake
  · exact h.takePlain htake
  · cases htake
    exact hleft next rfl

/-- One argument keeps the account, whatever way it takes. -/
theorem step (h : command.Accounted state)
    (hstep : command.step calledBy state argument = .ok outcome) :
    command.Accounted outcome.state := by
  unfold Command.step at hstep
  split at hstep
  · exact h.takeOperand hstep
  · split at hstep
    · cases hstep
      exact ⟨h.given, h.pending⟩
    · exact h.orPlain (fun next hread => h.readLong hread) hstep
    · exact h.orPlain (fun next hread => h.readShort hread) hstep
    · exact h.takePlain hstep

end Accounted

/-- An end of the reading leaves the account as it is, with no conflict and nothing missing. -/
theorem exists_accounted_of_finish {state : State σ} {trailing : List Bytes} {found : Matches σ}
    (h : command.Accounted state) (hfinish : command.finish calledBy state trailing = .ok found) :
    ∃ last, command.Accounted last ∧ command.conflict? last = none ∧ command.missing last = [] ∧
      found.settings = last.given.filterMap (·.2) := by
  obtain ⟨last, hsettled, hconflict, hmissing, rfl⟩ := finish_eq_ok_iff.mp hfinish
  exact ⟨last, h.settled hsettled, hconflict, hmissing, rfl⟩

/-- What is found by a reading that ends well was made in a state that is accounted for, where no
two options exclude each other and nothing is missing. -/
theorem exists_accounted_of_matchFrom {state : State σ} {arguments : List Bytes}
    {found : Matches σ} (h : command.Accounted state)
    (hfound : command.matchFrom calledBy state arguments = .ok found) :
    ∃ last, command.Accounted last ∧ command.conflict? last = none ∧ command.missing last = [] ∧
      found.settings = last.given.filterMap (·.2) := by
  induction arguments generalizing state with
  | nil => exact exists_accounted_of_finish h hfound
  | cons argument rest ih =>
      rcases matchFrom_cons_eq_ok_iff.mp hfound with ⟨next, hstep, hrest⟩ | ⟨next, hstep, hend⟩
      · have hnext : command.Accounted next := h.step hstep
        exact ih hnext hrest
      · have hnext : command.Accounted next := h.step hstep
        exact exists_accounted_of_finish hnext hend

end Command

end

/-! ## The launcher's settings -/

/-- What the setting names has at least one byte. -/
def LaunchSetting.Filled : LaunchSetting → Prop
  | .engine value | .config value | .segment value => value ≠ []
  | .quiet | .verbose => True

/-- A value that is read for one of the launcher's subjects makes the setting of that subject, and
that is filled. -/
theorem filled_of_makes {subject : Subject LaunchSetting} {setting : LaunchSetting}
    (h : launchCommand.Makes subject setting) : setting.subject = subject ∧ setting.Filled := by
  obtain ⟨hoffers, value, hread⟩ := h
  cases subject with
  | operand spec =>
      cases hoffers
      obtain ⟨rfl, hvalue⟩ := read_eq_ok_iff.mp hread
      exact ⟨rfl, hvalue⟩
  | option spec =>
      have hoptions : spec ∈
          [engineOption, configOption, quietOption, verboseOption, helpOption, versionOption] :=
        hoffers
      simp only [List.mem_cons, List.not_mem_nil, or_false] at hoptions
      rcases hoptions with rfl | rfl | rfl | rfl | rfl | rfl
      · obtain ⟨rfl, hvalue⟩ := read_eq_ok_iff.mp hread
        exact ⟨rfl, hvalue⟩
      · obtain ⟨rfl, hvalue⟩ := read_eq_ok_iff.mp hread
        exact ⟨rfl, hvalue⟩
      · cases hread
        exact ⟨rfl, trivial⟩
      · cases hread
        exact ⟨rfl, trivial⟩
      · cases hread
      · cases hread

section Given

variable {given : List (Subject LaunchSetting × Option LaunchSetting)}
  {state : State LaunchSetting} {settings : List LaunchSetting}

/-- Settings that are accounted for are what the launcher was given, and are filled. -/
theorem given_eq_givenFor
    (h : ∀ entry ∈ given, ∃ setting, entry.2 = some setting ∧ launchCommand.Makes entry.1 setting) :
    given = givenFor (given.filterMap (·.2)) ∧
      ∀ setting ∈ given.filterMap (·.2), setting.Filled := by
  induction given with
  | nil => exact ⟨rfl, by simp⟩
  | cons entry given ih =>
      obtain ⟨hgiven, hfilled⟩ := ih fun other hother => h other (List.mem_cons_of_mem entry hother)
      obtain ⟨setting, hentry, hmakes⟩ := h entry List.mem_cons_self
      obtain ⟨hsubject, hsetting⟩ := filled_of_makes hmakes
      have hhead : entry = (setting.subject, some setting) := Prod.ext hsubject.symm hentry
      rw [List.filterMap_cons_some hentry]
      refine ⟨?_, List.forall_mem_cons.mpr ⟨hsetting, hfilled⟩⟩
      rw [givenFor, List.map_cons, ← hhead]
      exact congrArg (entry :: ·) hgiven

/-- Where no two options exclude each other, at most one of the flags is given. -/
theorem flags_of_conflict? (hgiven : state.given = givenFor settings)
    (hconflict : launchCommand.conflict? state = none) :
    ¬ (.quiet ∈ settings ∧ .verbose ∈ settings) := by
  rintro ⟨hquiet, hverbose⟩
  have hsubject (setting : LaunchSetting) (hmem : setting ∈ settings) :
      setting.subject ∈ state.subjects := by
    rw [State.subjects, hgiven]
    exact List.mem_map.mpr ⟨_, List.mem_map.mpr ⟨setting, hmem, rfl⟩, rfl⟩
  have hexcludes := Command.conflict?_eq_none_iff.mp hconflict _ (hsubject _ hquiet) _
    (hsubject _ hverbose)
  exact absurd hexcludes (by decide)

/-- Where nothing is missing, the segment is given. -/
theorem exists_segment_of_missing (hgiven : state.given = givenFor settings)
    (hmissing : launchCommand.missing state = []) : ∃ path, .segment path ∈ settings := by
  have hhas : state.has (.operand segmentOperand) = true := Command.has_of_missing hmissing rfl
  rw [State.has, hgiven, List.any_eq_true] at hhas
  obtain ⟨entry, hentry, hsame⟩ := hhas
  obtain ⟨setting, hsetting, rfl⟩ := List.mem_map.mp hentry
  have hshown : setting.subject.shown = (LaunchSetting.segment []).subject.shown :=
    of_decide_eq_true hsame
  cases setting with
  | segment path => exact ⟨path, hsetting⟩
  | _ =>
      exact absurd hshown (LaunchSetting.shown_ne_of_topic_ne (by simp [LaunchSetting.topic]))

end Given

/-! ## What can be said -/

namespace LaunchArguments

/-- Filled settings with a segment among them, and not both flags, say what can be said. -/
theorem sayable_ofMatches {settings : List LaunchSetting} (trailing : List Bytes)
    (hfilled : ∀ setting ∈ settings, setting.Filled)
    (hflags : ¬ (.quiet ∈ settings ∧ .verbose ∈ settings))
    (hsegment : ∃ path, .segment path ∈ settings) :
    (ofMatches ⟨settings, trailing⟩).Sayable where
  engine program hprogram := by
    obtain ⟨setting, hsetting, hfind⟩ := List.exists_of_findSome?_eq_some hprogram
    cases setting <;> cases hfind
    exact hfilled _ hsetting
  config path hpath := by
    obtain ⟨setting, hsetting, hfind⟩ := List.exists_of_findSome?_eq_some hpath
    cases setting <;> cases hfind
    exact hfilled _ hsetting
  segment := by
    obtain ⟨path, hpath⟩ := hsegment
    rw [ofMatches]
    cases hfirst : settings.findSome? LaunchSetting.segment? with
    | none =>
        have hnone := List.findSome?_eq_none_iff.mp hfirst _ hpath
        cases hnone
    | some first =>
        obtain ⟨setting, hsetting, hfind⟩ := List.exists_of_findSome?_eq_some hfirst
        cases setting <;> cases hfind
        exact hfilled _ hsetting
  flags := by simpa [ofMatches] using hflags

end LaunchArguments

/-- **What the launcher's command lines say is what can be said.**  Whatever is accepted, in any
spelling, order and place, has no empty path and not both flags; and everything of that kind is
said by some command line. -/
theorem exists_parseLaunch_iff {arguments : LaunchArguments} :
    (∃ argv, parseLaunch argv = .ok arguments) ↔ arguments.Sayable := by
  constructor
  · rintro ⟨argv, h⟩
    obtain ⟨found, hfound, rfl⟩ := map_eq_ok_iff.mp h
    obtain ⟨last, haccounted, hconflict, hmissing, hsettings⟩ :=
      Command.exists_accounted_of_matchFrom Command.accounted_start hfound
    obtain ⟨hgiven, hfilled⟩ := given_eq_givenFor haccounted.given
    rw [← hsettings] at hgiven hfilled
    exact LaunchArguments.sayable_ofMatches found.trailing hfilled
      (flags_of_conflict? hgiven hconflict) (exists_segment_of_missing hgiven hmissing)
  · intro hsayable
    let leading := hsayable.leading (List.Perm.refl _)
    have hoptions := matchFrom_spellings "image-launcher" [] leading.settings
      (Bytes.ofString "--" :: arguments.segment :: arguments.args) leading.isOption leading.nodup
    rw [List.nil_append, matchFrom_escaped "image-launcher" (reads_stateOf _) hsayable.segment
      leading.segment_fresh leading.flags arguments.args] at hoptions
    refine ⟨[] :: (leading.settings.map LaunchSetting.spelling ++
      Bytes.ofString "--" :: arguments.segment :: arguments.args), ?_⟩
    have hsaid : LaunchArguments.ofMatches
        ⟨leading.settings ++ [.segment arguments.segment], arguments.args⟩ = arguments :=
      (leading.ofMatches_eq _ _).trans (hsayable.leading_arguments (List.Perm.refl _))
    have hread := congrArg (Except.map LaunchArguments.ofMatches) hoptions
    exact hread.trans (congrArg Except.ok hsaid)

/-- Options in a cluster and behind the segment are read up to the first argument that is handed
on; the two flags in one cluster are refused there, too. -/
example :
    parseLaunch (["prog", "-vc", "l.toml", "kernel.seg", "--engine=vm", "-x",
        "-q"].map Bytes.ofString) =
        .ok ⟨some (Bytes.ofString "vm"), some (Bytes.ofString "l.toml"), false, true,
          Bytes.ofString "kernel.seg", ["-x", "-q"].map Bytes.ofString⟩ ∧
      (parseLaunch (["prog", "kernel.seg", "-qv"].map Bytes.ofString)).isOk = false := by
  decide

end ImageLaunch.CommandLine
