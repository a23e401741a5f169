import ImageLaunch.CommandLine.Matching
import ImageLaunch.Proofs.Outcome

/-!
# ImageLaunch.Proofs.CommandLine.Reading

Facts about reading the arguments of any command, one argument at a time.

* `trailing_suffix_of_matchFrom` — the trailing arguments that are found are an end of the
  arguments that were read, unchanged;
* `exists_front_of_matchFrom` — what follows the first of them is not read: anything may stand
  there;
* `step_eq_trail_iff` — where the next plain argument would be a trailing one, an argument
  starts the trailing arguments exactly if the command passes it on.
-/

namespace ImageLaunch.CommandLine

/-- A subject is entered without a problem if it is new and its value could be read. -/
theorem State.enter_eq_iff {σ : Type} {state next : State σ} {subject : Subject σ}
    {outcome : Except Problem σ} :
    state.enter subject outcome = (next, none) ↔
      state.has subject = false ∧ ∃ setting, outcome = .ok setting ∧
        next = { state with given := state.given ++ [(subject, some setting)] } := by
  unfold State.enter
  cases state.has subject with
  | true => simp
  | false => cases outcome <;> simp [eq_comm]

namespace Command

variable {σ : Type} (command : Command σ) (calledBy : String)

/-! ## Running over the arguments -/

variable {command calledBy}

theorem proceed_eq_ok_iff {result : State σ × Option Problem} {next : State σ} :
    command.proceed calledBy result = .ok next ↔ result = (next, none) := by
  obtain ⟨state, _ | problem⟩ := result <;> simp [proceed, fail]

theorem matchFrom_next {state next : State σ} {argument : Bytes} (rest : List Bytes)
    (hstep : command.step calledBy state argument = .ok (.next next)) :
    command.matchFrom calledBy state (argument :: rest) = command.matchFrom calledBy next rest := by
  rw [matchFrom, hstep]
  rfl

theorem matchFrom_trail {state next : State σ} {argument : Bytes} (rest : List Bytes)
    (hstep : command.step calledBy state argument = .ok (.trail next)) :
    command.matchFrom calledBy state (argument :: rest) =
      command.finish calledBy next (argument :: rest) := by
  rw [matchFrom, hstep]
  rfl

theorem matchFrom_error {state : State σ} {argument : Bytes} {error : UsageError}
    (rest : List Bytes)
    (hstep : command.step calledBy state argument = .error error) :
    command.matchFrom calledBy state (argument :: rest) = .error error := by
  rw [matchFrom, hstep]
  rfl

/-- A reading that ends well goes on from each argument, or ends where the trailing ones begin. -/
theorem matchFrom_cons_eq_ok_iff {state : State σ} {argument : Bytes} {rest : List Bytes}
    {found : Matches σ} :
    command.matchFrom calledBy state (argument :: rest) = .ok found ↔
      (∃ next, command.step calledBy state argument = .ok (.next next) ∧
        command.matchFrom calledBy next rest = .ok found) ∨
      (∃ next, command.step calledBy state argument = .ok (.trail next) ∧
        command.finish calledBy next (argument :: rest) = .ok found) := by
  cases hstep : command.step calledBy state argument with
  | error error => simp [matchFrom_error rest hstep]
  | ok outcome =>
      cases outcome with
      | next next => simp [matchFrom_next rest hstep]
      | trail next => simp [matchFrom_trail rest hstep]

variable (command calledBy) in
/-- Reading some arguments leads from one state to another, whatever follows them. -/
def LeadsTo (state : State σ) (arguments : List Bytes) (next : State σ) : Prop :=
  ∀ rest, command.matchFrom calledBy state (arguments ++ rest) =
    command.matchFrom calledBy next rest

namespace LeadsTo

variable {state middle next : State σ} {arguments more : List Bytes} {argument : Bytes}

theorem refl (state : State σ) : LeadsTo command calledBy state [] state := fun _ => rfl

theorem append (h : LeadsTo command calledBy state arguments middle)
    (hmore : LeadsTo command calledBy middle more next) :
    LeadsTo command calledBy state (arguments ++ more) next := by
  intro rest
  rw [List.append_assoc, h, hmore]

theorem of_step (hstep : command.step calledBy state argument = .ok (.next next)) :
    LeadsTo command calledBy state [argument] next :=
  fun rest => matchFrom_next rest hstep

end LeadsTo

/-- There is no conflict exactly if no two of the given subjects exclude each other. -/
theorem conflict?_eq_none_iff {state : State σ} :
    command.conflict? state = none ↔
      ∀ first ∈ state.subjects, ∀ second ∈ state.subjects,
        command.excludes first second = false := by
  simp only [conflict?, List.findSome?_eq_none_iff, Option.map_eq_none_iff, List.find?_eq_none,
    Bool.not_eq_true]

/-- Where nothing is missing, the operand has been given. -/
theorem has_of_missing {state : State σ} {spec : OperandSpec σ}
    (hmissing : command.missing state = []) (hoperand : command.operand = some spec) :
    state.has (.operand spec) = true := by
  rw [missing, List.filter_eq_nil_iff] at hmissing
  simpa using hmissing (.operand spec) (by simp [hoperand])

/-- A reading ends well if the last value can be settled, no two options exclude each other and
nothing is missing; then it finds the settings made, and what is left as trailing arguments. -/
theorem finish_eq_ok_iff {state : State σ} {trailing : List Bytes} {found : Matches σ} :
    command.finish calledBy state trailing = .ok found ↔
      ∃ next, command.settled calledBy state = .ok next ∧ command.conflict? next = none ∧
        command.missing next = [] ∧ found = ⟨next.given.filterMap (·.2), trailing⟩ := by
  rw [finish, bind_eq_ok_iff]
  refine exists_congr fun next => and_congr_right fun _ => ?_
  cases command.conflict? next with
  | some pair => simp
  | none =>
      cases command.missing next with
      | nil => simp [pure, Except.pure, eq_comm]
      | cons subject subjects => simp

/-- What is left at the end is found as the trailing arguments. -/
theorem trailing_of_finish {state : State σ} {trailing : List Bytes} {found : Matches σ}
    (h : command.finish calledBy state trailing = .ok found) : found.trailing = trailing := by
  obtain ⟨next, -, -, -, rfl⟩ := finish_eq_ok_iff.mp h
  rfl

/-- The trailing arguments are an end of the arguments, unchanged. -/
theorem trailing_suffix_of_matchFrom {state : State σ} {arguments : List Bytes}
    {found : Matches σ} (h : command.matchFrom calledBy state arguments = .ok found) :
    found.trailing <:+ arguments := by
  induction arguments generalizing state with
  | nil => simp [trailing_of_finish h]
  | cons argument rest ih =>
      rcases matchFrom_cons_eq_ok_iff.mp h with ⟨next, -, hrest⟩ | ⟨next, -, hend⟩
      · exact (ih hrest).trans (List.suffix_cons argument rest)
      · simp [trailing_of_finish hend]

/-- Behind the first trailing argument anything may stand: it is found with it, and nothing else
changes. -/
theorem exists_front_of_matchFrom {state : State σ} {arguments : List Bytes} {found : Matches σ}
    (h : command.matchFrom calledBy state arguments = .ok found) (htrailing : found.trailing ≠ []) :
    ∃ front first rest, arguments = front ++ first :: rest ∧ found.trailing = first :: rest ∧
      ∀ more, command.matchFrom calledBy state (front ++ first :: more) =
        .ok { found with trailing := first :: more } := by
  induction arguments generalizing state with
  | nil => exact absurd (trailing_of_finish h) htrailing
  | cons argument rest ih =>
      rcases matchFrom_cons_eq_ok_iff.mp h with ⟨next, hstep, hrest⟩ | ⟨next, hstep, hend⟩
      · obtain ⟨front, first, last, rfl, hfound, hmore⟩ := ih hrest
        refine ⟨argument :: front, first, last, rfl, hfound, fun more => ?_⟩
        rw [List.cons_append, matchFrom_next _ hstep, hmore]
      · refine ⟨[], argument, rest, rfl, trailing_of_finish hend, fun more => ?_⟩
        -- the end is reached in the same state, whatever is left there
        obtain ⟨last, hsettled, hconflict, hmissing, rfl⟩ := finish_eq_ok_iff.mp hend
        rw [List.nil_append, matchFrom_trail more hstep]
        exact finish_eq_ok_iff.mpr ⟨last, hsettled, hconflict, hmissing, rfl⟩

/-- If all the arguments are found as trailing ones, the first of them began those. -/
theorem exists_trail_of_trailing_eq {state : State σ} {first : Bytes} {rest : List Bytes}
    {found : Matches σ} (h : command.matchFrom calledBy state (first :: rest) = .ok found)
    (htrailing : found.trailing = first :: rest) :
    ∃ next, command.step calledBy state first = .ok (.trail next) := by
  rcases matchFrom_cons_eq_ok_iff.mp h with ⟨next, -, hrest⟩ | ⟨next, hstep, -⟩
  · have hlength := (trailing_suffix_of_matchFrom hrest).length_le
    rw [htrailing, List.length_cons] at hlength
    omega
  · exact ⟨next, hstep⟩

/-! ## Where trailing arguments begin -/

variable (command) in
/-- The command hands the argument on where trailing arguments may begin: it is no option
and no escape, and an unknown long name is text. -/
def PassesOn (argument : Bytes) : Prop :=
  match Shape.of argument with
  | .escape => False
  | .long long _ => command.findLong long = none ∧ (Text.Utf8.decode? long).isSome
  | .short letters => ∃ letter ∈ letters, command.findShort letter = none
  | .plain => True

theorem map_some_ne_ok_none {α : Type} (outcome : Except UsageError α) :
    some <$> outcome ≠ .ok none := by
  cases outcome <;> simp [Functor.map, Except.map]

/-- Where an option is read, the reading goes on from the state that is left. -/
theorem map_some_eq_ok_iff {outcome : Except UsageError (State σ)} {next : State σ} :
    some <$> outcome = .ok (some next) ↔ outcome = .ok next := by
  cases outcome <;> simp [Functor.map, Except.map]

/-- A long option counts as plain exactly if it is an unknown text where trailing arguments
may begin. -/
theorem readLong_eq_none_iff {state : State σ} {long : Bytes} {attached : Option Bytes} :
    command.readLong calledBy state long attached = .ok none ↔
      (command.findLong long = none ∧ (Text.Utf8.decode? long).isSome) ∧
        command.trailingIsNext state := by
  unfold readLong
  cases hfind : command.findLong long with
  | some spec =>
      simp only [reduceCtorEq, false_and, iff_false]
      split <;> first | exact map_some_ne_ok_none _ | simp
  | none =>
      simp only [true_and]
      split
      · simpa
      · simp_all [unknownLong]

/-- A cluster counts as plain exactly if it holds an unknown letter where trailing arguments
may begin. -/
theorem readShort_eq_none_iff {state : State σ} {letters : Bytes} :
    command.readShort calledBy state letters = .ok none ↔
      (∃ letter ∈ letters, command.findShort letter = none) ∧ command.trailingIsNext state := by
  unfold readShort
  by_cases hplain : command.trailingIsNext state ∧
      letters.any fun letter => (command.findShort letter).isNone
  · rw [if_pos hplain]
    obtain ⟨hnext, hany⟩ := hplain
    exact ⟨fun _ => ⟨by simpa using hany, hnext⟩, fun _ => rfl⟩
  · rw [if_neg hplain]
    constructor
    · intro h
      exact absurd h (map_some_ne_ok_none _)
    · rintro ⟨hunknown, hnext⟩
      exact absurd ⟨hnext, by simpa using hunknown⟩ hplain

/-- Where the operand has yet to come, the next argument taken by its place is its value. -/
theorem takeOperand_of_free {spec : OperandSpec σ} {state : State σ} (argument : Bytes)
    (hoperand : command.operand = some spec) (hfree : state.operandTaken = false) :
    command.takeOperand calledBy state argument =
      (fun state => .next { state with
        pending := some (.operand spec, some argument), operandTaken := true }) <$>
          command.settled calledBy state := by
  rw [takeOperand, hoperand, hfree]
  cases command.settled calledBy state <;> rfl

/-- Where trailing arguments may begin, the next argument taken by its place begins them. -/
theorem takeOperand_of_trailingIsNext {state : State σ} (argument : Bytes)
    (hnext : command.trailingIsNext state) :
    command.takeOperand calledBy state argument = .trail <$> command.settled calledBy state := by
  simp only [trailingIsNext, Bool.and_eq_true, Bool.or_eq_true] at hnext
  obtain ⟨htrailing, hoperand⟩ := hnext
  unfold takeOperand
  split
  · simp_all
  · rw [if_pos htrailing]
    rfl

theorem takePlain_of_trailingIsNext {state : State σ} (argument : Bytes)
    (hnext : command.trailingIsNext state) (hawaiting : state.awaiting = none) :
    command.takePlain calledBy state argument = .trail <$> command.settled calledBy state := by
  simp only [takePlain, hawaiting, takeOperand_of_trailingIsNext argument hnext]

theorem map_trail_eq_iff {outcome : Except UsageError (State σ)} {next : State σ} :
    Step.trail <$> outcome = .ok (.trail next) ↔ outcome = .ok next := by
  cases outcome <;> simp [Functor.map, Except.map]

theorem orPlain_eq_trail_iff {state next : State σ} {argument : Bytes}
    {outcome : Except UsageError (Option (State σ))} :
    command.orPlain calledBy state argument outcome = .ok (.trail next) ↔
      outcome = .ok none ∧ command.takePlain calledBy state argument = .ok (.trail next) := by
  rcases outcome with error | (_ | other) <;> simp [orPlain]

/-- Where trailing arguments may begin, an argument begins them exactly if it is passed on. -/
theorem step_eq_trail_iff {state next : State σ} {argument : Bytes}
    (hescaped : state.escaped = false) (hnext : command.trailingIsNext state)
    (hawaiting : state.awaiting = none) :
    command.step calledBy state argument = .ok (.trail next) ↔
      command.PassesOn argument ∧ command.settled calledBy state = .ok next := by
  rw [step, if_neg (by simp [hescaped]), PassesOn]
  cases Shape.of argument with
  | escape => simp
  | plain => simp [takePlain_of_trailingIsNext argument hnext hawaiting, map_trail_eq_iff]
  | long long attached =>
      simp only [orPlain_eq_trail_iff, readLong_eq_none_iff, hnext, and_true,
        takePlain_of_trailingIsNext argument hnext hawaiting, map_trail_eq_iff]
  | short letters =>
      simp only [orPlain_eq_trail_iff, readShort_eq_none_iff, hnext, and_true,
        takePlain_of_trailingIsNext argument hnext hawaiting, map_trail_eq_iff]

end Command

end ImageLaunch.CommandLine
